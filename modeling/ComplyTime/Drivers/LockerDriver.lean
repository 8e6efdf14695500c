import ComplyTime.Core.SlashPath
import ComplyTime.Graph.Loader

/-!
# The locker driver

The driver fetches an entry by a source of the form `locker://a/entry/b`.  It
checks the form before it builds the URL: the scheme, at least three parts
between slashes, and the second of them.
-/

namespace ComplyTime.Drivers

open ComplyTime.Graph SlashPath

/-- The fields of the driver, and whether `http.NewRequestWithContext` refuses
a URL. -/
structure Driver where
  lockerURL : String
  newRequest : Bytes → Option GoError

def scheme : String := "locker://"

/-- `strings.CutPrefix(source, "locker://")`. -/
def cutScheme (source : String) : Option String :=
  if hasPrefix source scheme then
    some (String.ofList (source.toList.drop scheme.toList.length))
  else none

/-- `strings.SplitN(path, "/", 3)`. -/
def splitThree (path : String) : List String :=
  match segments path with
  | first :: second :: third :: rest => [first, second, joined (third :: rest)]
  | few => few

def invalidFormat (source : String) : GoError :=
  .message ("invalid locker URI format, expected " ++
    "locker://subjectId/entry/index: " ++ source)

/-- The URL that `Fetch` requests for a source. -/
def Driver.url (driver : Driver) (source : String) : Except GoError String :=
  match cutScheme source with
  | none => .error (.message ("invalid locker URI: " ++ source))
  | some path =>
    match splitThree path with
    | [_, middle, _] =>
      if middle ≠ "entry" then .error (invalidFormat source)
      else .ok (driver.lockerURL ++ "/ledgers/" ++ path)
    | _ => .error (invalidFormat source)

/-- `Fetch`; the result is the body of the response, which the caller reads. -/
def Driver.fetch (driver : Driver)
    (respond : Bytes → Except GoError HTTPResponse) (source : String) :
    Except GoError (Except GoError Bytes) :=
  match driver.url source with
  | .error err => .error err
  | .ok url =>
    match driver.newRequest (utf8 url) with
    | some err => .error (.within "creating request" err)
    | none =>
      match respond (utf8 url) with
      | .error err => .error (.within "fetching from locker" err)
      | .ok response =>
        if response.statusCode = 200 then .ok response.body
        else .error (.message ("locker returned status " ++
          toString response.statusCode ++ " for " ++ source))

/-! ## Which sources are accepted -/

/-- The form of a reference to an entry. -/
def IsReference (source : String) : Prop :=
  ∃ subject index, Plain subject ∧
    source = scheme ++ (subject ++ "/entry/" ++ index)

theorem cutScheme_append (path : String) :
    cutScheme (scheme ++ path) = some path := by
  rw [cutScheme, if_pos (hasPrefix_append _ _), String.toList_append,
    List.drop_left, String.ofList_toList]

theorem eq_append_of_cutScheme {source path : String}
    (hcut : cutScheme source = some path) : source = scheme ++ path := by
  obtain ⟨hstarts, hpath⟩ := Option.ite_none_right_eq_some.mp hcut
  obtain ⟨rest, hrest⟩ := List.isPrefixOf_iff_prefix.mp hstarts
  obtain rfl := Option.some.inj hpath
  rw [← String.toList_inj, String.toList_append, String.toList_ofList, ← hrest,
    List.drop_left]

theorem segments_ne_nil (path : String) : segments path ≠ [] := by
  simp [segments]

theorem splitThree_entry {subject : String} (hplain : Plain subject)
    (index : String) :
    splitThree (subject ++ "/entry/" ++ index) = [subject, "entry", index] := by
  have hsegments : segments (subject ++ "/entry/" ++ index) =
      subject :: "entry" :: segments index := by
    have hslashes : subject ++ "/entry/" ++ index =
        subject ++ "/" ++ "entry" ++ "/" ++ index := by
      simp only [String.append_assoc]
      rfl
    have hentry : segments "entry" = ["entry"] := by decide
    rw [hslashes, segments_append, segments_append, hentry,
      segments_of_plain hplain]
    rfl
  obtain ⟨third, rest, hindex⟩ :=
    List.exists_cons_of_ne_nil (segments_ne_nil index)
  rw [splitThree, hsegments, hindex]
  simp only
  rw [← hindex, joined_segments]

theorem eq_of_splitThree {path first second third : String}
    (hparts : splitThree path = [first, second, third]) :
    Plain first ∧ path = first ++ "/" ++ second ++ "/" ++ third := by
  unfold splitThree at hparts
  split at hparts
  · rename_i head middle last rest hsegments
    obtain ⟨rfl, rfl, rfl⟩ : head = first ∧ middle = second ∧
        joined (last :: rest) = third := by simpa using hparts
    refine ⟨plain_of_mem_segments (hsegments ▸ List.mem_cons_self), ?_⟩
    rw [← joined_segments path, hsegments]
    simp only [joined, String.intercalate_cons_cons, String.append_assoc]
  · rename_i hfew
    exact absurd hparts (hfew first second third [])

theorem url_of_reference (driver : Driver) {subject : String}
    (hplain : Plain subject) (index : String) :
    driver.url (scheme ++ (subject ++ "/entry/" ++ index)) =
      .ok (driver.lockerURL ++ "/ledgers/" ++
        (subject ++ "/entry/" ++ index)) := by
  rw [Driver.url, cutScheme_append]
  simp only [splitThree_entry hplain, ne_eq, not_true_eq_false, if_false]

theorem isReference_of_url {driver : Driver} {source url : String}
    (hurl : driver.url source = .ok url) : IsReference source := by
  unfold Driver.url at hurl
  split at hurl
  · cases hurl
  rename_i path hcut
  split at hurl
  · rename_i first second third hparts
    split at hurl
    · cases hurl
    · rename_i hentry
      obtain rfl := not_not.mp hentry
      obtain ⟨hplain, rfl⟩ := eq_of_splitThree hparts
      refine ⟨first, third, hplain, ?_⟩
      rw [eq_append_of_cutScheme hcut]
      simp only [String.append_assoc]
      rfl
  · cases hurl

theorem url_of_not_reference {driver : Driver} {source : String}
    (hnot : ¬ IsReference source) : ∃ err, driver.url source = .error err := by
  cases hurl : driver.url source with
  | error err => exact ⟨err, rfl⟩
  | ok url => exact absurd (isReference_of_url hurl) hnot

end ComplyTime.Drivers
