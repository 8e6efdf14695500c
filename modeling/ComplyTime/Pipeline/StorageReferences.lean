import ComplyTime.Drivers.LockerDriver
import ComplyTime.Locker.TileServer
import ComplyTime.Locker.Worker

/-!
# Storage references

The worker announces a sealed receipt as `locker://{subject}/entry/{index}`.
The loader and the locker driver turn the reference into a URL on the host of
the locker, and the router and the generated wrapper of the locker API turn the
URL back into the arguments of `FetchReceipt`.  Slashes separate the parts and
occur in none of them, and the index comes back from its decimal text.
-/

namespace ComplyTime.StorageReferences

open ComplyTime.Graph Decimal Drivers SlashPath Subjects TileServer

/-! ## References -/

/-- The reference of an entry. -/
def storageRef (subjectID : SubjectID) (index : ℕ) : String :=
  "locker://" ++ subjectID ++ "/entry/" ++ toString index

theorem storageRef_sealedEvent (sha256Hex : Bytes → String) (ref : IngestRef)
    (index : ℕ) :
    (Worker.sealedEvent sha256Hex ref index).storageRef =
      storageRef ref.subjectID index := rfl

/-- The path of an entry below the URL of the locker. -/
def entryPath (subjectID : SubjectID) (index : ℕ) : String :=
  subjectID ++ "/entry/" ++ toString index

theorem storageRef_eq (subjectID : SubjectID) (index : ℕ) :
    storageRef subjectID index = scheme ++ entryPath subjectID index := by
  simp only [storageRef, entryPath, scheme, String.append_assoc]

/-! ## `FetchReceipt` behind the router -/

/-- A character that a URL leaves as it is in a path. -/
def isPathCharacter (character : Char) : Bool :=
  isSlugCharacter character || character == '/'

def isHostCharacter (character : Char) : Bool :=
  isAlphanumeric character || ['.', '-', ':'].contains character

def isOrigin (scheme host : String) : Bool :=
  ["http:", "https:"].contains scheme && !host.isEmpty &&
    host.toList.all isHostCharacter

/-- The URL is a scheme and a host, as in `http://locker:8081`. -/
def IsOrigin (url : String) : Prop :=
  ∃ scheme host, segments url = [scheme, "", host] ∧ isOrigin scheme host = true

/-- What the server of a URL sees.  A path of plain characters is neither
escaped nor cut by a query; other paths are left out. -/
def requestOf (url : String) : Option TileServer.Request :=
  match segments url with
  | scheme :: "" :: host :: name :: names =>
    let path := "/" ++ joined (name :: names)
    if isOrigin scheme host && path.toList.all isPathCharacter then
      some ⟨path, ""⟩
    else none
  | _ => none

/-- The library functions that bind the parameters of a path. -/
structure Binding where
  /-- `url.PathUnescape`. -/
  pathUnescape : String → Except GoError String
  /-- The error of `strconv.ParseInt` as the binding reports it. -/
  numError : NumError → GoError

def invalidParam (name : String) (err : GoError) : TileServer.Response :=
  .error 400 ("Invalid format for parameter " ++ name ++ ": " ++ err.error)

/-- An `int64` in a path. -/
def Binding.int64 (binding : Binding) (content : String) :
    Except GoError Int64 :=
  match binding.pathUnescape content with
  | .error err => .error err
  | .ok content =>
    match parseInt (utf8 content) with
    | (value, none) => .ok value
    | (_, some err) => .error (binding.numError err)

/-- The wrapper of `FetchReceipt` in the generated API. -/
def wrapFetchReceipt (binding : Binding)
    (fetchReceipt : SubjectID → Int64 → TileServer.Response) :
    List String → TileServer.Response
  | [subjectID, index] =>
    match binding.pathUnescape subjectID with
    | .error err => invalidParam "subjectId" err
    | .ok subjectID =>
      match binding.int64 index with
      | .error err => invalidParam "index" err
      | .ok index => fetchReceipt subjectID index
  | _ => .error 404 "404 page not found"

/-- The handlers of the API, with those of the other endpoints given. -/
def apiWith (binding : Binding)
    (fetchReceipt : SubjectID → Int64 → TileServer.Response)
    (others : Endpoint → List String → TileServer.Response) :
    Endpoint → List String → TileServer.Response
  | .fetchReceipt, params => wrapFetchReceipt binding fetchReceipt params
  | endpoint, params => others endpoint params

/-- A URL leads to `FetchReceipt` with these arguments, whatever it does with
them and whatever the other handlers do. -/
def Reaches (binding : Binding) (url : String) (subjectID : SubjectID)
    (index : Int64) : Prop :=
  ∃ request, requestOf url = some request ∧
    ∀ server fetchReceipt others,
      serveHTTP server request (apiWith binding fetchReceipt others) =
        fetchReceipt subjectID index

/-! ## Decimal texts -/

theorem utf8_digitChar {digit : ℕ} (hdigit : digit < 10) :
    String.utf8EncodeChar digit.digitChar = [digitByte digit] := by
  have hdigits : ∀ digit : Fin 10,
      String.utf8EncodeChar digit.val.digitChar = [digitByte digit] := by decide
  exact hdigits ⟨digit, hdigit⟩

/-- A number is printed by its digits, the last one behind those of the
tenth. -/
theorem utf8_toString (value : ℕ) : utf8 (toString value) = formatUint value := by
  have hlist : (toString value).toList = Nat.toDigits 10 value := by simp
  rw [utf8, hlist]
  clear hlist
  induction value using Nat.strongRecOn with
  | ind value ih =>
    by_cases hsmall : value < 10
    · rw [Nat.toDigits_of_lt_base hsmall, formatUint_of_lt hsmall,
        List.flatMap_singleton, utf8_digitChar hsmall]
    · have hlarge : 10 ≤ value := Nat.not_lt.mp hsmall
      have hdigit : value % 10 < 10 := Nat.mod_lt value (by decide)
      rw [Nat.toDigits_of_base_le (by decide) hlarge,
        formatUint_of_le hlarge, List.flatMap_append,
        ih (value / 10) (by omega), List.flatMap_singleton,
        utf8_digitChar hdigit]

theorem parseInt_toString {index : ℕ} (hindex : index < 2 ^ 63) :
    parseInt (utf8 (toString index)) = (Int64.ofNat index, none) := by
  rw [utf8_toString, ← formatInt_ofNat hindex, parseInt_formatInt]

/-! ## From the reference to the handler -/

section Routing

variable {subjectID : SubjectID}

theorem plain_toString (index : ℕ) : Plain (toString index) :=
  (tileText_toString index).fileName.proper.plain

theorem segments_entryPath (url : String) (hsubject : ValidSubjectID subjectID)
    (index : ℕ) :
    segments (url ++ "/ledgers/" ++ entryPath subjectID index) =
      segments url ++ ["ledgers", subjectID, "entry", toString index] := by
  have hslashes : url ++ "/ledgers/" ++ entryPath subjectID index =
      url ++ "/" ++ "ledgers" ++ "/" ++ subjectID ++ "/" ++ "entry" ++ "/" ++
        toString index := by
    simp only [entryPath, String.append_assoc]
    rfl
  have hledgers : segments "ledgers" = ["ledgers"] := by decide
  have hentry : segments "entry" = ["entry"] := by decide
  rw [hslashes, segments_append, segments_append, segments_append,
    segments_append, hledgers, hentry,
    segments_of_plain (fileName_of_valid hsubject).proper.plain,
    segments_of_plain (plain_toString index)]
  simp only [List.append_assoc, List.cons_append, List.nil_append]

theorem joined_entryPath (subjectID : SubjectID) (index : ℕ) :
    "/" ++ joined ["ledgers", subjectID, "entry", toString index] =
      "/ledgers/" ++ entryPath subjectID index := by
  simp only [joined, String.intercalate_cons_cons, String.intercalate_singleton,
    entryPath, String.append_assoc]
  rfl

theorem route_entryPath (hsubject : ValidSubjectID subjectID) (index : ℕ) :
    route routes ("/ledgers/" ++ entryPath subjectID index) =
      some (.fetchReceipt, [subjectID, toString index]) := by
  have hsegments := segments_entryPath "" hsubject index
  have hempty : segments "" = [""] := by decide
  rw [String.empty_append, hempty] at hsegments
  simp [route, hsegments, routes, matchParts]

theorem all_entryPath (hsubject : ValidSubjectID subjectID) (index : ℕ) :
    ("/ledgers/" ++ entryPath subjectID index).toList.all isPathCharacter =
      true := by
  obtain ⟨-, -, -, -, hslug⟩ := hsubject.exists_cons
  have hdigits : ∀ character ∈ (toString index).toList,
      isSlugCharacter character = true := by
    intro character hmem
    have halnum := isAlphanumeric_of_isDigit
      (TileLayout.isDigit_of_mem_toString hmem)
    rw [isSlugCharacter, halnum]
    rfl
  have hpath : ∀ {content : String},
      (∀ character ∈ content.toList, isSlugCharacter character = true) →
        content.toList.all isPathCharacter = true := by
    intro content hcontent
    rw [List.all_eq_true]
    intro character hmem
    rw [isPathCharacter, hcontent character hmem]
    rfl
  simp only [entryPath, String.toList_append, List.all_append, hpath hslug,
    hpath hdigits]
  decide

theorem requestOf_entryPath {lockerURL : String} (horigin : IsOrigin lockerURL)
    (hsubject : ValidSubjectID subjectID) (index : ℕ) :
    requestOf (lockerURL ++ "/ledgers/" ++ entryPath subjectID index) =
      some ⟨"/ledgers/" ++ entryPath subjectID index, ""⟩ := by
  obtain ⟨scheme, host, hlocker, hchecked⟩ := horigin
  have hsegments := segments_entryPath lockerURL hsubject index
  rw [hlocker] at hsegments
  simp only [requestOf, hsegments, List.cons_append, List.nil_append,
    joined_entryPath, hchecked, all_entryPath hsubject index, Bool.and_self,
    if_true]

variable {binding : Binding}
  (hunescape : ∀ content : String, '%' ∉ content.toList →
    binding.pathUnescape content = .ok content)

include hunescape

theorem wrapFetchReceipt_entry (hsubject : ValidSubjectID subjectID)
    {index : ℕ} (hindex : index < 2 ^ 63)
    (fetchReceipt : SubjectID → Int64 → TileServer.Response) :
    wrapFetchReceipt binding fetchReceipt [subjectID, toString index] =
      fetchReceipt subjectID (Int64.ofNat index) := by
  obtain ⟨-, -, -, -, hslug⟩ := hsubject.exists_cons
  have hsubjectID : binding.pathUnescape subjectID = .ok subjectID := by
    apply hunescape
    intro hpercent
    exact absurd (hslug '%' hpercent) (by decide)
  have hindexText : binding.pathUnescape (toString index) =
      .ok (toString index) := by
    apply hunescape
    intro hpercent
    exact absurd (TileLayout.isDigit_of_mem_toString hpercent) (by decide)
  have hbound : binding.int64 (toString index) = .ok (Int64.ofNat index) := by
    simp only [Binding.int64, hindexText, parseInt_toString hindex]
  simp only [wrapFetchReceipt, hsubjectID, hbound]

theorem reaches_entryPath {lockerURL : String} (horigin : IsOrigin lockerURL)
    (hsubject : ValidSubjectID subjectID) {index : ℕ}
    (hindex : index < 2 ^ 63) :
    Reaches binding (lockerURL ++ "/ledgers/" ++ entryPath subjectID index)
      subjectID (Int64.ofNat index) := by
  refine ⟨_, requestOf_entryPath horigin hsubject index, ?_⟩
  intro server fetchReceipt others
  have hne : "/ledgers/" ++ entryPath subjectID index ≠ "" := by
    intro hempty
    exact absurd (String.append_eq_empty_iff.mp hempty).1 (by decide)
  have hpath : (TileServer.Request.mk
      ("/ledgers/" ++ entryPath subjectID index) "").routePath =
        "/ledgers/" ++ entryPath subjectID index := by
    simp [Request.routePath, hne]
  rw [serveHTTP, hpath, route_entryPath hsubject]
  exact wrapFetchReceipt_entry hunescape hsubject hindex fetchReceipt

end Routing

/-- Different entries have different references. -/
theorem storageRef_injective {subjectID other : SubjectID} {index index' : ℕ}
    (hsubject : ValidSubjectID subjectID) (hother : ValidSubjectID other)
    (hindex : index < 2 ^ 63) (hindex' : index' < 2 ^ 63)
    (heq : storageRef subjectID index = storageRef other index') :
    subjectID = other ∧ index = index' := by
  rw [storageRef_eq, storageRef_eq] at heq
  have hpath : entryPath subjectID index = entryPath other index' :=
    (String.append_right_inj scheme).mp heq
  have hparts := congrArg splitThree hpath
  rw [entryPath, entryPath,
    splitThree_entry (fileName_of_valid hsubject).proper.plain,
    splitThree_entry (fileName_of_valid hother).proper.plain] at hparts
  obtain ⟨hsame, htexts⟩ : subjectID = other ∧
      toString index = toString index' := by simpa using hparts
  have hparsed : ∀ {index : ℕ}, index < 2 ^ 63 →
      (parseInt (utf8 (toString index))).1.toInt = index := by
    intro index hindex
    rw [parseInt_toString hindex, Int64.toInt_ofNat_of_lt hindex]
  have hints : (index : ℤ) = index' := by
    rw [← hparsed hindex, htexts, hparsed hindex']
  exact ⟨hsame, Int.ofNat.inj hints⟩

/-- The reference of an entry leads both decoders to the same URL, and the URL
leads to the entry where the locker is the host of its URL. -/
theorem storageRef_resolves {binding : Binding}
    (hunescape : ∀ content : String, '%' ∉ content.toList →
      binding.pathUnescape content = .ok content)
    (driver : Driver) {subjectID : SubjectID}
    (hsubject : ValidSubjectID subjectID) {index : ℕ}
    (hindex : index < 2 ^ 63) :
    (∃ url, artifactURL driver.lockerURL (storageRef subjectID index) =
        .ok (utf8 url) ∧
      driver.url (storageRef subjectID index) = .ok url ∧
      (IsOrigin driver.lockerURL →
        Reaches binding url subjectID (Int64.ofNat index))) ∧
    (Int64.ofNat index).toInt = index ∧
    ∀ other index', ValidSubjectID other → index' < 2 ^ 63 →
      storageRef subjectID index = storageRef other index' →
        subjectID = other ∧ index = index' := by
  refine ⟨⟨driver.lockerURL ++ "/ledgers/" ++ entryPath subjectID index,
    ?_, ?_, fun horigin => reaches_entryPath hunescape horigin hsubject hindex⟩,
    Int64.toInt_ofNat_of_lt hindex,
    fun other index' hother => storageRef_injective hsubject hother hindex⟩
  · rw [storageRef_eq]
    exact artifactURL_append _ _
  · rw [storageRef_eq]
    exact url_of_reference driver (fileName_of_valid hsubject).proper.plain _

def plainBinding : Binding where
  pathUnescape := .ok
  numError := fun _ => .message "invalid number"

theorem payments_entry_resolves :
    ∃ url, artifactURL "http://locker:8081" "locker://payments/entry/42" =
        .ok (utf8 url) ∧
      Driver.url ⟨"http://locker:8081", fun _ => none⟩
        "locker://payments/entry/42" = .ok url ∧
      Reaches plainBinding url "payments" 42 := by
  have horigin : IsOrigin "http://locker:8081" :=
    ⟨"http:", "locker:8081", by decide, by decide⟩
  have hunescape : ∀ content : String, '%' ∉ content.toList →
      plainBinding.pathUnescape content = .ok content := fun _ _ => rfl
  obtain ⟨⟨url, hloader, hdriver, hreaches⟩, -⟩ :=
    storageRef_resolves hunescape ⟨"http://locker:8081", fun _ => none⟩
      (by decide : ValidSubjectID "payments") (by decide : 42 < 2 ^ 63)
  exact ⟨url, hloader, hdriver, hreaches horigin⟩

end ComplyTime.StorageReferences
