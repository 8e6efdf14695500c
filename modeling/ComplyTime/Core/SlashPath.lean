import Mathlib.Data.List.Basic
import Mathlib.Data.Nat.Notation
import Mathlib.Tactic.Common

/-!
# Slash-separated paths

A path is the texts between its slashes.  `clean` and `join` are the lexical
operations on file paths: a cleaned path is determined by whether it is rooted
and by the names left over, and joining proper names to a path appends them to
these names.  Routes are patterns of literal segments and parameters.
-/

namespace ComplyTime.SlashPath

/-! ## Segments -/

/-- The texts between the slashes. -/
def segments (path : String) : List String :=
  (path.toList.splitOn '/').map String.ofList

/-- `strings.Join(names, "/")`. -/
def joined (names : List String) : String := "/".intercalate names

def hasPrefix (text start : String) : Bool :=
  start.toList.isPrefixOf text.toList

/-- A name between slashes. -/
def Plain (name : String) : Prop := '/' ∉ name.toList

theorem toList_joined (names : List String) :
    (joined names).toList = ['/'].intercalate (names.map String.toList) :=
  String.toList_intercalate

theorem segments_joined {names : List String} (hnames : names ≠ [])
    (hplain : ∀ name ∈ names, Plain name) : segments (joined names) = names := by
  have hsplit : ((joined names).toList.splitOn '/') =
      names.map String.toList := by
    rw [toList_joined]
    apply List.splitOn_intercalate
    · intro characters hmem
      obtain ⟨name, hname, rfl⟩ := List.mem_map.mp hmem
      exact hplain name hname
    · simpa using hnames
  rw [segments, hsplit, List.map_map]
  have hinverse : String.ofList ∘ String.toList = id := by
    funext name
    exact String.ofList_toList
  rw [hinverse, List.map_id]

theorem joined_segments (path : String) : joined (segments path) = path := by
  have hinverse : String.toList ∘ String.ofList = id := by
    funext characters
    exact String.toList_ofList
  rw [← String.toList_inj, toList_joined, segments, List.map_map, hinverse,
    List.map_id, List.intercalate_splitOn]

theorem segments_append (path rest : String) :
    segments (path ++ "/" ++ rest) = segments path ++ segments rest := by
  have hslash : (path ++ "/" ++ rest).toList =
      path.toList ++ '/' :: rest.toList := by simp
  rw [segments, hslash, List.splitOn_append_cons_self, List.map_append,
    segments, segments]

theorem not_mem_of_mem_splitOn {characters part : List Char}
    (hmem : part ∈ characters.splitOn '/') : '/' ∉ part := by
  induction characters generalizing part with
  | nil =>
    obtain rfl := List.mem_singleton.mp hmem
    exact List.not_mem_nil
  | cons character characters ih =>
    rw [List.splitOn_cons_eq_if_modifyHead] at hmem
    split at hmem
    · rcases List.mem_cons.mp hmem with rfl | hlater
      · exact List.not_mem_nil
      · exact ih hlater
    · rename_i hother
      cases hsplit : characters.splitOn '/' with
      | nil => exact absurd hsplit (by simp)
      | cons first parts =>
        rw [hsplit, List.modifyHead_cons] at hmem
        rw [hsplit] at ih
        rcases List.mem_cons.mp hmem with rfl | hlater
        · rw [List.mem_cons, not_or]
          refine ⟨?_, ih List.mem_cons_self⟩
          rintro rfl
          exact hother (beq_self_eq_true _)
        · exact ih (List.mem_cons_of_mem first hlater)

theorem plain_of_mem_segments {path name : String}
    (hmem : name ∈ segments path) : Plain name := by
  obtain ⟨part, hpart, rfl⟩ := List.mem_map.mp hmem
  rw [Plain, String.toList_ofList]
  exact not_mem_of_mem_splitOn hpart

theorem segments_of_plain {name : String} (hplain : Plain name) :
    segments name = [name] := by
  have hjoined : joined [name] = name := String.intercalate_singleton
  have hsegments := segments_joined (List.cons_ne_nil name [])
    (List.forall_mem_singleton.mpr hplain)
  rwa [hjoined] at hsegments

theorem mem_joined {names : List String} {character : Char}
    (hmem : character ∈ (joined names).toList) :
    character = '/' ∨ ∃ name ∈ names, character ∈ name.toList := by
  induction names with
  | nil => cases hmem
  | cons first names ih =>
    cases names with
    | nil =>
      rw [joined, String.intercalate_singleton] at hmem
      exact .inr ⟨first, List.mem_cons_self, hmem⟩
    | cons second names =>
      rw [joined, String.intercalate_cons_cons, String.toList_append,
        String.toList_append, List.mem_append, List.mem_append] at hmem
      rcases hmem with (hfirst | hslash) | hrest
      · exact .inr ⟨first, List.mem_cons_self, hfirst⟩
      · exact .inl (List.mem_singleton.mp hslash)
      · rcases ih hrest with hslash | ⟨name, hname, hcharacter⟩
        · exact .inl hslash
        · exact .inr ⟨name, List.mem_cons_of_mem first hname, hcharacter⟩

/-! ## Clean paths -/

/-- A path that starts at the root. -/
def rooted (path : String) : Bool := decide (path.toList.head? = some '/')

/-- One level up, the last name first; there is nothing above the root. -/
def up (root : Bool) : List String → List String
  | [] => if root then [] else [".."]
  | last :: earlier => if last = ".." then ".." :: last :: earlier else earlier

/-- One segment more, the last name first. -/
def step (root : Bool) (taken : List String) (name : String) : List String :=
  if name = "" ∨ name = "." then taken
  else if name = ".." then up root taken
  else name :: taken

/-- The names left over. -/
def cleanNames (root : Bool) (names : List String) : List String :=
  (names.foldl (step root) []).reverse

def render (root : Bool) (names : List String) : String :=
  if root then "/" ++ joined names
  else if names = [] then "." else joined names

def namesOf (path : String) : List String :=
  cleanNames (rooted path) (segments path)

/-- `filepath.Clean`. -/
def clean (path : String) : String :=
  if path = "" then "." else render (rooted path) (namesOf path)

/-- `filepath.Join`, which skips empty elements at the front. -/
def join (elements : List String) : String :=
  match elements.dropWhile fun element => element = "" with
  | [] => ""
  | first :: rest => clean (joined (first :: rest))

/-- A name that stays as it is. -/
structure Proper (name : String) : Prop where
  ne_empty : name ≠ ""
  ne_dot : name ≠ "."
  ne_up : name ≠ ".."
  plain : Plain name

variable {root : Bool} {name : String} {names taken proper : List String}

theorem step_proper (hproper : Proper name) :
    step root taken name = name :: taken := by
  rw [step, if_neg, if_neg hproper.ne_up]
  rintro (hempty | hdot)
  · exact hproper.ne_empty hempty
  · exact hproper.ne_dot hdot

theorem foldl_step_proper (hproper : ∀ name ∈ proper, Proper name) :
    proper.foldl (step root) taken = proper.reverse ++ taken := by
  induction proper generalizing taken with
  | nil => rfl
  | cons name proper ih =>
    rw [List.foldl_cons, step_proper (hproper name List.mem_cons_self),
      ih (List.forall_mem_of_forall_mem_cons hproper),
      List.reverse_cons, List.append_assoc]
    rfl

theorem cleanNames_append (hproper : ∀ name ∈ proper, Proper name) :
    cleanNames root (names ++ proper) = cleanNames root names ++ proper := by
  rw [cleanNames, List.foldl_append, foldl_step_proper hproper,
    List.reverse_append, List.reverse_reverse, cleanNames]

/-- What cleaning leaves, the last name first: `..` only at the front of a
path that is not rooted. -/
inductive Taken (root : Bool) : List String → Prop
  | nil : Taken root []
  | up {taken : List String} (hroot : root = false)
      (hups : ∀ name ∈ taken, name = "..") : Taken root (".." :: taken)
  | name {name : String} {taken : List String} (hproper : Proper name)
      (htaken : Taken root taken) : Taken root (name :: taken)

theorem Taken.up_of_ups (hroot : root = false)
    (hups : ∀ name ∈ taken, name = "..") :
    SlashPath.up root taken = ".." :: taken := by
  cases taken with
  | nil =>
    rw [SlashPath.up, hroot]
    rfl
  | cons last earlier =>
    rw [SlashPath.up, if_pos (hups last List.mem_cons_self)]

section

variable (htaken : Taken root taken)

include htaken

theorem Taken.step (hplain : Plain name) :
    Taken root (step root taken name) := by
  unfold SlashPath.step
  split
  · exact htaken
  · rename_i hname
    rw [not_or] at hname
    split
    · cases htaken with
      | nil =>
        cases root with
        | true => exact .nil
        | false => exact .up rfl (by simp)
      | @up earlier hroot hups =>
        have hall : ∀ name ∈ ".." :: earlier, name = ".." :=
          List.forall_mem_cons.mpr ⟨rfl, hups⟩
        rw [up_of_ups hroot hall]
        exact .up hroot hall
      | name hproper htaken =>
        rw [SlashPath.up, if_neg hproper.ne_up]
        exact htaken
    · rename_i hup
      exact .name ⟨hname.1, hname.2, hup, hplain⟩ htaken

theorem Taken.foldl (hplain : ∀ name ∈ names, Plain name) :
    Taken root (names.foldl (SlashPath.step root) taken) := by
  induction names generalizing taken with
  | nil => exact htaken
  | cons name names ih =>
    apply ih (htaken.step (hplain name List.mem_cons_self))
    exact List.forall_mem_of_forall_mem_cons hplain

theorem Taken.foldl_reverse :
    taken.reverse.foldl (SlashPath.step root) [] = taken := by
  induction taken with
  | nil => rfl
  | cons last earlier ih =>
    rw [List.reverse_cons, List.foldl_append, List.foldl_cons, List.foldl_nil]
    cases htaken with
    | name hproper htaken => rw [ih htaken, step_proper hproper]
    | up hroot hups =>
      have hearlier : Taken root earlier := by
        cases earlier with
        | nil => exact .nil
        | cons first names =>
          obtain ⟨rfl, hrest⟩ := List.forall_mem_cons.mp hups
          exact .up hroot hrest
      rw [ih hearlier, SlashPath.step, if_neg (by decide), if_pos rfl,
        up_of_ups hroot hups]

theorem Taken.plain (hmem : name ∈ taken) :
    name ≠ "" ∧ Plain name := by
  induction htaken with
  | nil => cases hmem
  | up hroot hups =>
    obtain rfl : name = ".." := (List.mem_cons.mp hmem).elim id (hups name)
    exact ⟨by decide, by unfold Plain; decide⟩
  | name hproper htaken ih =>
    rcases List.mem_cons.mp hmem with rfl | hearlier
    · exact ⟨hproper.ne_empty, hproper.plain⟩
    · exact ih hearlier

end

/-- The names of a cleaned path. -/
def Cleaned (root : Bool) (names : List String) : Prop :=
  Taken root names.reverse

theorem Cleaned.nil : Cleaned root [] := Taken.nil

theorem cleaned_namesOf (path : String) :
    Cleaned (rooted path) (namesOf path) := by
  rw [Cleaned, namesOf, cleanNames, List.reverse_reverse]
  exact Taken.nil.foldl fun name => plain_of_mem_segments

theorem Cleaned.append (hcleaned : Cleaned root names)
    (hproper : ∀ name ∈ proper, Proper name) :
    Cleaned root (names ++ proper) := by
  rw [Cleaned, List.reverse_append, ← foldl_step_proper hproper]
  exact hcleaned.foldl fun name hmem => (hproper name hmem).plain

theorem Cleaned.cleanNames (hcleaned : Cleaned root names) :
    cleanNames root names = names := by
  have hfold := Taken.foldl_reverse hcleaned
  rw [List.reverse_reverse] at hfold
  rw [SlashPath.cleanNames, hfold, List.reverse_reverse]

theorem Cleaned.plain (hcleaned : Cleaned root names) (hmem : name ∈ names) :
    name ≠ "" ∧ Plain name :=
  Taken.plain hcleaned (List.mem_reverse.mpr hmem)

/-! ## Rendered paths -/

theorem cleanNames_cons_empty (root : Bool) (names : List String) :
    cleanNames root ("" :: names) = cleanNames root names := rfl

variable {path : String} {rest : List String}

theorem rooted_append (hpath : path ≠ "") (rest : String) :
    rooted (path ++ rest) = rooted path := by
  cases hlist : path.toList with
  | nil => exact absurd (String.toList_eq_nil_iff.mp hlist) hpath
  | cons first characters => simp [rooted, hlist]

theorem exists_joined_cons (first : String) (rest : List String) :
    ∃ tail, joined (first :: rest) = first ++ tail := by
  cases rest with
  | nil => exact ⟨"", by rw [joined, String.intercalate_singleton]; simp⟩
  | cons second rest =>
    refine ⟨"/" ++ joined (second :: rest), ?_⟩
    rw [joined, String.intercalate_cons_cons, String.append_assoc, joined]

theorem joined_append (hnames : names ≠ []) (hrest : rest ≠ []) :
    joined (names ++ rest) = joined names ++ "/" ++ joined rest :=
  String.intercalate_append_of_ne_nil hnames hrest

section Cleaned

variable (hcleaned : Cleaned root names)

include hcleaned

theorem Cleaned.joined_ne_empty (hnames : names ≠ []) : joined names ≠ "" := by
  cases names with
  | nil => exact absurd rfl hnames
  | cons first rest =>
    obtain ⟨tail, htail⟩ := exists_joined_cons first rest
    rw [htail]
    intro hempty
    exact (hcleaned.plain List.mem_cons_self).1
      (String.append_eq_empty_iff.mp hempty).1

theorem Cleaned.rooted_joined : rooted (joined names) = false := by
  cases names with
  | nil => rfl
  | cons first rest =>
    obtain ⟨tail, htail⟩ := exists_joined_cons first rest
    obtain ⟨hne, hplain⟩ := hcleaned.plain List.mem_cons_self
    rw [htail, rooted_append hne, rooted, decide_eq_false_iff_not]
    intro hhead
    exact hplain (List.mem_of_mem_head? hhead)

theorem Cleaned.rooted_render : rooted (render root names) = root := by
  unfold render
  split
  · rename_i hroot
    rw [rooted_append (by decide), hroot]
    rfl
  · rename_i hroot
    rw [Bool.not_eq_true] at hroot
    split
    · rw [hroot]
      rfl
    · rw [hcleaned.rooted_joined, hroot]

theorem Cleaned.cleanNames_segments :
    SlashPath.cleanNames root (segments (joined names)) = names := by
  by_cases hnames : names = []
  · subst hnames
    rfl
  · rw [segments_joined hnames fun name hmem => (hcleaned.plain hmem).2,
      hcleaned.cleanNames]

theorem Cleaned.namesOf_render : namesOf (render root names) = names := by
  rw [namesOf, hcleaned.rooted_render]
  unfold render
  split
  · have hsegments : segments ("/" ++ joined names) =
        "" :: segments (joined names) := segments_append "" (joined names)
    rw [hsegments, cleanNames_cons_empty, hcleaned.cleanNames_segments]
  · split
    · rename_i hnames
      rw [hnames]
      rfl
    · exact hcleaned.cleanNames_segments

theorem Cleaned.render_ne_empty : render root names ≠ "" := by
  unfold render
  split
  · intro hempty
    exact absurd (String.append_eq_empty_iff.mp hempty).1 (by decide)
  · split
    · decide
    · rename_i hnames
      exact hcleaned.joined_ne_empty hnames

theorem Cleaned.clean_render : clean (render root names) = render root names := by
  rw [clean, if_neg hcleaned.render_ne_empty, hcleaned.rooted_render,
    hcleaned.namesOf_render]

end Cleaned

theorem namesOf_append (hpath : path ≠ "") (hnames : proper ≠ [])
    (hproper : ∀ name ∈ proper, Proper name) :
    namesOf (path ++ "/" ++ joined proper) = namesOf path ++ proper := by
  rw [namesOf, String.append_assoc, rooted_append hpath, ← String.append_assoc,
    segments_append,
    segments_joined hnames fun name hmem => (hproper name hmem).plain,
    cleanNames_append hproper, namesOf]

theorem join_of_ne_empty (hpath : path ≠ "") (rest : String) :
    join [path, rest] = render (rooted path) (namesOf (path ++ "/" ++ rest)) := by
  have hjoin : join [path, rest] = clean (path ++ "/" ++ rest) := by
    simp [join, hpath, joined, String.intercalate_cons_cons]
  have hne : path ++ "/" ++ rest ≠ "" := by
    intro hempty
    rw [String.append_assoc] at hempty
    exact hpath (String.append_eq_empty_iff.mp hempty).1
  rw [hjoin, clean, if_neg hne, String.append_assoc, rooted_append hpath]

theorem join_proper (path : String) (hnames : proper ≠ [])
    (hproper : ∀ name ∈ proper, Proper name) :
    join [path, joined proper] =
      render (rooted path) (namesOf path ++ proper) := by
  by_cases hpath : path = ""
  · subst hpath
    have hcleaned : Cleaned false proper := Cleaned.nil.append hproper
    have hrender : render false proper = joined proper := if_neg hnames
    have hjoined := hcleaned.joined_ne_empty hnames
    have hjoin : join ["", joined proper] = clean (joined proper) := by
      rw [join, List.dropWhile_cons_of_pos (by decide),
        List.dropWhile_cons_of_neg (by simpa using hjoined)]
      exact congrArg clean (String.intercalate_singleton)
    rw [hjoin, ← hrender, hcleaned.clean_render]
    rfl
  · rw [join_of_ne_empty hpath, namesOf_append hpath hnames hproper]

theorem cleanNames_append_segments (names rest : List String) :
    cleanNames root (names ++ rest) =
      (rest.foldl (step root) (cleanNames root names).reverse).reverse := by
  rw [cleanNames, List.foldl_append, cleanNames, List.reverse_reverse]

theorem Cleaned.join_segments (hcleaned : Cleaned root names)
    (hrest : rest ≠ []) (hplain : ∀ name ∈ rest, Plain name) :
    join [render root names, joined rest] =
      render root (rest.foldl (step root) names.reverse).reverse := by
  have hpath := hcleaned.render_ne_empty
  have hnames : SlashPath.cleanNames root (segments (render root names)) =
      names := by
    have hnamesOf := hcleaned.namesOf_render
    rwa [namesOf, hcleaned.rooted_render] at hnamesOf
  rw [join_of_ne_empty hpath, hcleaned.rooted_render, namesOf,
    String.append_assoc, rooted_append hpath, hcleaned.rooted_render,
    ← String.append_assoc, segments_append, segments_joined hrest hplain,
    cleanNames_append_segments, hnames]

theorem hasPrefix_append (start rest : String) :
    hasPrefix (start ++ rest) start = true := by
  rw [hasPrefix, List.isPrefixOf_iff_prefix, String.toList_append]
  exact List.prefix_append _ _

theorem hasPrefix_append_append (first text start : String) :
    hasPrefix (first ++ text) (first ++ start) = hasPrefix text start := by
  rw [Bool.eq_iff_iff, hasPrefix, hasPrefix, List.isPrefixOf_iff_prefix,
    List.isPrefixOf_iff_prefix, String.toList_append, String.toList_append,
    List.prefix_append_right_inj]

theorem length_le_of_hasPrefix {text start : String}
    (hstarts : hasPrefix text start = true) :
    start.toList.length ≤ text.toList.length :=
  (List.isPrefixOf_iff_prefix.mp hstarts).length_le

theorem render_append (hnames : names ≠ []) (hrest : rest ≠ []) :
    render root (names ++ rest) = render root names ++ "/" ++ joined rest := by
  have hboth : names ++ rest ≠ [] := by simp [hnames]
  rw [render, render, if_neg hboth, if_neg hnames, joined_append hnames hrest]
  split
  · simp only [String.append_assoc]
  · rfl

/-! ## Directories -/

/-- The path is the directory or lies below it, name by name. -/
def Within (directory path : String) : Prop :=
  rooted path = rooted directory ∧ namesOf directory <+: namesOf path

instance (directory path : String) : Decidable (Within directory path) :=
  inferInstanceAs (Decidable (_ ∧ _))

theorem within_render_iff {inner : List String} (houter : Cleaned root names)
    (hinner : Cleaned root inner) :
    Within (render root names) (render root inner) ↔ names <+: inner := by
  rw [Within, houter.rooted_render, hinner.rooted_render,
    houter.namesOf_render, hinner.namesOf_render]
  exact and_iff_right rfl

@[simp]
theorem step_dot : step root taken "." = taken := if_pos (.inr rfl)

theorem step_up (hproper : Proper name) :
    step root (name :: taken) ".." = taken := by
  rw [step, if_neg (by decide), if_pos rfl, up, if_neg hproper.ne_up]

/-- A segment leads back to the names it starts from or above them only as `..`
right behind them. -/
theorem step_inside (root : Bool) (extra taken : List String)
    (hname : name ≠ "") (hplain : Plain name)
    (hextra : ∀ name ∈ extra, Proper name)
    (hstays : name = ".." → extra ≠ []) :
    ∃ further, (∀ name ∈ further, Proper name) ∧
      step root (extra ++ taken) name = further ++ taken := by
  by_cases hdot : name = "."
  · subst hdot
    exact ⟨extra, hextra, step_dot⟩
  by_cases hup : name = ".."
  · subst hup
    cases extra with
    | nil => exact absurd rfl (hstays rfl)
    | cons last extra =>
      obtain ⟨hlast, hrest⟩ := List.forall_mem_cons.mp hextra
      exact ⟨extra, hrest, step_up hlast⟩
  · have hproper : Proper name := ⟨hname, hdot, hup, hplain⟩
    exact ⟨name :: extra, List.forall_mem_cons.mpr ⟨hproper, hextra⟩,
      step_proper hproper⟩

/-! ## Routes -/

/-- A segment of a route pattern. -/
inductive Part
  | literal (text : String)
  | param
  deriving DecidableEq, Repr

/-- The parameters of a route that fits; the last segment of a path fills a
parameter only if it is not empty. -/
def matchParts : List Part → List String → Option (List String)
  | [], [] => some []
  | [.param], [name] => if name = "" then none else some [name]
  | .literal text :: parts, name :: names =>
    if name = text then matchParts parts names else none
  | .param :: parts, name :: names =>
    (matchParts parts names).map fun params => name :: params
  | _, _ => none

/-- The first route that fits the path. -/
def route {Endpoint : Type} (routes : List (List Part × Endpoint))
    (path : String) : Option (Endpoint × List String) :=
  match segments path with
  | "" :: names => routes.findSome? fun (parts, endpoint) =>
    (matchParts parts names).map fun params => (endpoint, params)
  | _ => none

theorem length_of_matchParts {parts : List Part} {params : List String}
    (hmatch : matchParts parts names = some params) :
    names.length = parts.length := by
  fun_induction matchParts parts names generalizing params with
  | case1 => rfl
  | case2 => rfl
  | case3 => rfl
  | case4 parts name names ih =>
    rw [List.length_cons, List.length_cons, ih hmatch]
  | case5 => cases hmatch
  | case6 parts name names _ ih =>
    obtain ⟨found, hfound, -⟩ := Option.map_eq_some_iff.mp hmatch
    rw [List.length_cons, List.length_cons, ih hfound]
  | case7 => cases hmatch

theorem route_eq_none {Endpoint : Type} {routes : List (List Part × Endpoint)}
    (hsegments : segments path = "" :: names)
    (hlength : ∀ entry ∈ routes, entry.1.length ≠ names.length) :
    route routes path = none := by
  rw [route, hsegments]
  apply List.findSome?_eq_none_iff.mpr
  rintro ⟨parts, endpoint⟩ hmem
  rw [Option.map_eq_none_iff, Option.eq_none_iff_forall_not_mem]
  intro params hmatch
  exact hlength (parts, endpoint) hmem (length_of_matchParts hmatch).symm

end ComplyTime.SlashPath
