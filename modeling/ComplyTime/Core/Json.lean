import Mathlib.Data.List.Lex
import Mathlib.Data.List.Sort
import Mathlib.Data.Rat.Init

variable {members : Members}

/-!
# JSON documents

A parsed JSON text.  Object members keep the order and the multiplicity they
have in the text, because decoders differ in what they make of both.  A number
is the exact value of the `float64` its literal decodes to.

Two decoders are modelled.  Decoding into a map keeps the last member of each
exact name.  Decoding into a struct visits the members in order and matches
names up to letter case, so that several members may write one field.  The
canonical form sorts the members of every object by the UTF-16 code units of
their names.
-/

namespace ComplyTime

inductive Json
  | null
  | bool (value : Bool)
  | num (value : ℚ)
  | str (value : String)
  | arr (items : List Json)
  | obj (members : List (String × Json))

namespace Json

abbrev Members := List (String × Json)

/-! ## Decoding into a map -/

/-- The value a `map[string]any` holds under the key: the last member of that
name. -/
def member (name : String) : Members → Option Json
  | [] => none
  | (key, value) :: members =>
    (member name members).or (if key = name then some value else none)

theorem member_cons (name key : String) (value : Json) (members : Members) :
    member name ((key, value) :: members) =
      (member name members).or (if key = name then some value else none) :=
  rfl

theorem ne_of_member_eq_none {name : String}
    (hnone : member name members = none) {entry : String × Json}
    (hmem : entry ∈ members) : entry.1 ≠ name := by
  induction members with
  | nil => cases hmem
  | cons first members ih =>
    rw [show first = (first.1, first.2) from rfl, member_cons,
      Option.or_eq_none_iff] at hnone
    rcases List.mem_cons.mp hmem with rfl | hlater
    · intro hname
      simp [hname] at hnone
    · exact ih hnone.1 hlater

/-- `value.(map[string]any)`. -/
def asObject : Json → Option Members
  | .obj members => some members
  | _ => none

/-- `value.(string)`. -/
def asString : Json → Option String
  | .str content => some content
  | _ => none

/-- `members[name].(string)`. -/
def stringMember (name : String) (members : Members) : Option String :=
  (member name members).bind asString

/-- `members[name].(map[string]any)`. -/
def objectMember (name : String) (members : Members) : Option Members :=
  (member name members).bind asObject

/-! ## Canonical form -/

def utf16Units (character : Char) : List ℕ :=
  let code := character.toNat
  if code < 0x10000 then [code]
  else [0xD800 + (code - 0x10000) / 0x400, 0xDC00 + (code - 0x10000) % 0x400]

def utf16 (name : String) : List ℕ := name.toList.flatMap utf16Units

/-- The order of members in a canonical object. -/
def Precedes (left right : String × Json) : Prop :=
  utf16 left.1 ≤ utf16 right.1

instance : DecidableRel Precedes :=
  fun left right => inferInstanceAs (Decidable (utf16 left.1 ≤ utf16 right.1))

instance : Std.Total Precedes :=
  ⟨fun left right => le_total (utf16 left.1) (utf16 right.1)⟩

instance : IsTrans (String × Json) Precedes :=
  ⟨fun _ _ _ hfirst hsecond => le_trans hfirst hsecond⟩

def sortMembers (members : Members) : Members :=
  members.insertionSort Precedes

theorem pairwise_sortMembers (members : Members) :
    (sortMembers members).Pairwise Precedes :=
  List.pairwise_insertionSort Precedes members

mutual

def canonical : Json → Json
  | .arr items => .arr (canonicalItems items)
  | .obj members => .obj (sortMembers (canonicalMembers members))
  | .null => .null
  | .bool value => .bool value
  | .num value => .num value
  | .str value => .str value

def canonicalItems : List Json → List Json
  | [] => []
  | item :: items => canonical item :: canonicalItems items

def canonicalMembers : Members → Members
  | [] => []
  | (key, value) :: members =>
    (key, canonical value) :: canonicalMembers members

end

theorem member_orderedInsert (name key : String) (value : Json)
    (members : Members) :
    member name (members.orderedInsert Precedes (key, value)) =
      (member name members).or (if key = name then some value else none) := by
  induction members with
  | nil => rfl
  | cons first members ih =>
    obtain ⟨firstKey, firstValue⟩ := first
    rw [List.orderedInsert_cons]
    split
    · rw [member_cons]
    · rename_i hlater
      have hne : firstKey ≠ key := by
        rintro rfl
        exact hlater (le_refl (utf16 firstKey))
      rw [member_cons, ih, member_cons]
      by_cases hname : key = name
      · subst hname
        simp [hne]
      · simp [hname]

theorem member_sortMembers (name : String) (members : Members) :
    member name (sortMembers members) = member name members := by
  induction members with
  | nil => rfl
  | cons first members ih =>
    obtain ⟨key, value⟩ := first
    rw [sortMembers, List.insertionSort_cons, member_orderedInsert, member_cons]
    exact congrArg (fun found => Option.or found _) ih

theorem member_canonicalMembers (name : String) (members : Members) :
    member name (canonicalMembers members) =
      (member name members).map canonical := by
  induction members with
  | nil => rfl
  | cons first members ih =>
    obtain ⟨key, value⟩ := first
    rw [canonicalMembers, member_cons, ih, member_cons]
    by_cases hname : key = name
    · cases member name members <;> simp [hname]
    · simp [hname]

/-- The members of a canonical object. -/
def canonicalObject (members : Members) : Members :=
  sortMembers (canonicalMembers members)

theorem canonical_obj (members : Members) :
    canonical (.obj members) = .obj (canonicalObject members) := by
  rw [canonical, canonicalObject]

theorem canonicalObject_eq_self (hvalues : canonicalMembers members = members)
    (hsorted : members.Pairwise Precedes) :
    canonicalObject members = members := by
  rw [canonicalObject, hvalues, sortMembers,
    List.Pairwise.insertionSort_eq hsorted]

theorem canonicalMembers_eq_self_iff :
    canonicalMembers members = members ↔
      ∀ entry ∈ members, canonical entry.2 = entry.2 := by
  induction members with
  | nil => simp [canonicalMembers]
  | cons first members ih =>
    obtain ⟨key, value⟩ := first
    simp [canonicalMembers, ih]

theorem canonicalMembers_eq_map (members : Members) :
    canonicalMembers members =
      members.map fun entry => (entry.1, canonical entry.2) := by
  induction members with
  | nil => rfl
  | cons first members ih => rw [canonicalMembers, ih, List.map_cons]

mutual

theorem canonical_canonical (value : Json) :
    canonical (canonical value) = canonical value := by
  cases value with
  | arr items =>
    simp only [canonical]
    rw [canonicalItems_canonicalItems items]
  | obj members =>
    rw [canonical_obj, canonical_obj]
    congr 1
    apply canonicalObject_eq_self
    · rw [canonicalMembers_eq_self_iff]
      intro entry hentry
      exact canonical_of_mem_canonicalMembers members entry
        ((List.perm_insertionSort _ _).mem_iff.mp hentry)
    · exact pairwise_sortMembers (canonicalMembers members)
  | _ => simp [canonical]

theorem canonicalItems_canonicalItems (items : List Json) :
    canonicalItems (canonicalItems items) = canonicalItems items := by
  cases items with
  | nil => rfl
  | cons item items =>
    simp only [canonicalItems]
    rw [canonical_canonical item, canonicalItems_canonicalItems items]

theorem canonical_of_mem_canonicalMembers (members : Members)
    (entry : String × Json) (hentry : entry ∈ canonicalMembers members) :
    canonical entry.2 = entry.2 := by
  cases members with
  | nil => simp [canonicalMembers] at hentry
  | cons first members =>
    obtain ⟨key, value⟩ := first
    simp only [canonicalMembers, List.mem_cons] at hentry
    rcases hentry with rfl | hlater
    · exact canonical_canonical value
    · exact canonical_of_mem_canonicalMembers members entry hlater

end

theorem member_canonicalObject (name : String) (members : Members) :
    member name (canonicalObject members) =
      (member name members).map canonical := by
  rw [canonicalObject, member_sortMembers, member_canonicalMembers]

theorem asString_canonical (value : Json) :
    asString (canonical value) = asString value := by
  cases value <;> simp [canonical, asString]

theorem asObject_canonical (value : Json) :
    asObject (canonical value) = (asObject value).map canonicalObject := by
  cases value <;> simp [canonical, asObject, canonicalObject]

@[simp]
theorem stringMember_canonicalObject (name : String) (members : Members) :
    stringMember name (canonicalObject members) =
      stringMember name members := by
  rw [stringMember, stringMember, member_canonicalObject]
  cases member name members with
  | none => rfl
  | some value => exact asString_canonical value

@[simp]
theorem objectMember_canonicalObject (name : String) (members : Members) :
    objectMember name (canonicalObject members) =
      (objectMember name members).map canonicalObject := by
  rw [objectMember, objectMember, member_canonicalObject]
  cases member name members with
  | none => rfl
  | some value => exact asObject_canonical value

/-! ## Decoding into a struct -/

/-- Simple case folding of the runes whose orbit meets ASCII: the letters, the
long s and the Kelvin sign.  Other runes never match an ASCII field name. -/
def foldRune (character : Char) : Char :=
  if 'A' ≤ character ∧ character ≤ 'Z' then
    Char.ofNat (character.toNat + 32)
  else if character = '\u017F' then 's'
  else if character = '\u212A' then 'k'
  else character

def foldName (name : String) : String :=
  String.ofList (name.toList.map foldRune)

section Struct

variable {State : Type*} (name : String) (decode : State → Json → State)

/-- Let every member that matches the field name write the field, in order. -/
def decodeField (state : State) (members : Members) : State :=
  members.foldl
    (fun current entry =>
      if foldName entry.1 = name then decode current entry.2 else current)
    state

theorem decodeField_cons (state : State) (entry : String × Json)
    (members : Members) :
    decodeField name decode state (entry :: members) =
      decodeField name decode
        (if foldName entry.1 = name then decode state entry.2 else state)
        members :=
  rfl

theorem decodeField_of_no_match (state : State)
    (hnone : ∀ entry ∈ members, foldName entry.1 ≠ name) :
    decodeField name decode state members = state := by
  induction members with
  | nil => rfl
  | cons entry members ih =>
    rw [decodeField_cons, if_neg (hnone entry (by simp)),
      ih fun other hother => hnone other (by simp [hother])]

/-- Every other spelling of the field name sorts before the name itself. -/
def SpelledLast : Prop :=
  ∀ key, foldName key = name → key ≠ name → utf16 key < utf16 name

/-- In a sorted object the member of the exact name is the last to write the
field. -/
theorem decodeField_sorted (hlast : SpelledLast name)
    (hsorted : members.Pairwise Precedes) {value : Json}
    (hmember : member name members = some value)
    (hname : foldName name = name) (state : State) :
    ∃ earlier, decodeField name decode state members =
      decode earlier value := by
  induction members generalizing state with
  | nil => cases hmember
  | cons entry members ih =>
    obtain ⟨key, first⟩ := entry
    obtain ⟨hafter, hsorted⟩ := List.pairwise_cons.mp hsorted
    rw [decodeField_cons]
    rw [member_cons] at hmember
    cases hlater : member name members with
    | some later =>
      rw [hlater] at hmember
      exact ih hsorted (hlater.trans hmember) _
    | none =>
      rw [hlater, Option.none_or] at hmember
      split at hmember
      · rename_i hkey
        subst hkey
        obtain rfl := Option.some.inj hmember
        refine ⟨state, ?_⟩
        rw [if_pos hname, decodeField_of_no_match]
        intro other hother hmatch
        have hne : other.1 ≠ key := ne_of_member_eq_none hlater hother
        exact absurd (hlast other.1 hmatch hne)
          (not_lt_of_ge (hafter other hother))
      · cases hmember

/-- The values under a field name, however it is spelled. -/
def spellings (members : Members) : List Json :=
  (members.filter fun entry => foldName entry.1 = name).map Prod.snd

theorem decodeField_eq_foldl (state : State) (members : Members) :
    decodeField name decode state members =
      (spellings name members).foldl decode state := by
  rw [spellings, List.foldl_map, List.foldl_filter]
  simp only [decide_eq_true_eq]
  rfl

end Struct

/-! ### Names in plain lower case -/

/-- The lower-case letters that only their capitals fold to. -/
def isPlainLower (character : Char) : Bool :=
  'a' ≤ character && character ≤ 'z' && character != 'k' && character != 's'

theorem toNat_le_of_foldRune {character folded : Char}
    (hplain : isPlainLower folded = true)
    (hfold : foldRune character = folded) :
    character.toNat ≤ folded.toNat ∧ folded.toNat ≤ 122 := by
  simp only [isPlainLower, Bool.and_eq_true, decide_eq_true_eq,
    bne_iff_ne] at hplain
  obtain ⟨⟨⟨-, hupper⟩, hk⟩, hs⟩ := hplain
  have hbound : folded.toNat ≤ 122 := hupper
  refine ⟨?_, hbound⟩
  unfold foldRune at hfold
  split at hfold
  · rename_i hcapital
    have hcode : character.toNat ≤ 90 := hcapital.2
    have hvalid : (character.toNat + 32).isValidChar := by
      left
      omega
    rw [← hfold, Char.ofNat, dif_pos hvalid]
    exact Nat.le_add_right character.toNat 32
  · split at hfold
    · exact absurd hfold.symm hs
    · split at hfold
      · exact absurd hfold.symm hk
      · rw [hfold]

theorem utf16Units_of_le {character : Char} (hbound : character.toNat ≤ 122) :
    utf16Units character = [character.toNat] := by
  rw [utf16Units, if_pos (by omega)]

theorem utf16_lt_of_fold {characters folded : List Char}
    (hplain : folded.all isPlainLower = true)
    (hfold : characters.map foldRune = folded) (hne : characters ≠ folded) :
    characters.flatMap utf16Units < folded.flatMap utf16Units := by
  induction characters generalizing folded with
  | nil => exact absurd hfold hne
  | cons character characters ih =>
    subst hfold
    rw [List.map_cons, List.all_cons, Bool.and_eq_true] at hplain
    obtain ⟨hle, hbound⟩ := toNat_le_of_foldRune hplain.1 rfl
    rw [List.map_cons, List.flatMap_cons, List.flatMap_cons,
      utf16Units_of_le hbound, utf16Units_of_le (hle.trans hbound)]
    rcases hle.lt_or_eq with hlt | heq
    · exact List.Lex.rel hlt
    · have hcharacter : character = foldRune character :=
        Char.toNat_inj.mp heq
      have htail : characters ≠ characters.map foldRune := by
        intro htail
        apply hne
        rw [List.map_cons, ← hcharacter, ← htail]
      rw [heq]
      exact List.Lex.cons (ih hplain.2 rfl htail)

theorem spelledLast_of_plain {name : String}
    (hplain : name.toList.all isPlainLower = true) : SpelledLast name := by
  intro key hfold hne
  apply utf16_lt_of_fold hplain
  · rw [← hfold, foldName, String.toList_ofList]
  · intro hlists
    exact hne (String.toList_inj.mp hlists)

end Json

end ComplyTime
