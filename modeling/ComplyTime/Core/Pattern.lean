import Mathlib.Data.List.Basic
import Mathlib.Tactic.Common

/-!
# Regular patterns

Regular expressions over character tests, for texts matched from end to end.
`accepts` decides them by derivatives: the derivative of a pattern by a
character matches what may follow that character.  `Matches` is the meaning of
a pattern, and the two agree.
-/

namespace ComplyTime

inductive Pattern
  | never
  | empty
  | one (test : Char → Bool)
  | seq (first second : Pattern)
  | alt (left right : Pattern)
  | star (inner : Pattern)

namespace Pattern

/-- A fixed text. -/
def literal (content : String) : Pattern :=
  content.toList.foldr (fun character rest =>
    .seq (.one fun found => found == character) rest) .empty

/-- One or more times. -/
def plus (inner : Pattern) : Pattern := .seq inner (.star inner)

/-- Any of the characters that differ from the given one. -/
def except (character : Char) : Pattern :=
  .one fun found => found != character

def oneOf : List String → Pattern
  | [] => .never
  | content :: contents => .alt (literal content) (oneOf contents)

/-- The pieces, one after the other. -/
def chain : List Pattern → Pattern
  | [] => .empty
  | piece :: pieces => .seq piece (chain pieces)

def nullable : Pattern → Bool
  | .never => false
  | .empty => true
  | .one _ => false
  | .seq first second => nullable first && nullable second
  | .alt left right => nullable left || nullable right
  | .star _ => true

def derive (character : Char) : Pattern → Pattern
  | .never => .never
  | .empty => .never
  | .one test => if test character then .empty else .never
  | .seq first second =>
    if nullable first then
      .alt (.seq (derive character first) second) (derive character second)
    else .seq (derive character first) second
  | .alt left right => .alt (derive character left) (derive character right)
  | .star inner => .seq (derive character inner) (.star inner)

def accepts (pattern : Pattern) : List Char → Bool
  | [] => nullable pattern
  | character :: characters => accepts (derive character pattern) characters

/-- `Regexp.MatchString` for a pattern between `^` and `$`. -/
def matchString (pattern : Pattern) (content : String) : Bool :=
  accepts pattern content.toList

/-- The texts a pattern stands for. -/
inductive Matches : Pattern → List Char → Prop
  | empty : Matches .empty []
  | one {test : Char → Bool} {character : Char} (htest : test character) :
      Matches (.one test) [character]
  | seq {first second : Pattern} {left right : List Char}
      (hfirst : Matches first left) (hsecond : Matches second right) :
      Matches (.seq first second) (left ++ right)
  | left {left right : Pattern} {characters : List Char}
      (hleft : Matches left characters) : Matches (.alt left right) characters
  | right {left right : Pattern} {characters : List Char}
      (hright : Matches right characters) :
      Matches (.alt left right) characters
  | stop {inner : Pattern} : Matches (.star inner) []
  | again {inner : Pattern} {character : Char} {left right : List Char}
      (hinner : Matches inner (character :: left))
      (hrest : Matches (.star inner) right) :
      Matches (.star inner) (character :: (left ++ right))

variable {characters : List Char}

theorem matches_seq_iff {first second : Pattern} :
    Matches (.seq first second) characters ↔
      ∃ left right, characters = left ++ right ∧ Matches first left ∧
        Matches second right := by
  constructor
  · intro hmatches
    cases hmatches with
    | seq hfirst hsecond => exact ⟨_, _, rfl, hfirst, hsecond⟩
  · intro hsplit
    obtain ⟨left, right, rfl, hfirst, hsecond⟩ := hsplit
    exact .seq hfirst hsecond

theorem matches_alt_iff {left right : Pattern} :
    Matches (.alt left right) characters ↔
      Matches left characters ∨ Matches right characters := by
  constructor
  · intro hmatches
    cases hmatches with
    | left hleft => exact .inl hleft
    | right hright => exact .inr hright
  · intro hcases
    rcases hcases with hleft | hright
    · exact .left hleft
    · exact .right hright

theorem nullable_iff (pattern : Pattern) :
    nullable pattern = true ↔ Matches pattern [] := by
  induction pattern with
  | never =>
    simp only [nullable, Bool.false_eq_true, false_iff]
    intro hmatches
    cases hmatches
  | empty => simp [nullable, Matches.empty]
  | one test =>
    simp only [nullable, Bool.false_eq_true, false_iff]
    intro hmatches
    cases hmatches
  | seq first second ihfirst ihsecond =>
    simp only [nullable, Bool.and_eq_true, ihfirst, ihsecond,
      matches_seq_iff, List.nil_eq_append_iff]
    constructor
    · intro hboth
      exact ⟨[], [], ⟨rfl, rfl⟩, hboth⟩
    · intro hsplit
      obtain ⟨left, right, ⟨rfl, rfl⟩, hboth⟩ := hsplit
      exact hboth
  | alt left right ihleft ihright =>
    simp [nullable, ihleft, ihright, matches_alt_iff]
  | star inner => simp [nullable, Matches.stop]

/-- The first character is consumed by the first part or, if that may be empty,
by the second. -/
theorem matches_seq_cons_iff {first second : Pattern} {character : Char} :
    Matches (.seq first second) (character :: characters) ↔
      (Matches first [] ∧ Matches second (character :: characters)) ∨
      ∃ left right, characters = left ++ right ∧
        Matches first (character :: left) ∧ Matches second right := by
  rw [matches_seq_iff]
  constructor
  · intro hparts
    obtain ⟨left, right, heq, hfirst, hsecond⟩ := hparts
    cases left with
    | nil =>
      rw [List.nil_append] at heq
      rw [← heq] at hsecond
      exact .inl ⟨hfirst, hsecond⟩
    | cons head left =>
      obtain ⟨rfl, hrest⟩ := List.cons.inj heq
      exact .inr ⟨left, right, hrest, hfirst, hsecond⟩
  · intro hparts
    rcases hparts with ⟨hfirst, hsecond⟩ |
      ⟨left, right, rfl, hfirst, hsecond⟩
    · exact ⟨[], _, rfl, hfirst, hsecond⟩
    · exact ⟨character :: left, right, rfl, hfirst, hsecond⟩

theorem matches_derive_iff (pattern : Pattern) (character : Char)
    (characters : List Char) :
    Matches (derive character pattern) characters ↔
      Matches pattern (character :: characters) := by
  induction pattern generalizing characters with
  | never => constructor <;> intro hmatches <;> cases hmatches
  | empty => constructor <;> intro hmatches <;> cases hmatches
  | one test =>
    rw [derive]
    constructor
    · intro hmatches
      split at hmatches
      · rename_i htest
        cases hmatches
        exact .one htest
      · cases hmatches
    · intro hmatches
      cases hmatches with
      | one htest =>
        rw [if_pos htest]
        exact .empty
  | alt left right ihleft ihright =>
    rw [derive, matches_alt_iff, matches_alt_iff, ihleft, ihright]
  | seq first second ihfirst ihsecond =>
    have hconsumed : Matches (.seq (derive character first) second)
        characters ↔ ∃ left right, characters = left ++ right ∧
          Matches first (character :: left) ∧ Matches second right := by
      simp only [matches_seq_iff, ihfirst]
    rw [derive, matches_seq_cons_iff, ← nullable_iff first]
    by_cases hnull : nullable first = true
    · rw [if_pos hnull, matches_alt_iff, hconsumed, ihsecond, or_comm]
      simp only [hnull, true_and]
    · rw [if_neg hnull, hconsumed, iff_or_self]
      intro hempty
      exact absurd hempty.1 hnull
  | star inner ih =>
    rw [derive, matches_seq_iff]
    constructor
    · intro hparts
      obtain ⟨left, right, rfl, hinner, hrest⟩ := hparts
      exact .again ((ih left).mp hinner) hrest
    · intro hmatches
      cases hmatches with
      | again hinner hrest => exact ⟨_, _, rfl, (ih _).mpr hinner, hrest⟩

theorem accepts_iff (pattern : Pattern) (characters : List Char) :
    accepts pattern characters = true ↔ Matches pattern characters := by
  induction characters generalizing pattern with
  | nil => exact nullable_iff pattern
  | cons character characters ih => rw [accepts, ih, matches_derive_iff]

theorem matches_star_one_iff {test : Char → Bool} :
    Matches (.star (.one test)) characters ↔
      ∀ character ∈ characters, test character = true := by
  induction characters with
  | nil => simp [Matches.stop]
  | cons first characters ih =>
    rw [List.forall_mem_cons, ← ih]
    constructor
    · intro hmatches
      cases hmatches with
      | again hinner hrest =>
        cases hinner with
        | one htest => exact ⟨htest, hrest⟩
    · intro hboth
      exact .again (.one hboth.1) hboth.2

theorem matchString_plus_one_iff {test : Char → Bool} {content : String} :
    matchString (plus (.one test)) content = true ↔
      content.toList ≠ [] ∧
        ∀ character ∈ content.toList, test character = true := by
  rw [matchString, accepts_iff]
  generalize content.toList = characters
  cases characters with
  | nil =>
    simp only [ne_eq, not_true_eq_false, false_and, iff_false]
    rw [← nullable_iff]
    simp [plus, nullable]
  | cons first characters =>
    rw [plus, matches_seq_iff, List.forall_mem_cons]
    constructor
    · intro hparts
      obtain ⟨left, right, heq, hfirst, hrest⟩ := hparts
      cases hfirst with
      | one htest =>
        obtain ⟨rfl, rfl⟩ := List.cons.inj heq
        exact ⟨by simp, htest, matches_star_one_iff.mp hrest⟩
    · intro hall
      exact ⟨[first], characters, rfl, .one hall.2.1,
        matches_star_one_iff.mpr hall.2.2⟩

end Pattern

end ComplyTime
