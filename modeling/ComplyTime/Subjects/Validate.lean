import ComplyTime.Errors
import Mathlib.Data.List.Basic

/-!
# Subject identifiers

`ValidateSubjectID` accepts flat slugs: one alphanumeric character followed by
at most 253 alphanumeric characters, underscores or hyphens.  The pattern is
anchored at both ends of the text, so it is a predicate on the whole character
list.
-/

namespace ComplyTime.Subjects

abbrev SubjectID := String

def isAlphanumeric (character : Char) : Bool :=
  ('a' ≤ character && character ≤ 'z') ||
    ('A' ≤ character && character ≤ 'Z') ||
    ('0' ≤ character && character ≤ '9')

def isSlugCharacter (character : Char) : Bool :=
  isAlphanumeric character || character == '_' || character == '-'

/-- `^[a-zA-Z0-9][a-zA-Z0-9_-]{0,253}$`. -/
def subjectIDPattern (subjectID : SubjectID) : Bool :=
  match subjectID.toList with
  | [] => false
  | first :: rest =>
    isAlphanumeric first && rest.all isSlugCharacter &&
      decide (rest.length ≤ 253)

def validateSubjectID (subjectID : SubjectID) : Except GoError Unit :=
  if subjectID = "" then
    .error (.message "subjectID cannot be empty")
  else if subjectIDPattern subjectID then
    .ok ()
  else
    .error (.message ("subjectID must start with alphanumeric and contain " ++
      "only alphanumeric, underscore, hyphen (max 254 chars)"))

/-- The subject IDs every service accepts. -/
def ValidSubjectID (subjectID : SubjectID) : Prop :=
  validateSubjectID subjectID = .ok ()

instance (subjectID : SubjectID) : Decidable (ValidSubjectID subjectID) := by
  unfold ValidSubjectID
  exact match h : validateSubjectID subjectID with
    | .ok () => isTrue rfl
    | .error _ => isFalse (by simp)

theorem validSubjectID_iff (subjectID : SubjectID) :
    ValidSubjectID subjectID ↔ subjectIDPattern subjectID = true := by
  unfold ValidSubjectID validateSubjectID
  by_cases hempty : subjectID = ""
  · subst hempty
    simp [subjectIDPattern]
  · by_cases hpattern : subjectIDPattern subjectID = true
    · simp [hempty, hpattern]
    · simp [hempty, hpattern]

theorem ValidSubjectID.ne_empty {subjectID : SubjectID}
    (hvalid : ValidSubjectID subjectID) : subjectID ≠ "" := by
  rintro rfl
  simp [ValidSubjectID, validateSubjectID] at hvalid

theorem ValidSubjectID.exists_cons {subjectID : SubjectID}
    (hvalid : ValidSubjectID subjectID) :
    ∃ first rest, subjectID.toList = first :: rest ∧
      isAlphanumeric first = true ∧
      ∀ character ∈ subjectID.toList, isSlugCharacter character = true := by
  rw [validSubjectID_iff, subjectIDPattern] at hvalid
  cases hlist : subjectID.toList with
  | nil =>
    rw [hlist] at hvalid
    cases hvalid
  | cons first rest =>
    rw [hlist] at hvalid
    simp only [Bool.and_eq_true, List.all_eq_true] at hvalid
    obtain ⟨⟨hfirst, hrest⟩, -⟩ := hvalid
    refine ⟨first, rest, rfl, hfirst, ?_⟩
    rw [List.forall_mem_cons]
    exact ⟨by simp [isSlugCharacter, hfirst], hrest⟩

end ComplyTime.Subjects
