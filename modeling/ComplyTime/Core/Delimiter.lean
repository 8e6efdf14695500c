import Mathlib.Data.List.Basic

/-!
# Texts joined by a delimiter

Two parts joined by a delimiter can be read back when the delimiter occurs in
no left part.  Without that guarantee two joins can agree although their parts
differ: one left part then continues the other, and the continuation together
with the delimiter begins with the delimiter again.
-/

namespace ComplyTime.Delimiter

variable {α : Type*} {delimiter first second first' second' : List α}

def join (delimiter first second : List α) : List α :=
  first ++ delimiter ++ second

/-- The longer text continues the shorter one so that the delimiter can be read
after either of them. -/
def Overlaps (delimiter shorter longer : List α) : Prop :=
  ∃ rest, rest ≠ [] ∧ longer = shorter ++ rest ∧ delimiter <+: rest ++ delimiter

theorem second_eq_of_join_eq
    (heq : join delimiter first second = join delimiter first second') :
    second = second' :=
  List.append_cancel_left heq

theorem eq_or_overlaps_append {rest : List α}
    (heq : delimiter ++ second = rest ++ (delimiter ++ second')) :
    first = first ++ rest ∨ Overlaps delimiter first (first ++ rest) := by
  by_cases hrest : rest = []
  · exact .inl (by rw [hrest, List.append_nil])
  · have hprefix : delimiter <+: (rest ++ delimiter) ++ second' :=
      ⟨second, by rw [heq, List.append_assoc]⟩
    have hlength : delimiter.length ≤ (rest ++ delimiter).length := by
      rw [List.length_append]
      omega
    exact .inr ⟨rest, hrest, rfl,
      List.prefix_of_prefix_length_le hprefix (List.prefix_append _ _) hlength⟩

theorem eq_or_overlaps
    (heq : join delimiter first second = join delimiter first' second') :
    first = first' ∨ Overlaps delimiter first first' ∨
      Overlaps delimiter first' first := by
  simp only [join, List.append_assoc] at heq
  rcases List.append_eq_append_iff.mp heq with
    ⟨rest, rfl, hrest⟩ | ⟨rest, rfl, hrest⟩
  · exact (eq_or_overlaps_append hrest).imp_right .inl
  · exact (eq_or_overlaps_append hrest).imp Eq.symm .inr

theorem Overlaps.exists_join_eq (hoverlaps : Overlaps delimiter first first')
    (second' : List α) :
    ∃ skipped, join delimiter first (skipped ++ second') =
      join delimiter first' second' := by
  obtain ⟨rest, -, rfl, skipped, hskipped⟩ := hoverlaps
  refine ⟨skipped, ?_⟩
  calc first ++ delimiter ++ (skipped ++ second')
      = first ++ (delimiter ++ skipped) ++ second' := by
        simp only [List.append_assoc]
    _ = first ++ (rest ++ delimiter) ++ second' := by rw [hskipped]
    _ = first ++ rest ++ delimiter ++ second' := by
        simp only [List.append_assoc]

theorem Overlaps.ne (hoverlaps : Overlaps delimiter first first') :
    first ≠ first' := by
  obtain ⟨rest, hrest, hlonger, -⟩ := hoverlaps
  intro heq
  exact hrest (List.append_cancel_left
    (by rw [List.append_nil, ← hlonger, heq]))

/-- Joins of nonempty right parts identify both parts exactly when neither left
part overlaps the other. -/
theorem join_injective_iff [Nonempty α] :
    (∀ second second', second ≠ [] → second' ≠ [] →
        join delimiter first second = join delimiter first' second' →
        first = first' ∧ second = second') ↔
      ¬ Overlaps delimiter first first' ∧ ¬ Overlaps delimiter first' first := by
  constructor
  · intro hinjective
    obtain ⟨letter⟩ := ‹Nonempty α›
    constructor
    · intro hoverlaps
      obtain ⟨skipped, heq⟩ := hoverlaps.exists_join_eq [letter]
      exact hoverlaps.ne (hinjective _ _ (by simp) (by simp) heq).1
    · intro hoverlaps
      obtain ⟨skipped, heq⟩ := hoverlaps.exists_join_eq [letter]
      exact hoverlaps.ne (hinjective _ _ (by simp) (by simp) heq.symm).1.symm
  · rintro ⟨hforth, hback⟩ second second' - - heq
    rcases eq_or_overlaps heq with rfl | hoverlaps | hoverlaps
    · exact ⟨rfl, second_eq_of_join_eq heq⟩
    · exact absurd hoverlaps hforth
    · exact absurd hoverlaps hback

end ComplyTime.Delimiter
