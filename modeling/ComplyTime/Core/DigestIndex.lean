import Mathlib.Data.List.Induction
import Mathlib.Logic.Function.Basic
import Mathlib.Tactic.Common

/-!
# Digest indexes of an append-only log

A log is a list of items and an item's position is its index.  A digest index
remembers, for every digest, one position of the log.  It is built in two
ways: by recording positions one at a time, and by scanning a prefix of the
log.  The lemmas relate the answers of a scanned index to the log itself and
hold for every digest function.
-/

namespace ComplyTime.DigestIndex

variable {Item Digest : Type*} [DecidableEq Digest]

/-- A partial map from digests to log positions. -/
abbrev Index (Digest : Type*) := Digest → Option ℕ

/-- The index of an empty log. -/
def empty : Index Digest := fun _ => none

/-- Remember `position` for `digest`, replacing an earlier position. -/
def record (index : Index Digest) (digest : Digest) (position : ℕ) :
    Index Digest :=
  Function.update index digest (some position)

/-- Record the items of `log` in order, the first of them at `position`. -/
def scanFrom (digest : Item → Digest) :
    ℕ → List Item → Index Digest → Index Digest
  | _, [], index => index
  | position, item :: items, index =>
    scanFrom digest (position + 1) items
      (record index (digest item) position)

/-- The index a full scan of `log` computes. -/
def scan (digest : Item → Digest) (log : List Item) : Index Digest :=
  scanFrom digest 0 log empty

@[simp]
theorem record_self (index : Index Digest) (digest : Digest) (position : ℕ) :
    record index digest position digest = some position := by
  simp [record]

variable {digest other : Digest}

theorem record_of_ne (index : Index Digest) (position : ℕ)
    (hne : other ≠ digest) :
    record index digest position other = index other := by
  simp [record, hne]

theorem isSome_record (index : Index Digest) (digest other : Digest)
    (position : ℕ) (hknown : (index other).isSome) :
    (record index digest position other).isSome := by
  by_cases heq : other = digest
  · subst heq
    simp
  · rwa [record_of_ne index position heq]

theorem record_eq_some {index : Index Digest} {position answer : ℕ}
    (hanswer : record index digest position other = some answer) :
    (other = digest ∧ answer = position) ∨ index other = some answer := by
  by_cases heq : other = digest
  · subst heq
    left
    exact ⟨rfl, by simpa using hanswer.symm⟩
  · right
    rwa [record_of_ne index position heq] at hanswer

section

variable (digest : Item → Digest)

theorem scanFrom_append (position : ℕ) (left right : List Item)
    (index : Index Digest) :
    scanFrom digest position (left ++ right) index =
      scanFrom digest (position + left.length) right
        (scanFrom digest position left index) := by
  induction left generalizing position index with
  | nil => simp [scanFrom]
  | cons item items ih =>
    simp only [List.cons_append, scanFrom, List.length_cons, ih]
    congr 1
    omega

theorem scan_append_singleton (log : List Item) (item : Item) :
    scan digest (log ++ [item]) =
      record (scan digest log) (digest item) log.length := by
  simp [scan, scanFrom_append, scanFrom]

variable {log : List Item}

theorem isSome_scan_of_mem {item : Item} (hmem : item ∈ log) :
    (scan digest log (digest item)).isSome := by
  induction log using List.reverseRecOn with
  | nil => simp at hmem
  | append_singleton items last ih =>
    rw [scan_append_singleton]
    rcases List.mem_append.mp hmem with hold | hlast
    · exact isSome_record _ _ _ _ (ih hold)
    · obtain rfl := List.mem_singleton.mp hlast
      simp

theorem getElem?_of_scan_eq_some {asked : Digest} {position : ℕ}
    (hanswer : scan digest log asked = some position) :
    ∃ item, log[position]? = some item ∧ digest item = asked := by
  induction log using List.reverseRecOn with
  | nil => simp [scan, scanFrom, empty] at hanswer
  | append_singleton items last ih =>
    rw [scan_append_singleton] at hanswer
    rcases record_eq_some hanswer with ⟨hasked, hposition⟩ | hold
    · subst hasked hposition
      exact ⟨last, by simp, rfl⟩
    · obtain ⟨item, hitem, hdigest⟩ := ih hold
      obtain ⟨hlt, -⟩ := List.getElem?_eq_some_iff.mp hitem
      exact ⟨item, by rw [List.getElem?_append_left hlt, hitem], hdigest⟩

theorem isSome_scan_iff {asked : Digest} :
    (scan digest log asked).isSome ↔ ∃ item ∈ log, digest item = asked := by
  constructor
  · intro hknown
    obtain ⟨position, hposition⟩ := Option.isSome_iff_exists.mp hknown
    obtain ⟨item, hitem, hdigest⟩ := getElem?_of_scan_eq_some digest hposition
    exact ⟨item, List.mem_of_getElem? hitem, hdigest⟩
  · intro hitem
    obtain ⟨item, hmem, rfl⟩ := hitem
    exact isSome_scan_of_mem digest hmem

end

end ComplyTime.DigestIndex
