import Mathlib.Data.Finset.Dedup
import Mathlib.Data.List.ReduceOption
import Mathlib.Data.Set.Card

/-!
# Aggregates over the rows of a query

A `RETURN` with aggregates groups the rows by the columns that are not
aggregated and returns one row for each group.  `count`, `max` and `collect`
skip what is missing.  `OPTIONAL MATCH` keeps a row for which nothing is found,
with the new variable unbound.
-/

namespace ComplyTime.Cypher

variable {Row Key Value Found : Type*}

/-- One group of rows for each value of the grouping column. -/
def groupBy [DecidableEq Key] (key : Row → Key) (rows : List Row) :
    List (Key × List Row) :=
  (rows.map key).dedup.map fun value =>
    (value, rows.filter fun row => decide (key row = value))

/-- `count(DISTINCT column)`. -/
def countDistinct [DecidableEq Value] (column : Row → Option Value)
    (rows : List Row) : ℕ :=
  (rows.filterMap column).dedup.length

/-- `collect(DISTINCT column)` of a column that is always there. -/
def collectDistinct [DecidableEq Value] (column : Row → Value)
    (rows : List Row) : List Value :=
  (rows.map column).dedup

/-- `OPTIONAL MATCH`: every row with each of the matches found for it, or
alone. -/
def optionalMatch (found : Row → List Found) (rows : List Row) :
    List (Row × Option Found) :=
  rows.flatMap fun row =>
    match found row with
    | [] => [(row, none)]
    | first :: rest => (first :: rest).map fun binding => (row, some binding)

section Groups

variable [DecidableEq Key] {key : Row → Key} {rows : List Row}

@[simp]
theorem mem_groupBy {value : Key} {group : List Row} :
    (value, group) ∈ groupBy key rows ↔ (∃ row ∈ rows, key row = value) ∧
      group = rows.filter fun row => decide (key row = value) := by
  simp only [groupBy, List.mem_map, List.mem_dedup, Prod.mk.injEq]
  constructor
  · rintro ⟨_, hvalue, rfl, rfl⟩
    exact ⟨hvalue, rfl⟩
  · rintro ⟨hvalue, rfl⟩
    exact ⟨value, hvalue, rfl, rfl⟩

theorem map_fst_groupBy (key : Row → Key) (rows : List Row) :
    (groupBy key rows).map Prod.fst = (rows.map key).dedup := by
  rw [groupBy, List.map_map]
  exact List.map_id _

theorem nodup_keys_groupBy (key : Row → Key) (rows : List Row) :
    ((groupBy key rows).map Prod.fst).Nodup := by
  rw [map_fst_groupBy]
  exact List.nodup_dedup _

theorem groupBy_of_agree {row : Row} (hrow : row ∈ rows)
    (hagree : ∀ other ∈ rows, key other = key row) :
    groupBy key rows = [(key row, rows)] := by
  have hkeys : (rows.map key).dedup = [key row] := by
    have hall : rows.map key = List.replicate rows.length (key row) :=
      List.map_eq_replicate_iff.mpr hagree
    have hpos : rows.length ≠ 0 := (List.length_pos_of_mem hrow).ne'
    rw [hall, List.replicate_dedup hpos]
  rw [groupBy, hkeys, List.map_singleton, List.filter_eq_self.mpr]
  intro other hother
  exact decide_eq_true (hagree other hother)

end Groups

section Counts

variable [DecidableEq Value] {column : Row → Option Value} {rows : List Row}

/-- The values of the column that some row has. -/
def valuesOf (column : Row → Option Value) (rows : List Row) : Set Value :=
  {value | ∃ row ∈ rows, column row = some value}

omit [DecidableEq Value] in
theorem finite_valuesOf (column : Row → Option Value) (rows : List Row) :
    (valuesOf column rows).Finite := by
  apply (List.finite_toSet (rows.filterMap column)).subset
  intro value hvalue
  exact List.mem_filterMap.mpr hvalue

theorem countDistinct_eq_ncard (column : Row → Option Value)
    (rows : List Row) :
    countDistinct column rows = (valuesOf column rows).ncard := by
  have hvalues : valuesOf column rows =
      ((rows.filterMap column).toFinset : Set Value) := by
    ext value
    simp [valuesOf]
  rw [hvalues, Set.ncard_coe_finset, List.card_toFinset]
  rfl

end Counts

theorem max?_congr_mem [LinearOrder Value] {left right : List Value}
    (hmem : ∀ value, value ∈ left ↔ value ∈ right) :
    left.max? = right.max? := by
  apply Option.ext
  intro value
  simp only [List.max?_eq_some_iff, hmem]

theorem nodup_reduceOption {column : List (Option Value)}
    (hcolumn : column.Nodup) : column.reduceOption.Nodup := by
  apply List.Nodup.filterMap _ hcolumn
  intro left right value hleft hright
  exact (Option.mem_def.mp hleft).trans (Option.mem_def.mp hright).symm

/-- As many distinct values as rows: every row has a value, and no two have the
same. -/
theorem length_dedup_reduceOption_eq_iff [DecidableEq Value]
    {column : List (Option Value)} :
    column.reduceOption.dedup.length = column.length ↔
      (∀ value ∈ column, value.isSome = true) ∧ column.Nodup := by
  have hdedup := (List.dedup_sublist column.reduceOption).length_le
  have hreduce := List.reduceOption_length_le column
  constructor
  · intro hlength
    have hsome : ∀ value ∈ column, value.isSome = true :=
      List.reduceOption_length_eq_iff.mp (by omega)
    have hdistinct : column.reduceOption.Nodup := by
      apply List.dedup_eq_self.mp
      exact (List.dedup_sublist _).eq_of_length_le (by omega)
    have hcolumn : column = column.reduceOption.map some := by
      clear hdedup hreduce hlength hdistinct
      induction column with
      | nil => rfl
      | cons first column ih =>
        obtain ⟨value, rfl⟩ :=
          Option.isSome_iff_exists.mp (hsome first List.mem_cons_self)
        have hrest := ih (List.forall_mem_of_forall_mem_cons hsome)
        rw [List.reduceOption_cons_of_some, List.map_cons, ← hrest]
    refine ⟨hsome, ?_⟩
    rw [hcolumn]
    exact hdistinct.map (Option.some_injective _)
  · rintro ⟨hsome, hdistinct⟩
    have hlength := List.reduceOption_length_eq_iff.mpr hsome
    rw [List.dedup_eq_self.mpr (nodup_reduceOption hdistinct), hlength]

section Optional

variable {found : Row → List Found} {rows : List Row} {row : Row}

@[simp]
theorem mem_optionalMatch_some {binding : Found} :
    (row, some binding) ∈ optionalMatch found rows ↔
      row ∈ rows ∧ binding ∈ found row := by
  rw [optionalMatch, List.mem_flatMap]
  constructor
  · rintro ⟨other, hother, hmem⟩
    cases hfound : found other with
    | nil => simp [hfound] at hmem
    | cons first rest =>
      simp only [hfound, List.mem_map, Prod.mk.injEq, Option.some.injEq]
        at hmem
      obtain ⟨_, hbinding, rfl, rfl⟩ := hmem
      exact ⟨hother, hfound ▸ hbinding⟩
  · rintro ⟨hrow, hbinding⟩
    refine ⟨row, hrow, ?_⟩
    cases hfound : found row with
    | nil => simp [hfound] at hbinding
    | cons first rest =>
      rw [hfound] at hbinding
      exact List.mem_map_of_mem hbinding

theorem exists_mem_optionalMatch (found : Row → List Found)
    (hrow : row ∈ rows) :
    ∃ binding, (row, binding) ∈ optionalMatch found rows := by
  cases hfound : found row with
  | nil =>
    refine ⟨none, List.mem_flatMap.mpr ⟨row, hrow, ?_⟩⟩
    simp [hfound]
  | cons first rest =>
    refine ⟨some first, mem_optionalMatch_some.mpr ⟨hrow, ?_⟩⟩
    simp [hfound]

theorem fst_mem_of_mem_optionalMatch {binding : Option Found}
    (hmem : (row, binding) ∈ optionalMatch found rows) : row ∈ rows := by
  obtain ⟨other, hother, hmem⟩ := List.mem_flatMap.mp hmem
  cases hfound : found other with
  | nil =>
    simp only [hfound, List.mem_singleton, Prod.mk.injEq] at hmem
    rwa [hmem.1]
  | cons first rest =>
    simp only [hfound, List.mem_map, Prod.mk.injEq] at hmem
    obtain ⟨_, _, rfl, _⟩ := hmem
    exact hother

end Optional

end ComplyTime.Cypher
