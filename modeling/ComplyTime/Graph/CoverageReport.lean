import ComplyTime.Core.Aggregation
import ComplyTime.Graph.EvidenceQuery
import ComplyTime.Graph.SubjectView

/-!
# The coverage report

`Coverage` lists the controls one query returns and counts the covered ones in
a map that another query fills.  A control is listed once for each evidence
node that defines it, and a control may be evaluated for a subject whose
evidence does not define it.  The report adds up exactly when neither happens.
-/

namespace ComplyTime.Graph

open Cypher Keyed RemoteStore

/-! ## Definitions and evaluations -/

/-- The bindings of
`(s:Subject {id: $subjectID})<-[:TARGETS]-(e:Evidence)-[:DEFINES]->(n:Label)`,
with that of the subject. -/
structure DefinedRow where
  subject : ℕ
  evidence : ℕ
  entity : ℕ
  deriving DecidableEq, Repr

def definedRows (graph : EvidenceGraph) (subjectID : String)
    (label : EntityLabel) : List DefinedRow :=
  (graph.query
    |>.matchNode (NodeKey.subject subjectID).pattern
    |>.matchIncoming (fun (_, subject) => subject) .targets (anyOf .evidence)
    |>.matchOutgoing (fun (_, evidence) => evidence) .defines
      (anyOf (.entity label))).rows.map
    fun (((_, subject), evidence), entity) => ⟨subject, evidence, entity⟩

/-- Evidence of the subject defines a control of the catalog. -/
structure DefinesControl (graph : EvidenceGraph) (subjectID catalogID : String)
    (row : DefinedRow) : Prop where
  subject : graph.fitsAt (NodeKey.subject subjectID).pattern row.subject = true
  targets : ⟨row.evidence, .targets, row.subject⟩ ∈ graph.relationships
  evidence : graph.fitsAt (anyOf .evidence) row.evidence = true
  defines : ⟨row.evidence, .defines, row.entity⟩ ∈ graph.relationships
  control : graph.fitsAt (anyOf (.entity .control)) row.entity = true
  catalog : property graph row.entity "catalogID" = some (.text catalogID)

/-- The ID is that of a control of the catalog the subject's evidence
defines. -/
def CatalogControl (graph : EvidenceGraph) (subjectID catalogID id : String) :
    Prop :=
  ∃ row, DefinesControl graph subjectID catalogID row ∧
    property graph row.entity "id" = some (.text id)

/-- The ID is that of a control of the catalog that a finding in sealed
evidence of the subject evaluates. -/
def EvaluatedControl (graph : EvidenceGraph)
    (subjectID catalogID id : String) : Prop :=
  ∃ evidence control, (evidence, control) ∈ evaluatedNodes graph subjectID ∧
    property graph control "catalogID" = some (.text catalogID) ∧
    property graph control "id" = some (.text id) ∧
    (timeProperty graph evidence "sealed").isSome = true

/-- A control of the catalog is defined once. -/
def OneDefinition (graph : EvidenceGraph) (subjectID catalogID : String) :
    Prop :=
  ∀ left right, DefinesControl graph subjectID catalogID left →
    DefinesControl graph subjectID catalogID right →
    property graph left.entity "id" = property graph right.entity "id" →
      left = right

/-- The IDs of controls are strings, as the writer stores them. -/
def ControlIDsStored (graph : EvidenceGraph) : Prop :=
  ∀ index, graph.fitsAt (anyOf (.entity .control)) index = true →
    ∃ id, property graph index "id" = some (.text id)

/-- The report lists each control of the catalog that the subject's evidence
defines once, and its numbers are those of the list. -/
structure ExactReport (graph : EvidenceGraph) (subjectID catalogID : String)
    (result : CoverageResult) : Prop where
  once : (result.controls.map CoverageControl.id).Nodup
  lists : ∀ id, id ∈ result.controls.map CoverageControl.id ↔
    CatalogControl graph subjectID catalogID id
  total : result.total = result.controls.length
  covered : result.covered = (result.controls.filter fun control =>
    decide (control.status = .covered)).length
  covered_le : result.covered ≤ result.total

/-! ## The listed controls -/

section Listed

variable {graph : EvidenceGraph} {subjectID catalogID : String}
  {row : DefinedRow}

theorem definedNodes_eq_map (graph : EvidenceGraph) (subjectID : String)
    (label : EntityLabel) :
    definedNodes graph subjectID label =
      (definedRows graph subjectID label).map
        fun row => (row.evidence, row.entity) := by
  rw [definedNodes, definedRows, List.map_map]
  rfl

/-- The rows of the controls of the catalog. -/
def catalogRows (graph : EvidenceGraph) (subjectID catalogID : String) :
    List DefinedRow :=
  (definedRows graph subjectID .control).filter
    fun row => inCatalog graph catalogID row.entity

theorem mem_catalogRows :
    row ∈ catalogRows graph subjectID catalogID ↔
      DefinesControl graph subjectID catalogID row := by
  obtain ⟨subject, evidence, entity⟩ := row
  rw [catalogRows, List.mem_filter, inCatalog, decide_eq_true_eq]
  simp only [definedRows, List.mem_map, Prod.exists, DefinedRow.mk.injEq,
    Table.matchOutgoing, Table.matchIncoming, Table.matchNode, mem_rows_extend,
    mem_outgoing, mem_incoming, mem_select]
  constructor
  · rintro ⟨⟨_, _, _, _, ⟨⟨⟨_, hsubject⟩, htargets, hevidence⟩, hdefines,
      hcontrol⟩, rfl, rfl, rfl⟩, hcatalog⟩
    exact ⟨hsubject, htargets, hevidence, hdefines, hcontrol, hcatalog⟩
  · intro hrow
    exact ⟨⟨(), _, _, _, ⟨⟨⟨List.mem_singleton_self _, hrow.subject⟩,
      hrow.targets, hrow.evidence⟩, hrow.defines, hrow.control⟩, rfl, rfl,
      rfl⟩, hrow.catalog⟩

theorem nodup_catalogRows (graph : EvidenceGraph)
    (subjectID catalogID : String) :
    (catalogRows graph subjectID catalogID).Nodup := by
  apply List.Nodup.filter
  exact nodup_path_rows graph DefinedRow.mk.inj

theorem coverageControls_eq (graph : EvidenceGraph)
    (subjectID catalogID : String) :
    coverageControls graph subjectID catalogID =
      (catalogRows graph subjectID catalogID).map fun row =>
        (property graph row.entity "id", property graph row.entity "title") := by
  rw [coverageControls, definedNodes_eq_map, List.filter_map, List.map_map]
  rfl

/-- The ID and the title a row of the first query reads as. -/
def controlInfo (row : Option PropertyValue × Option PropertyValue) :
    String × String :=
  (toStringOrEmpty row.1, toStringOrEmpty row.2)

variable {controls : List (Option PropertyValue × Option PropertyValue)}

theorem mapM_controls (hids : ControlIDsStored graph)
    (hcontrols : controls.Perm (coverageControls graph subjectID catalogID)) :
    (controls.mapM fun (id, title) => do
      let id ← assertString id
      return (id, toStringOrEmpty title) : Outcome (List (String × String))) =
        .ok (controls.map controlInfo) := by
  apply mapM_eq_ok
  rintro ⟨id, title⟩ hmem
  have hrow := hcontrols.mem_iff.mp hmem
  rw [coverageControls_eq] at hrow
  obtain ⟨defined, hdefined, heq⟩ := List.mem_map.mp hrow
  obtain ⟨rfl, rfl⟩ := Prod.mk.inj heq
  obtain ⟨name, hname⟩ := hids _ (mem_catalogRows.mp hdefined).control
  simp only [hname, controlInfo, toStringOrEmpty, assertString]
  rfl

theorem listedIDs_perm
    (hcontrols : controls.Perm (coverageControls graph subjectID catalogID)) :
    (controls.map fun row => (controlInfo row).1).Perm
      ((catalogRows graph subjectID catalogID).map fun row =>
        toStringOrEmpty (property graph row.entity "id")) := by
  have hperm := hcontrols.map fun row => (controlInfo row).1
  rw [coverageControls_eq, List.map_map] at hperm
  exact hperm

theorem mem_listedIDs (hids : ControlIDsStored graph) {id : String} :
    id ∈ (catalogRows graph subjectID catalogID).map (fun row =>
      toStringOrEmpty (property graph row.entity "id")) ↔
        CatalogControl graph subjectID catalogID id := by
  rw [List.mem_map]
  constructor
  · rintro ⟨row, hrow, rfl⟩
    have hdefines := mem_catalogRows.mp hrow
    obtain ⟨name, hname⟩ := hids _ hdefines.control
    refine ⟨row, hdefines, ?_⟩
    rw [hname]
    rfl
  · rintro ⟨row, hrow, hid⟩
    refine ⟨row, mem_catalogRows.mpr hrow, ?_⟩
    rw [hid]
    rfl

theorem nodup_listedIDs_iff (hids : ControlIDsStored graph) :
    ((catalogRows graph subjectID catalogID).map (fun row =>
      toStringOrEmpty (property graph row.entity "id"))).Nodup ↔
        OneDefinition graph subjectID catalogID := by
  rw [List.nodup_map_iff_inj_on (nodup_catalogRows graph subjectID catalogID)]
  constructor
  · intro hinj left right hleft hright hsame
    exact hinj left (mem_catalogRows.mpr hleft) right
      (mem_catalogRows.mpr hright) (congrArg toStringOrEmpty hsame)
  · intro honce left hleft right hright hsame
    have hleft := mem_catalogRows.mp hleft
    have hright := mem_catalogRows.mp hright
    apply honce left right hleft hright
    obtain ⟨first, hfirst⟩ := hids _ hleft.control
    obtain ⟨second, hsecond⟩ := hids _ hright.control
    rw [hfirst, hsecond] at hsame ⊢
    have hnames : first = second := hsame
    rw [hnames]

end Listed

/-! ## The covered controls -/

section Covered

variable {graph : EvidenceGraph} {subjectID catalogID : String}
  {latest : List (Option PropertyValue × Option Time)}

/-- The entries of `coveredMap` when the IDs are strings. -/
def coveredEntries (latest : List (Option PropertyValue × Option Time)) :
    List (String × Time) :=
  latest.filterMap fun (id, time) =>
    time.map fun time => (toStringOrEmpty id, time)

variable {id : Option PropertyValue}
  {rows : List (Option PropertyValue × Option Time)}

theorem mem_evaluations {time : Option Time} :
    (id, time) ∈ evaluations graph subjectID catalogID ↔
      ∃ evidence control, (evidence, control) ∈ evaluatedNodes graph subjectID ∧
        property graph control "catalogID" = some (.text catalogID) ∧
        property graph control "id" = id ∧
        timeProperty graph evidence "sealed" = time := by
  simp only [evaluations, List.mem_map, List.mem_filter, Prod.exists,
    inCatalog, decide_eq_true_eq, Prod.mk.injEq]
  constructor
  · rintro ⟨evidence, control, ⟨hmem, hcatalog⟩, hid, htime⟩
    exact ⟨evidence, control, hmem, hcatalog, hid, htime⟩
  · rintro ⟨evidence, control, hmem, hcatalog, hid, htime⟩
    exact ⟨evidence, control, ⟨hmem, hcatalog⟩, hid, htime⟩

theorem mem_latestEvidence {time : Option Time} :
    (id, time) ∈ latestEvidence rows ↔ (∃ row ∈ rows, row.1 = id) ∧
      time = ((rows.filter fun row => row.1 = id).filterMap Prod.snd).max? := by
  simp only [latestEvidence, List.mem_map, List.mem_dedup, Prod.mk.injEq]
  constructor
  · rintro ⟨_, hid, rfl, rfl⟩
    exact ⟨hid, rfl⟩
  · rintro ⟨hid, rfl⟩
    exact ⟨id, hid, rfl, rfl⟩

theorem exists_latest_iff :
    (∃ time, (id, some time) ∈ latestEvidence rows) ↔
      ∃ time, (id, some time) ∈ rows := by
  have htimes : ∀ time, time ∈ (rows.filter fun row =>
      row.1 = id).filterMap Prod.snd ↔ (id, some time) ∈ rows := by
    simp [List.mem_filterMap]
  simp only [mem_latestEvidence]
  constructor
  · rintro ⟨time, -, hmax⟩
    exact ⟨time, (htimes time).mp (List.max?_mem hmax.symm)⟩
  · rintro ⟨time, hmem⟩
    have hne := List.ne_nil_of_mem ((htimes time).mpr hmem)
    obtain ⟨latest, hlatest⟩ :=
      Option.ne_none_iff_exists'.mp (mt List.max?_eq_none_iff.mp hne)
    exact ⟨latest, ⟨_, hmem, rfl⟩, hlatest.symm⟩

theorem nodup_ids_latestEvidence
    (rows : List (Option PropertyValue × Option Time)) :
    ((latestEvidence rows).map Prod.fst).Nodup := by
  have hids : (latestEvidence rows).map Prod.fst =
      (rows.map Prod.fst).dedup := by
    rw [latestEvidence, List.map_map]
    exact List.map_id _
  rw [hids]
  exact List.nodup_dedup _

section

variable (hids : ControlIDsStored graph) (hlatest : latest.Perm
    (latestEvidence (evaluations graph subjectID catalogID)))

include hids hlatest

theorem exists_id_of_latest {row : Option PropertyValue × Option Time}
    (hrow : row ∈ latest) :
    ∃ id, row.1 = some (.text id) := by
  obtain ⟨id, time⟩ := row
  obtain ⟨⟨⟨_, sealed⟩, hmem, rfl⟩, -⟩ :=
    mem_latestEvidence.mp (hlatest.mem_iff.mp hrow)
  obtain ⟨evidence, control, hevaluated, -, hid, -⟩ := mem_evaluations.mp hmem
  obtain ⟨_, _, _, hcontrol⟩ := mem_evaluatedNodes.mp hevaluated
  obtain ⟨name, hname⟩ := hids control (mem_outgoing.mp hcontrol).2
  exact ⟨name, hid.symm.trans hname⟩

theorem nodup_coveredEntries :
    ((coveredEntries latest).map Prod.fst).Nodup := by
  have hkeys : (latest.map Prod.fst).Nodup :=
    (hlatest.map Prod.fst).nodup_iff.mpr (nodup_ids_latestEvidence _)
  have hnames : (latest.map fun row => toStringOrEmpty row.1).Nodup := by
    have hrows := List.Nodup.of_map _ hkeys
    apply hrows.map_on
    intro left hleft right hright hsame
    apply List.inj_on_of_nodup_map hkeys hleft hright
    obtain ⟨first, hfirst⟩ := exists_id_of_latest hids hlatest hleft
    obtain ⟨second, hsecond⟩ := exists_id_of_latest hids hlatest hright
    rw [hfirst, hsecond] at hsame ⊢
    have hequal : first = second := hsame
    rw [hequal]
  apply List.Nodup.sublist _ hnames
  rw [coveredEntries, List.map_filterMap]
  clear hlatest hkeys hnames
  induction latest with
  | nil => exact List.Sublist.refl _
  | cons row latest ih =>
    obtain ⟨id, time⟩ := row
    cases time with
    | none =>
      rw [List.filterMap_cons_none rfl]
      exact ih.cons _
    | some time => exact ih.cons_cons (toStringOrEmpty id)

theorem coveredMap_eq :
    coveredMap latest = .ok (coveredEntries latest) := by
  have hmap := mapOf_of_nodup (nodup_coveredEntries hids hlatest)
  calc
    coveredMap latest = .ok (mapOf _) := by
      apply bind_of_eq_ok
      apply filterMapM_eq_ok
      rintro ⟨id, time⟩ hrow
      obtain ⟨found, hid⟩ := exists_id_of_latest hids hlatest hrow
      obtain rfl : id = some (.text found) := hid
      cases time <;> rfl
    _ = .ok (coveredEntries latest) := congrArg Except.ok hmap

theorem mem_coveredEntries {id : String} :
    id ∈ (coveredEntries latest).map Prod.fst ↔
      EvaluatedControl graph subjectID catalogID id := by
  have hevaluated : EvaluatedControl graph subjectID catalogID id ↔
      ∃ time, (some (.text id), some time) ∈
        evaluations graph subjectID catalogID := by
    simp only [EvaluatedControl, mem_evaluations, Option.isSome_iff_exists]
    constructor
    · rintro ⟨evidence, control, hmem, hcatalog, hid, time, htime⟩
      exact ⟨time, evidence, control, hmem, hcatalog, hid, htime⟩
    · rintro ⟨time, evidence, control, hmem, hcatalog, hid, htime⟩
      exact ⟨evidence, control, hmem, hcatalog, hid, time, htime⟩
  rw [hevaluated, ← exists_latest_iff]
  simp only [← hlatest.mem_iff, coveredEntries, List.mem_map,
    List.mem_filterMap, Option.map_eq_some_iff]
  constructor
  · rintro ⟨_, ⟨⟨value, latestTime⟩, hrow, time, htime, rfl⟩, rfl⟩
    obtain ⟨name, hname⟩ := exists_id_of_latest hids hlatest hrow
    obtain rfl : latestTime = some time := htime
    obtain rfl : value = some (.text name) := hname
    exact ⟨time, hrow⟩
  · rintro ⟨time, hrow⟩
    exact ⟨_, ⟨_, hrow, time, rfl, rfl⟩, rfl⟩

theorem coveredEntries_subset_iff {ids : List String}
    (hlisted : ∀ id, id ∈ ids ↔ CatalogControl graph subjectID catalogID id) :
    (coveredEntries latest).map Prod.fst ⊆ ids ↔
      ∀ id, EvaluatedControl graph subjectID catalogID id →
        CatalogControl graph subjectID catalogID id := by
  apply forall_congr'
  intro id
  rw [mem_coveredEntries hids hlatest, hlisted]

end

end Covered

/-! ## When the report adds up -/

/-- Of distinct IDs as many are among the keys as there are keys exactly when
every key is an ID. -/
theorem length_filter_mem_eq_iff {ids keys : List String} (hids : ids.Nodup)
    (hkeys : keys.Nodup) :
    (ids.filter fun id => decide (id ∈ keys)).length = keys.length ↔
      keys ⊆ ids := by
  have hfilter : (ids.filter fun id => decide (id ∈ keys)).Nodup :=
    hids.filter _
  have hsubset : (ids.filter fun id => decide (id ∈ keys)) ⊆ keys := by
    intro id hid
    exact of_decide_eq_true (List.mem_filter.mp hid).2
  constructor
  · intro hlength
    have hperm := (List.subperm_of_subset hfilter hsubset).perm_of_length_le
      hlength.ge
    intro key hkey
    exact (List.mem_filter.mp (hperm.mem_iff.mpr hkey)).1
  · intro hall
    apply List.Perm.length_eq
    apply (List.perm_ext_iff_of_nodup hfilter hkeys).mpr
    intro id
    rw [List.mem_filter, decide_eq_true_eq]
    exact ⟨fun hid => hid.2, fun hid => ⟨hall hid, hid⟩⟩

section Report

variable {graph : EvidenceGraph} {subjectID catalogID : String}
  {controls : List (Option PropertyValue × Option PropertyValue)}
  {latest : List (Option PropertyValue × Option Time)}

/-- The entry of a control in the report. -/
def reportEntry (covered : List (String × Time)) (info : String × String) :
    CoverageControl :=
  match covered.lookup info.1 with
  | some time => ⟨info.1, info.2, .covered, some time⟩
  | none => ⟨info.1, info.2, .uncovered, none⟩

section

variable (covered : List (String × Time))

theorem id_reportEntry (info : String × String) :
    (reportEntry covered info).id = info.1 := by
  unfold reportEntry
  split <;> rfl

theorem status_reportEntry (info : String × String) :
    (reportEntry covered info).status = .covered ↔
      info.1 ∈ covered.map Prod.fst := by
  have hlookup : (covered.lookup info.1).isSome = true ↔
      info.1 ∈ covered.map Prod.fst := by
    induction covered with
    | nil => simp
    | cons entry covered ih =>
      obtain ⟨key, time⟩ := entry
      by_cases hkey : info.1 = key
      · simp [hkey]
      · rw [List.lookup_cons, beq_eq_false_iff_ne.mpr hkey]
        simp only [List.map_cons, List.mem_cons, hkey, false_or]
        exact ih
  rw [← hlookup]
  unfold reportEntry
  cases covered.lookup info.1 <;> simp

theorem ids_report
    (controls : List (Option PropertyValue × Option PropertyValue)) :
    ((controls.map controlInfo).map (reportEntry covered)).map
        CoverageControl.id = controls.map fun row => (controlInfo row).1 := by
  rw [List.map_map, List.map_map]
  apply List.map_congr_left
  intro row _
  exact id_reportEntry _ _

/-- The covered controls are those with a key of `coveredMap`. -/
theorem length_covered_report
    (controls : List (Option PropertyValue × Option PropertyValue)) :
    (((controls.map controlInfo).map (reportEntry covered)).filter
        fun control => decide (control.status = .covered)).length =
      ((controls.map fun row => (controlInfo row).1).filter fun id =>
        decide (id ∈ covered.map Prod.fst)).length := by
  rw [List.map_map, List.filter_map, List.filter_map, List.length_map,
    List.length_map]
  apply congrArg List.length
  apply List.filter_congr
  intro row _
  apply decide_eq_decide.mpr
  exact status_reportEntry _ _

end

section

variable (hids : ControlIDsStored graph)
  (hcontrols : controls.Perm (coverageControls graph subjectID catalogID))
  (hlatest : latest.Perm
    (latestEvidence (evaluations graph subjectID catalogID)))

include hids hcontrols hlatest

theorem coverageResult_eq :
    coverageResult subjectID catalogID controls latest = .ok {
      subjectID := subjectID
      catalog := catalogID
      catalogType := "ControlCatalog"
      covered := (coveredEntries latest).length
      total := (controls.map controlInfo).length
      controls := (controls.map controlInfo).map
        (reportEntry (coveredEntries latest)) } := by
  calc
    coverageResult subjectID catalogID controls latest =
        coveredMap latest >>= _ := bind_of_eq_ok (mapM_controls hids hcontrols)
    _ = _ := bind_of_eq_ok (coveredMap_eq hids hlatest)

/-- The report lists a control once for each definition, and adds up when each
control has one and the evaluated ones have it. -/
theorem exactReport_iff {result : CoverageResult}
    (hcovered : result.covered = (coveredEntries latest).length)
    (htotal : result.total = (controls.map controlInfo).length)
    (hlist : result.controls = (controls.map controlInfo).map
      (reportEntry (coveredEntries latest))) :
    ExactReport graph subjectID catalogID result ↔
      OneDefinition graph subjectID catalogID ∧
        ∀ id, EvaluatedControl graph subjectID catalogID id →
          CatalogControl graph subjectID catalogID id := by
  let ids := controls.map fun row => (controlInfo row).1
  let keys := (coveredEntries latest).map Prod.fst
  have hnames : result.controls.map CoverageControl.id = ids := by
    rw [hlist, ids_report]
  have hmem : ∀ id, id ∈ ids ↔ CatalogControl graph subjectID catalogID id := by
    intro id
    rw [(listedIDs_perm hcontrols).mem_iff, mem_listedIDs hids]
  have honce : ids.Nodup ↔ OneDefinition graph subjectID catalogID := by
    rw [(listedIDs_perm hcontrols).nodup_iff, nodup_listedIDs_iff hids]
  have hkeys : keys.Nodup := nodup_coveredEntries hids hlatest
  have hlength : result.total = result.controls.length := by
    rw [htotal, hlist, List.length_map, List.length_map, List.length_map]
  have hcount : (result.controls.filter fun control =>
      decide (control.status = .covered)).length =
        (ids.filter fun id => decide (id ∈ keys)).length := by
    rw [hlist, length_covered_report]
  have hnumber : result.covered = keys.length := by
    rw [hcovered, List.length_map]
  rw [← honce, ← coveredEntries_subset_iff hids hlatest hmem]
  constructor
  · intro hexact
    have hnodup : ids.Nodup := hnames ▸ hexact.once
    refine ⟨hnodup, (length_filter_mem_eq_iff hnodup hkeys).mp ?_⟩
    rw [← hcount, ← hnumber, hexact.covered]
  · rintro ⟨hnodup, hall⟩
    have hcovers := (length_filter_mem_eq_iff hnodup hkeys).mpr hall
    have hcoveredCount : result.covered = (result.controls.filter fun control =>
        decide (control.status = .covered)).length := by
      rw [hcount, hcovers, hnumber]
    refine ⟨hnames ▸ hnodup, ?_, hlength, hcoveredCount, ?_⟩
    · intro id
      rw [hnames, hmem]
    · rw [hcoveredCount, hlength]
      exact List.length_filter_le _ _

end

end Report

/-- `Coverage` answers, and every answer lists every control of the catalog
that the subject's evidence defines and no other, and counts the list; the
report is exact if and only if each of these controls is defined once and every
control evaluated for the subject is among them. -/
theorem coverage_exact_iff (graph : EvidenceGraph)
    (subjectID catalogID : String) (hids : ControlIDsStored graph) :
    (∃ answer, Coverage graph subjectID catalogID answer) ∧
    ∀ answer, Coverage graph subjectID catalogID answer →
      ∃ result, answer = .ok result ∧
        (∀ id, id ∈ result.controls.map CoverageControl.id ↔
          CatalogControl graph subjectID catalogID id) ∧
        result.total = result.controls.length ∧
        (ExactReport graph subjectID catalogID result ↔
          OneDefinition graph subjectID catalogID ∧
            ∀ id, EvaluatedControl graph subjectID catalogID id →
              CatalogControl graph subjectID catalogID id) := by
  refine ⟨⟨_, _, _, .refl _, .refl _, rfl⟩, ?_⟩
  rintro answer ⟨controls, latest, hcontrols, hlatest, rfl⟩
  refine ⟨_, coverageResult_eq hids hcontrols hlatest, ?_, ?_,
    exactReport_iff hids hcontrols hlatest rfl rfl rfl⟩
  · intro id
    rw [ids_report, (listedIDs_perm hcontrols).mem_iff, mem_listedIDs hids]
  · simp only [List.length_map]

/-! ## Controls defined twice or not at all -/

instance (graph : EvidenceGraph) : Decidable (ControlIDsStored graph) :=
  inferInstanceAs (Decidable (∀ index,
    graph.fitsAt (anyOf (.entity .control)) index = true →
      ∃ id, property graph index "id" = some (.text id)))

/-- A control catalog of the subject, sealed at a log index. -/
def catalogSealed (subjectID : String) (logIndex : Int64) : List Upsert :=
  [.subject subjectID, .publisher "https://idp" "arch",
    .evidence ⟨logIndex, "sha256:abc", "sha256:def", "ControlCatalog", "sealed",
      subjectID, "https://idp", "arch", 5⟩]

/-- The evidence at a log index defines the control. -/
def definesControl (id : String) (logIndex : Int64) : Upsert :=
  .entity ⟨id, .control,
    [("title", .text id), ("catalogID", .text "catalog")], logIndex⟩

/-- The evidence at a log index defines a finding about the control. -/
def evaluatesControl (id : String) (logIndex : Int64) : List Upsert :=
  [.entity ⟨"finding", .evaluationFinding, [], logIndex⟩,
    .edge ⟨"finding", .evaluationFinding, id, .control, .evaluates⟩]

def coverageSample (upserts : List Upsert) : EvidenceGraph :=
  upserts.foldl (fun graph upsert => upsert.apply graph) Graph.empty

/-- One catalog with two controls, one of them evaluated. -/
def evaluatedSample : EvidenceGraph :=
  coverageSample (catalogSealed "my-app-v1" 0 ++
    [definesControl "C1" 0, definesControl "C2" 0] ++ evaluatesControl "C1" 0)

theorem evaluated_report_exact :
    ∃ result, Coverage evaluatedSample "my-app-v1" "catalog" (.ok result) ∧
      ExactReport evaluatedSample "my-app-v1" "catalog" result := by
  obtain ⟨⟨answer, hanswer⟩, hanswers⟩ := coverage_exact_iff evaluatedSample
    "my-app-v1" "catalog" (by decide +kernel)
  obtain ⟨result, rfl, -, -, hiff⟩ := hanswers answer hanswer
  have hdefined : ∀ left ∈ catalogRows evaluatedSample "my-app-v1" "catalog",
      ∀ right ∈ catalogRows evaluatedSample "my-app-v1" "catalog",
        property evaluatedSample left.entity "id" =
          property evaluatedSample right.entity "id" → left = right := by
    decide +kernel
  have hevaluated : ∀ pair ∈ evaluatedNodes evaluatedSample "my-app-v1",
      ∃ row ∈ catalogRows evaluatedSample "my-app-v1" "catalog",
        property evaluatedSample row.entity "id" =
          property evaluatedSample pair.2 "id" := by
    decide +kernel
  refine ⟨result, hanswer, hiff.mpr ⟨?_, ?_⟩⟩
  · intro left right hleft hright
    exact hdefined left (mem_catalogRows.mpr hleft) right
      (mem_catalogRows.mpr hright)
  · rintro id ⟨evidence, control, hmem, -, hid, -⟩
    obtain ⟨row, hrow, hsame⟩ := hevaluated _ hmem
    exact ⟨row, mem_catalogRows.mp hrow, hsame.trans hid⟩

/-- The catalog has been sealed twice, so its control has two definitions. -/
def sealedTwiceSample : EvidenceGraph :=
  coverageSample (catalogSealed "my-app-v1" 0 ++ [definesControl "C1" 0] ++
    catalogSealed "my-app-v1" 1 ++ [definesControl "C1" 1])

/-- Only another subject has the catalog, but the control is evaluated for this
one. -/
def evaluatedOnlySample : EvidenceGraph :=
  coverageSample (catalogSealed "other-app" 0 ++ [definesControl "C1" 0] ++
    catalogSealed "my-app-v1" 1 ++ evaluatesControl "C1" 1)

/-- A control with two definitions is listed twice; one that is only evaluated
is counted as covered and not listed. -/
theorem report_does_not_add_up :
    Coverage sealedTwiceSample "my-app-v1" "catalog"
      (.ok ⟨"my-app-v1", "catalog", "ControlCatalog", 0, 2,
        [⟨"C1", "C1", .uncovered, none⟩, ⟨"C1", "C1", .uncovered, none⟩]⟩) ∧
    Coverage evaluatedOnlySample "my-app-v1" "catalog"
      (.ok ⟨"my-app-v1", "catalog", "ControlCatalog", 1, 0, []⟩) := by
  constructor
  · exact ⟨_, _, List.Perm.refl _, List.Perm.refl _, by decide +kernel⟩
  · exact ⟨_, _, List.Perm.refl _, List.Perm.refl _, by decide +kernel⟩

end ComplyTime.Graph
