import ComplyTime.Core.Aggregation
import ComplyTime.Graph.EvidenceQuery
import ComplyTime.Graph.Queries
import Mathlib.Data.String.Basic

/-!
# Summaries of a subject

`SubjectSummary` and `ListSubjects` count the evidence of a subject, the first
in a query grouped by the artifact type, the second in one grouped by the ID of
the subject.  The totals of `SubjectSummary` are those of the first row the
query returns, which covers one artifact type only: they are the totals of the
subject exactly when its evidence has one type.
-/

namespace ComplyTime.Graph

open Cypher RemoteStore

/-! ## Rows -/

/-- The bindings of `(s:Subject {id: $subjectID})<-[:TARGETS]-(e:Evidence)` and
`(e)-[:PUBLISHED_BY]->(p:Publisher)`. -/
def publishedRows (graph : EvidenceGraph) (subjectID : String) :
    List EvidenceRow :=
  (graph.query
    |>.matchNode (NodeKey.subject subjectID).pattern
    |>.matchIncoming (fun (_, subject) => subject) .targets (anyOf .evidence)
    |>.matchOutgoing (fun (_, evidence) => evidence) .publishedBy
      (anyOf .publisher)).rows.map
    fun (((_, subject), evidence), publisher) => ⟨subject, evidence, publisher⟩

/-- The evidence of a subject node and its publishers. -/
def publishedOf (graph : EvidenceGraph) (subject : ℕ) : List (ℕ × ℕ) :=
  (graph.incoming subject .targets (anyOf .evidence)).flatMap fun evidence =>
    (graph.outgoing evidence .publishedBy (anyOf .publisher)).map
      fun publisher => (evidence, publisher)

/-- `MATCH (s:Subject)` with the evidence and the publisher, if there are
any. -/
def subjectBindings (graph : EvidenceGraph) : List (ℕ × Option (ℕ × ℕ)) :=
  optionalMatch (publishedOf graph) (graph.select (anyOf .subject))

/-! ## `SubjectSummary` -/

structure ArtifactTypeSummary where
  count : ℕ
  lastUpdated : Time
  deriving DecidableEq, Repr

structure SubjectSummaryResult where
  subjectID : String
  evidenceCount : ℕ
  publisherCount : ℕ
  artifactTypes : List (String × ArtifactTypeSummary)
  deriving DecidableEq, Repr

structure SummaryRow where
  evidenceCount : ℕ
  publisherCount : ℕ
  artifactType : Option PropertyValue
  lastUpdated : Option Time
  typeCount : ℕ
  deriving DecidableEq, Repr

/-- The aggregates of one artifact type. -/
def summaryRow (graph : EvidenceGraph)
    (group : Option PropertyValue × List EvidenceRow) : SummaryRow where
  evidenceCount := countDistinct (fun row => some row.evidence) group.2
  publisherCount := countDistinct (fun row => some row.publisher) group.2
  artifactType := group.1
  lastUpdated := (group.2.filterMap fun row =>
    timeProperty graph row.evidence "sealed").max?
  typeCount := group.2.length

def summaryRows (graph : EvidenceGraph) (subjectID : String) :
    List SummaryRow :=
  (groupBy (fun row => property graph row.evidence "artifactType")
    (publishedRows graph subjectID)).map (summaryRow graph)

/-- Whether `ORDER BY` puts the first value before the second: strings come in
their order, and missing values last.  Nothing is said about other values. -/
def comesBefore : Option PropertyValue → Option PropertyValue → Bool
  | some (.text left), some (.text right) => decide (left < right)
  | some _, none => true
  | _, _ => false

/-- The entry of `ArtifactTypes` a row makes. -/
def typeEntry (row : SummaryRow) :
    Outcome (Option (String × ArtifactTypeSummary)) :=
  match row.artifactType with
  | none => .ok none
  | some value => do
    let name ← assertString (some value)
    return some (name, ⟨row.typeCount, row.lastUpdated.getD 0⟩)

/-- What `SubjectSummary` makes of the rows of its query. -/
def subjectSummaryResult (subjectID : String) (rows : List SummaryRow) :
    Outcome SubjectSummaryResult := do
  let entries ← rows.mapM typeEntry
  return {
    subjectID := subjectID
    evidenceCount := (rows.head?.map SummaryRow.evidenceCount).getD 0
    publisherCount := (rows.head?.map SummaryRow.publisherCount).getD 0
    artifactTypes := mapOf entries.reduceOption }

/-- The possible answers of `SubjectSummary`. -/
def SubjectSummary (graph : EvidenceGraph) (subjectID : String)
    (answer : Outcome SubjectSummaryResult) : Prop :=
  ∃ rows : List SummaryRow, rows.Perm (summaryRows graph subjectID) ∧
    rows.Pairwise (fun left right =>
      comesBefore right.artifactType left.artifactType = false) ∧
    subjectSummaryResult subjectID rows = answer

/-! ## `ListSubjects` -/

/-- `{type: e.artifactType, sealed: e.sealed}`. -/
structure CollectedArtifact where
  type : Option PropertyValue
  sealed : Option PropertyValue
  deriving DecidableEq, Repr

structure SubjectRow where
  subjectID : Option PropertyValue
  evidenceCount : ℕ
  publisherCount : ℕ
  artifacts : List CollectedArtifact
  deriving DecidableEq, Repr

def artifactOf (graph : EvidenceGraph) (row : ℕ × Option (ℕ × ℕ)) :
    CollectedArtifact where
  type := row.2.bind fun binding => property graph binding.1 "artifactType"
  sealed := row.2.bind fun binding => property graph binding.1 "sealed"

/-- The aggregates of one subject ID. -/
def subjectRow (graph : EvidenceGraph)
    (group : Option PropertyValue × List (ℕ × Option (ℕ × ℕ))) :
    SubjectRow where
  subjectID := group.1
  evidenceCount := countDistinct (fun row => row.2.map Prod.fst) group.2
  publisherCount := countDistinct (fun row => row.2.map Prod.snd) group.2
  artifacts := collectDistinct (artifactOf graph) group.2

def subjectGroups (graph : EvidenceGraph) : List SubjectRow :=
  (groupBy (fun row => property graph row.1 "id")
    (subjectBindings graph)).map (subjectRow graph)

/-- What an artifact appends to `typeMap`. -/
def typeTime (artifact : CollectedArtifact) : Outcome (Option (String × Time)) :=
  match artifact.type with
  | none => .ok none
  | some value => do
    let name ← assertString (some value)
    return artifact.sealed.map fun sealed => (name, toTime (some sealed))

/-- The summary of one type: how many times there are, and the latest of them
after the zero time. -/
def typeSummary (times : List Time) : ArtifactTypeSummary where
  count := times.length
  lastUpdated := times.foldl max 0

def listedSummary (row : SubjectRow) : Outcome SubjectSummaryResult := do
  let subjectID ← assertString row.subjectID
  let entries ← row.artifacts.mapM typeTime
  let typeMap := groupBy Prod.fst entries.reduceOption
  return {
    subjectID := subjectID
    evidenceCount := row.evidenceCount
    publisherCount := row.publisherCount
    artifactTypes := typeMap.map fun (name, times) =>
      (name, typeSummary (times.map Prod.snd)) }

/-- The possible answers of `ListSubjects`. -/
def ListSubjects (graph : EvidenceGraph)
    (answer : Outcome (List SubjectSummaryResult)) : Prop :=
  ∃ rows : List SubjectRow, rows.Perm (subjectGroups graph) ∧
    rows.mapM listedSummary = answer

/-! ## What is counted -/

/-- The row binds a subject with the ID, evidence that targets it and a
publisher of that evidence. -/
structure Published (graph : EvidenceGraph) (subjectID : String)
    (row : EvidenceRow) : Prop where
  subject : graph.fitsAt (anyOf .subject) row.subject = true
  id : property graph row.subject "id" = some (.text subjectID)
  targets : ⟨row.evidence, .targets, row.subject⟩ ∈ graph.relationships
  evidence : graph.fitsAt (anyOf .evidence) row.evidence = true
  publishedBy :
    ⟨row.evidence, .publishedBy, row.publisher⟩ ∈ graph.relationships
  publisher : graph.fitsAt (anyOf .publisher) row.publisher = true

/-- The evidence nodes that target the subject and have a publisher. -/
def evidenceNodes (graph : EvidenceGraph) (subjectID : String) : Set ℕ :=
  {evidence | ∃ row, Published graph subjectID row ∧ row.evidence = evidence}

/-- The publishers of these nodes. -/
def publisherNodes (graph : EvidenceGraph) (subjectID : String) : Set ℕ :=
  {publisher |
    ∃ row, Published graph subjectID row ∧ row.publisher = publisher}

/-- The evidence nodes have one artifact type. -/
def OneArtifactType (graph : EvidenceGraph) (subjectID : String) : Prop :=
  ∀ left right, Published graph subjectID left →
    Published graph subjectID right →
      property graph left.evidence "artifactType" =
        property graph right.evidence "artifactType"

/-- IDs of subjects and artifact types are strings, as the writer stores
them. -/
structure StringsStored (graph : EvidenceGraph) : Prop where
  subjects : ∀ index, graph.fitsAt (anyOf .subject) index = true →
    ∃ id, property graph index "id" = some (.text id)
  artifactTypes : ∀ index value,
    graph.fitsAt (anyOf .evidence) index = true →
    property graph index "artifactType" = some value →
      ∃ name, value = .text name

instance (graph : EvidenceGraph) : Decidable (StringsStored graph) :=
  decidable_of_iff
    ((∀ index, graph.fitsAt (anyOf .subject) index = true →
        ∃ id, property graph index "id" = some (.text id)) ∧
      ∀ index, graph.fitsAt (anyOf .evidence) index = true →
        ∀ value ∈ property graph index "artifactType",
          ∃ name, value = .text name)
    ⟨fun ⟨hids, htypes⟩ => ⟨hids, fun index value hfits hvalue =>
        htypes index hfits value hvalue⟩,
      fun hstored => ⟨hstored.subjects, fun index hfits value hvalue =>
        hstored.artifactTypes index value hfits hvalue⟩⟩

section Rows

variable {graph : EvidenceGraph} {subjectID : String} {row : EvidenceRow}

theorem fitsAt_subject_iff {index : ℕ} :
    graph.fitsAt (NodeKey.subject subjectID).pattern index = true ↔
      graph.fitsAt (anyOf .subject) index = true ∧
        property graph index "id" = some (.text subjectID) := by
  cases hnode : graph.nodes[index]? with
  | none => simp [Graph.fitsAt, hnode]
  | some node =>
    simp [Graph.fitsAt, hnode, fits_iff, NodeKey.pattern, anyOf, property]

theorem mem_publishedRows :
    row ∈ publishedRows graph subjectID ↔ Published graph subjectID row := by
  obtain ⟨subject, evidence, publisher⟩ := row
  simp only [publishedRows, List.mem_map, Prod.exists, EvidenceRow.mk.injEq,
    Table.matchOutgoing, Table.matchIncoming, Table.matchNode, mem_rows_extend,
    mem_outgoing, mem_incoming, mem_select]
  constructor
  · rintro ⟨_, _, _, _, ⟨⟨⟨_, hsubject⟩, htargets, hevidence⟩, hpublished,
      hpublisher⟩, rfl, rfl, rfl⟩
    obtain ⟨hsubject, hid⟩ := fitsAt_subject_iff.mp hsubject
    exact ⟨hsubject, hid, htargets, hevidence, hpublished, hpublisher⟩
  · intro hrow
    exact ⟨(), _, _, _, ⟨⟨⟨List.mem_singleton_self _,
      fitsAt_subject_iff.mpr ⟨hrow.subject, hrow.id⟩⟩, hrow.targets,
      hrow.evidence⟩, hrow.publishedBy, hrow.publisher⟩, rfl, rfl, rfl⟩

theorem mem_publishedOf {subject evidence publisher : ℕ} :
    (evidence, publisher) ∈ publishedOf graph subject ↔
      (⟨evidence, .targets, subject⟩ ∈ graph.relationships ∧
        graph.fitsAt (anyOf .evidence) evidence = true) ∧
      ⟨evidence, .publishedBy, publisher⟩ ∈ graph.relationships ∧
        graph.fitsAt (anyOf .publisher) publisher = true := by
  simp only [publishedOf, List.mem_flatMap, List.mem_map, Prod.mk.injEq,
    mem_incoming, mem_outgoing]
  constructor
  · rintro ⟨_, hevidence, _, hpublisher, rfl, rfl⟩
    exact ⟨hevidence, hpublisher⟩
  · rintro ⟨hevidence, hpublisher⟩
    exact ⟨evidence, hevidence, publisher, hpublisher, rfl, rfl⟩

theorem mem_subjectBindings {subject evidence publisher : ℕ} :
    (subject, some (evidence, publisher)) ∈ subjectBindings graph ∧
        property graph subject "id" = some (.text subjectID) ↔
      Published graph subjectID ⟨subject, evidence, publisher⟩ := by
  rw [subjectBindings, mem_optionalMatch_some, mem_select, mem_publishedOf]
  constructor
  · rintro ⟨⟨hsubject, ⟨htargets, hevidence⟩, hpublished, hpublisher⟩, hid⟩
    exact ⟨hsubject, hid, htargets, hevidence, hpublished, hpublisher⟩
  · intro hrow
    exact ⟨⟨hrow.subject, ⟨hrow.targets, hrow.evidence⟩, hrow.publishedBy,
      hrow.publisher⟩, hrow.id⟩

section

variable (graph : EvidenceGraph) (subjectID : String)

theorem valuesOf_evidence :
    valuesOf (fun row : EvidenceRow => some row.evidence)
      (publishedRows graph subjectID) = evidenceNodes graph subjectID := by
  ext evidence
  simp [valuesOf, evidenceNodes, mem_publishedRows]

theorem valuesOf_publisher :
    valuesOf (fun row : EvidenceRow => some row.publisher)
      (publishedRows graph subjectID) = publisherNodes graph subjectID := by
  ext publisher
  simp [valuesOf, publisherNodes, mem_publishedRows]

theorem finite_evidenceNodes :
    (evidenceNodes graph subjectID).Finite := by
  rw [← valuesOf_evidence]
  exact finite_valuesOf _ _

end

end Rows

/-! ## Totals of `SubjectSummary` -/

section Totals

variable {graph : EvidenceGraph} {subjectID : String}
  {rows : List SummaryRow} {row : SummaryRow}

/-- A row of the query stands for the rows of one artifact type. -/
theorem mem_summaryRows :
    row ∈ summaryRows graph subjectID ↔
      ∃ first, Published graph subjectID first ∧
        row = summaryRow graph (property graph first.evidence "artifactType",
          (publishedRows graph subjectID).filter fun other =>
            decide (property graph other.evidence "artifactType" =
              property graph first.evidence "artifactType")) := by
  rw [summaryRows, List.mem_map]
  constructor
  · rintro ⟨⟨value, group⟩, hgroup, rfl⟩
    obtain ⟨⟨first, hfirst, rfl⟩, rfl⟩ := mem_groupBy.mp hgroup
    exact ⟨first, mem_publishedRows.mp hfirst, rfl⟩
  · rintro ⟨first, hfirst, rfl⟩
    exact ⟨_, mem_groupBy.mpr ⟨⟨first, mem_publishedRows.mpr hfirst, rfl⟩,
      rfl⟩, rfl⟩

theorem artifactType_of_mem (hstored : StringsStored graph)
    (hrow : row ∈ summaryRows graph subjectID) :
    row.artifactType = none ∨ ∃ name, row.artifactType = some (.text name) := by
  obtain ⟨first, hfirst, rfl⟩ := mem_summaryRows.mp hrow
  change property graph first.evidence "artifactType" = none ∨
    ∃ name, property graph first.evidence "artifactType" = some (.text name)
  cases hvalue : property graph first.evidence "artifactType" with
  | none => exact .inl rfl
  | some value =>
    obtain ⟨name, rfl⟩ := hstored.artifactTypes _ value hfirst.evidence hvalue
    exact .inr ⟨name, rfl⟩

/-- The entry a row makes when its type is a string. -/
def typeEntryOf (row : SummaryRow) : Option (String × ArtifactTypeSummary) :=
  match row.artifactType with
  | some (.text name) => some (name, ⟨row.typeCount, row.lastUpdated.getD 0⟩)
  | _ => none

theorem typeEntry_eq (htype : row.artifactType = none ∨
    ∃ name, row.artifactType = some (.text name)) :
    typeEntry row = .ok (typeEntryOf row) := by
  rcases htype with hnone | ⟨name, hname⟩
  · simp [typeEntry, typeEntryOf, hnone]
  · simp only [typeEntry, typeEntryOf, hname, assertString]
    rfl

theorem subjectSummaryResult_eq (hstored : StringsStored graph)
    (hrows : rows.Perm (summaryRows graph subjectID)) :
    subjectSummaryResult subjectID rows = .ok {
      subjectID := subjectID
      evidenceCount := (rows.head?.map SummaryRow.evidenceCount).getD 0
      publisherCount := (rows.head?.map SummaryRow.publisherCount).getD 0
      artifactTypes := mapOf (rows.map typeEntryOf).reduceOption } := by
  have hentries := mapM_eq_ok fun row hrow =>
    typeEntry_eq (artifactType_of_mem hstored (hrows.mem_iff.mp hrow))
  rw [subjectSummaryResult, hentries]
  rfl

/-- The types in the order of the query. -/
def typeOrder (value : Option PropertyValue) : WithTop String :=
  match value with
  | some (.text name) => name
  | _ => ⊤

theorem comesBefore_eq_false {left right : Option PropertyValue}
    (hleft : left = none ∨ ∃ name, left = some (.text name))
    (hright : right = none ∨ ∃ name, right = some (.text name))
    (hle : typeOrder left ≤ typeOrder right) :
    comesBefore right left = false := by
  rcases hleft with rfl | ⟨first, rfl⟩ <;> rcases hright with rfl | ⟨second, rfl⟩
  · rfl
  · exact absurd hle (not_le.mpr (WithTop.coe_lt_top second))
  · rfl
  · have hnames : first ≤ second := WithTop.coe_le_coe.mp hle
    exact decide_eq_false (not_lt.mpr hnames)

theorem exists_subjectSummary (hstored : StringsStored graph) :
    ∃ answer, SubjectSummary graph subjectID answer := by
  let order := fun left right : SummaryRow =>
    typeOrder left.artifactType ≤ typeOrder right.artifactType
  have hperm := List.perm_insertionSort order (summaryRows graph subjectID)
  refine ⟨_, (summaryRows graph subjectID).insertionSort order, hperm, ?_, rfl⟩
  apply (List.pairwise_insertionSort order _).imp_of_mem
  intro left right hleft hright hle
  exact comesBefore_eq_false
    (artifactType_of_mem hstored (hperm.mem_iff.mp hleft))
    (artifactType_of_mem hstored (hperm.mem_iff.mp hright)) hle

/-- Evidence of one type makes a single row. -/
theorem summaryRows_of_oneArtifactType
    (hone : OneArtifactType graph subjectID) {first : EvidenceRow}
    (hfirst : Published graph subjectID first) :
    summaryRows graph subjectID =
      [summaryRow graph (property graph first.evidence "artifactType",
        publishedRows graph subjectID)] := by
  rw [summaryRows, groupBy_of_agree (mem_publishedRows.mpr hfirst)]
  · rfl
  · intro other hother
    exact hone other first (mem_publishedRows.mp hother) hfirst

/-- The number of distinct evidence nodes of a row. -/
theorem evidenceCount_summaryRow (group : Option PropertyValue ×
    List EvidenceRow) :
    (summaryRow graph group).evidenceCount =
      (valuesOf (fun row : EvidenceRow => some row.evidence) group.2).ncard :=
  countDistinct_eq_ncard _ _

theorem publisherCount_summaryRow (group : Option PropertyValue ×
    List EvidenceRow) :
    (summaryRow graph group).publisherCount =
      (valuesOf (fun row : EvidenceRow => some row.publisher) group.2).ncard :=
  countDistinct_eq_ncard _ _

theorem valuesOf_subset_evidenceNodes (keep : EvidenceRow → Bool) :
    valuesOf (fun row : EvidenceRow => some row.evidence)
      ((publishedRows graph subjectID).filter keep) ⊆
        evidenceNodes graph subjectID := by
  rw [← valuesOf_evidence]
  rintro evidence ⟨row, hrow, hvalue⟩
  exact ⟨row, (List.mem_filter.mp hrow).1, hvalue⟩

/-- If one type has all the evidence, there is no other. -/
theorem oneArtifactType_of_count {first : EvidenceRow}
    (hcount : (summaryRow graph
      (property graph first.evidence "artifactType",
        (publishedRows graph subjectID).filter fun other =>
          decide (property graph other.evidence "artifactType" =
            property graph first.evidence "artifactType"))).evidenceCount =
      (evidenceNodes graph subjectID).ncard) :
    OneArtifactType graph subjectID := by
  rw [evidenceCount_summaryRow] at hcount
  have hall := Set.eq_of_subset_of_ncard_le (valuesOf_subset_evidenceNodes _)
    hcount.ge (finite_evidenceNodes graph subjectID)
  have hsame : ∀ row, Published graph subjectID row →
      property graph row.evidence "artifactType" =
        property graph first.evidence "artifactType" := by
    intro row hrow
    have hmem : row.evidence ∈ evidenceNodes graph subjectID := ⟨row, hrow, rfl⟩
    rw [← hall] at hmem
    obtain ⟨other, hother, hevidence⟩ := hmem
    rw [← Option.some.inj hevidence]
    exact of_decide_eq_true (List.mem_filter.mp hother).2
  intro left right hleft hright
  rw [hsame left hleft, hsame right hright]

/-- The first row has the totals of the subject exactly when there is one
artifact type. -/
theorem head_totals_iff (hrows : rows.Perm (summaryRows graph subjectID)) :
    ((rows.head?.map SummaryRow.evidenceCount).getD 0 =
        (evidenceNodes graph subjectID).ncard ∧
      (rows.head?.map SummaryRow.publisherCount).getD 0 =
        (publisherNodes graph subjectID).ncard) ↔
      OneArtifactType graph subjectID := by
  cases rows with
  | nil =>
    have hnone : ∀ row, ¬ Published graph subjectID row := by
      intro row hrow
      have hmem := hrows.mem_iff.mpr (mem_summaryRows.mpr ⟨row, hrow, rfl⟩)
      exact absurd hmem List.not_mem_nil
    have hevidence : evidenceNodes graph subjectID = ∅ := by
      ext evidence
      simp [evidenceNodes, hnone]
    have hpublisher : publisherNodes graph subjectID = ∅ := by
      ext publisher
      simp [publisherNodes, hnone]
    simp only [List.head?_nil, Option.map_none, Option.getD_none, hevidence,
      hpublisher, Set.ncard_empty, and_self, true_iff]
    intro left right hleft
    exact absurd hleft (hnone left)
  | cons row rest =>
    obtain ⟨first, hfirst, hrow⟩ :=
      mem_summaryRows.mp (hrows.mem_iff.mp List.mem_cons_self)
    simp only [List.head?_cons, Option.map_some, Option.getD_some]
    constructor
    · rintro ⟨hcount, -⟩
      rw [hrow] at hcount
      exact oneArtifactType_of_count hcount
    · intro hone
      rw [summaryRows_of_oneArtifactType hone hfirst] at hrows
      have hsingle := List.perm_singleton.mp hrows
      obtain ⟨rfl, -⟩ := List.cons.inj hsingle
      rw [evidenceCount_summaryRow, publisherCount_summaryRow]
      exact ⟨congrArg Set.ncard (valuesOf_evidence graph subjectID),
        congrArg Set.ncard (valuesOf_publisher graph subjectID)⟩

end Totals

/-! ## Totals of `ListSubjects` -/

section Listed

variable {graph : EvidenceGraph} {subjectID : String} {row : SubjectRow}

/-- The bindings of the subjects with an ID. -/
def bindingsOf (graph : EvidenceGraph) (subjectID : String) :
    List (ℕ × Option (ℕ × ℕ)) :=
  (subjectBindings graph).filter fun row =>
    decide (property graph row.1 "id" = some (.text subjectID))

theorem valuesOf_bindingsOf (pick : ℕ × ℕ → ℕ) :
    valuesOf (fun row => row.2.map pick) (bindingsOf graph subjectID) =
      {node | ∃ row, Published graph subjectID row ∧
        pick (row.evidence, row.publisher) = node} := by
  ext node
  constructor
  · rintro ⟨⟨subject, binding⟩, hrow, hpicked⟩
    obtain ⟨⟨evidence, publisher⟩, rfl, rfl⟩ :=
      Option.map_eq_some_iff.mp hpicked
    obtain ⟨hmem, hid⟩ := List.mem_filter.mp hrow
    exact ⟨_, mem_subjectBindings.mp ⟨hmem, of_decide_eq_true hid⟩, rfl⟩
  · rintro ⟨⟨subject, evidence, publisher⟩, hrow, rfl⟩
    obtain ⟨hmem, hid⟩ := mem_subjectBindings.mpr hrow
    exact ⟨_, List.mem_filter.mpr ⟨hmem, decide_eq_true hid⟩, rfl⟩

/-- The row of a subject ID, if there is such a subject. -/
theorem mem_subjectGroups (hid : row.subjectID = some (.text subjectID)) :
    row ∈ subjectGroups graph ↔
      (∃ subject, graph.fitsAt (anyOf .subject) subject = true ∧
        property graph subject "id" = some (.text subjectID)) ∧
      row = subjectRow graph
        (some (.text subjectID), bindingsOf graph subjectID) := by
  rw [subjectGroups, List.mem_map]
  constructor
  · rintro ⟨⟨value, group⟩, hgroup, rfl⟩
    obtain rfl : value = some (.text subjectID) := hid
    obtain ⟨⟨⟨subject, binding⟩, hmem, hvalue⟩, rfl⟩ := mem_groupBy.mp hgroup
    have hsubject := fst_mem_of_mem_optionalMatch hmem
    rw [mem_select] at hsubject
    exact ⟨⟨subject, hsubject, hvalue⟩, rfl⟩
  · rintro ⟨⟨subject, hsubject, hvalue⟩, rfl⟩
    obtain ⟨binding, hbinding⟩ := exists_mem_optionalMatch (publishedOf graph)
      ((mem_select graph).mpr hsubject)
    exact ⟨_, mem_groupBy.mpr ⟨⟨_, hbinding, hvalue⟩, rfl⟩, rfl⟩

section

variable (hstored : StringsStored graph) (hrow : row ∈ subjectGroups graph)

include hstored hrow

theorem exists_subjectID :
    ∃ subjectID, row.subjectID = some (.text subjectID) := by
  obtain ⟨⟨value, group⟩, hgroup, rfl⟩ := List.mem_map.mp hrow
  obtain ⟨⟨⟨subject, binding⟩, hmem, rfl⟩, -⟩ := mem_groupBy.mp hgroup
  have hsubject := fst_mem_of_mem_optionalMatch hmem
  rw [mem_select] at hsubject
  exact hstored.subjects subject hsubject

/-- What an artifact appends when its type is a string. -/
def typeTimeOf (artifact : CollectedArtifact) : Option (String × Time) :=
  match artifact.type with
  | some (.text name) =>
    artifact.sealed.map fun sealed => (name, toTime (some sealed))
  | _ => none

theorem typeTime_of_mem {artifact : CollectedArtifact}
    (hartifact : artifact ∈ row.artifacts) :
    typeTime artifact = .ok (typeTimeOf artifact) := by
  obtain ⟨⟨value, group⟩, hgroup, rfl⟩ := List.mem_map.mp hrow
  obtain ⟨-, rfl⟩ := mem_groupBy.mp hgroup
  obtain ⟨⟨subject, binding⟩, hmem, rfl⟩ :=
    List.mem_map.mp (List.mem_dedup.mp hartifact)
  have hbinding := (List.mem_filter.mp hmem).1
  cases binding with
  | none => rfl
  | some binding =>
    have hevidence : graph.fitsAt (anyOf .evidence) binding.1 = true := by
      have hfound := (mem_optionalMatch_some.mp hbinding).2
      exact (mem_publishedOf.mp hfound).1.2
    cases hvalue : property graph binding.1 "artifactType" with
    | none => simp [typeTime, typeTimeOf, artifactOf, hvalue]
    | some value =>
      obtain ⟨name, rfl⟩ := hstored.artifactTypes _ value hevidence hvalue
      simp only [typeTime, typeTimeOf, artifactOf, Option.bind_some, hvalue,
        assertString]
      rfl

/-- The summary of a listed subject. -/
def listedResult (graph : EvidenceGraph) (subjectID : String) :
    SubjectSummaryResult where
  subjectID := subjectID
  evidenceCount := (subjectRow graph
    (some (.text subjectID), bindingsOf graph subjectID)).evidenceCount
  publisherCount := (subjectRow graph
    (some (.text subjectID), bindingsOf graph subjectID)).publisherCount
  artifactTypes := (groupBy Prod.fst ((subjectRow graph
    (some (.text subjectID), bindingsOf graph subjectID)).artifacts.map
      typeTimeOf).reduceOption).map fun (name, times) =>
        (name, typeSummary (times.map Prod.snd))

theorem listedSummary_eq (hid : row.subjectID = some (.text subjectID)) :
    listedSummary row = .ok (listedResult graph subjectID) := by
  have htimes := mapM_eq_ok fun artifact hartifact =>
    typeTime_of_mem hstored hrow hartifact
  rw [listedSummary, hid, htimes]
  obtain ⟨-, rfl⟩ := (mem_subjectGroups hid).mp hrow
  rfl

end

/-- The call returns a summary for each subject ID there is. -/
theorem listSubjects_spec (hstored : StringsStored graph)
    {answer : Outcome (List SubjectSummaryResult)}
    (hanswer : ListSubjects graph answer) :
    ∃ subjects, answer = .ok subjects ∧ ∀ entry, entry ∈ subjects ↔
      ∃ subjectID, (∃ subject, graph.fitsAt (anyOf .subject) subject = true ∧
        property graph subject "id" = some (.text subjectID)) ∧
        entry = listedResult graph subjectID := by
  obtain ⟨rows, hrows, rfl⟩ := hanswer
  let result := fun row : SubjectRow =>
    listedResult graph (toStringOrEmpty row.subjectID)
  have hresults : ∀ row ∈ rows, listedSummary row = .ok (result row) := by
    intro row hrow
    obtain ⟨subjectID, hid⟩ := exists_subjectID hstored (hrows.mem_iff.mp hrow)
    have hsummary := listedSummary_eq hstored (hrows.mem_iff.mp hrow) hid
    rw [hsummary]
    simp only [result, hid, toStringOrEmpty]
  refine ⟨rows.map result, mapM_eq_ok hresults, ?_⟩
  intro entry
  rw [List.mem_map]
  constructor
  · rintro ⟨row, hrow, rfl⟩
    have hgroup := hrows.mem_iff.mp hrow
    obtain ⟨subjectID, hid⟩ := exists_subjectID hstored hgroup
    refine ⟨subjectID, ((mem_subjectGroups hid).mp hgroup).1, ?_⟩
    simp only [result, hid, toStringOrEmpty]
  · rintro ⟨subjectID, hsubject, rfl⟩
    refine ⟨subjectRow graph (some (.text subjectID), bindingsOf graph
      subjectID), hrows.mem_iff.mpr ?_, rfl⟩
    exact (mem_subjectGroups rfl).mpr ⟨hsubject, rfl⟩

theorem totals_listedResult (graph : EvidenceGraph) (subjectID : String) :
    (listedResult graph subjectID).evidenceCount =
        (evidenceNodes graph subjectID).ncard ∧
      (listedResult graph subjectID).publisherCount =
        (publisherNodes graph subjectID).ncard := by
  constructor
  · have hnodes : _ = evidenceNodes graph subjectID :=
      valuesOf_bindingsOf Prod.fst
    rw [← hnodes]
    exact countDistinct_eq_ncard _ _
  · have hnodes : _ = publisherNodes graph subjectID :=
      valuesOf_bindingsOf Prod.snd
    rw [← hnodes]
    exact countDistinct_eq_ncard _ _

end Listed

/-- The totals of `SubjectSummary` are the numbers of evidence nodes and of
publishers of the subject exactly when the evidence has one artifact type;
`ListSubjects` always reports these numbers. -/
theorem subject_totals_iff (graph : EvidenceGraph) (subjectID : String)
    (hstored : StringsStored graph) :
    (∃ answer, SubjectSummary graph subjectID answer) ∧
    (∀ answer, SubjectSummary graph subjectID answer →
      ∃ summary, answer = .ok summary ∧
        ((summary.evidenceCount = (evidenceNodes graph subjectID).ncard ∧
          summary.publisherCount = (publisherNodes graph subjectID).ncard) ↔
            OneArtifactType graph subjectID)) ∧
    (∀ answer, ListSubjects graph answer →
      ∃ subjects, answer = .ok subjects ∧
        ((∃ subject, graph.fitsAt (anyOf .subject) subject = true ∧
          property graph subject "id" = some (.text subjectID)) →
            ∃ entry ∈ subjects, entry.subjectID = subjectID) ∧
        ∀ entry ∈ subjects, entry.subjectID = subjectID →
          entry.evidenceCount = (evidenceNodes graph subjectID).ncard ∧
            entry.publisherCount = (publisherNodes graph subjectID).ncard) := by
  refine ⟨exists_subjectSummary hstored, ?_, ?_⟩
  · rintro answer ⟨rows, hrows, -, rfl⟩
    exact ⟨_, subjectSummaryResult_eq hstored hrows, head_totals_iff hrows⟩
  · intro answer hanswer
    obtain ⟨subjects, hsubjects, hentries⟩ := listSubjects_spec hstored hanswer
    refine ⟨subjects, hsubjects, ?_, ?_⟩
    · intro hsubject
      exact ⟨_, (hentries _).mpr ⟨subjectID, hsubject, rfl⟩, rfl⟩
    · intro entry hentry hid
      obtain ⟨other, -, rfl⟩ := (hentries entry).mp hentry
      obtain rfl : other = subjectID := hid
      exact totals_listedResult graph other

/-! ## Two artifact types -/

/-- A subject with evidence of the given types, sealed at the given times. -/
def summarySample (entries : List (String × Time)) : EvidenceGraph :=
  entries.zipIdx.foldl
    (fun graph ((artifactType, time), position) => upsertEvidence
      ⟨Int64.ofNat position, "sha256:abc", "sha256:def", artifactType,
        "sealed", "my-app-v1", "https://idp", "arch", time⟩ graph)
    (upsertPublisher "https://idp" "arch"
      (upsertSubject "my-app-v1" Graph.empty))

/-- Two control catalogs, sealed one after the other. -/
def oneTypeSample : EvidenceGraph :=
  summarySample [("ControlCatalog", 1), ("ControlCatalog", 2)]

/-- A control catalog and a threat catalog. -/
def twoTypesSample : EvidenceGraph :=
  summarySample [("ControlCatalog", 1), ("ThreatCatalog", 2)]

theorem ncard_evidenceNodes (graph : EvidenceGraph) (subjectID : String) :
    (evidenceNodes graph subjectID).ncard = countDistinct
      (fun row => some row.evidence) (publishedRows graph subjectID) := by
  rw [countDistinct_eq_ncard, valuesOf_evidence]

/-- Two catalogs of one type are counted. -/
theorem one_type_counted :
    ∃ summary, SubjectSummary oneTypeSample "my-app-v1" (.ok summary) ∧
      summary.evidenceCount = 2 := by
  obtain ⟨⟨answer, hanswer⟩, htotals, -⟩ :=
    subject_totals_iff oneTypeSample "my-app-v1" (by decide +kernel)
  obtain ⟨summary, rfl, hiff⟩ := htotals answer hanswer
  have hone : OneArtifactType oneTypeSample "my-app-v1" := by
    have hall : ∀ left ∈ publishedRows oneTypeSample "my-app-v1",
        ∀ right ∈ publishedRows oneTypeSample "my-app-v1",
          property oneTypeSample left.evidence "artifactType" =
            property oneTypeSample right.evidence "artifactType" := by
      decide +kernel
    intro left right hleft hright
    exact hall left (mem_publishedRows.mpr hleft) right
      (mem_publishedRows.mpr hright)
  refine ⟨summary, hanswer, ?_⟩
  rw [(hiff.mpr hone).1, ncard_evidenceNodes]
  decide +kernel

/-- A control catalog and a threat catalog are two evidence nodes:
`SubjectSummary` reports one, `ListSubjects` two. -/
theorem two_types_undercounted :
    (evidenceNodes twoTypesSample "my-app-v1").ncard = 2 ∧
    SubjectSummary twoTypesSample "my-app-v1" (.ok ⟨"my-app-v1", 1, 1,
      [("ControlCatalog", ⟨1, 1⟩), ("ThreatCatalog", ⟨1, 2⟩)]⟩) ∧
    (∀ answer, SubjectSummary twoTypesSample "my-app-v1" answer →
      answer.map SubjectSummaryResult.evidenceCount = .ok 1) ∧
    ListSubjects twoTypesSample (.ok [⟨"my-app-v1", 2, 1,
      [("ThreatCatalog", ⟨1, 2⟩), ("ControlCatalog", ⟨1, 1⟩)]⟩]) := by
  refine ⟨?_, ?_, ?_, ?_⟩
  · rw [ncard_evidenceNodes]
    decide +kernel
  · refine ⟨(summaryRows twoTypesSample "my-app-v1").reverse,
      List.reverse_perm _, ?_, ?_⟩
    · decide +kernel
    · decide +kernel
  · rintro answer ⟨rows, hrows, -, rfl⟩
    have hstored : StringsStored twoTypesSample := by decide +kernel
    have hcounts : ∀ row ∈ summaryRows twoTypesSample "my-app-v1",
        row.evidenceCount = 1 := by
      decide +kernel
    have hlength : (summaryRows twoTypesSample "my-app-v1").length = 2 := by
      decide +kernel
    rw [subjectSummaryResult_eq hstored hrows]
    cases rows with
    | nil =>
      rw [← hrows.length_eq] at hlength
      cases hlength
    | cons row rest =>
      have hrow := hcounts row (hrows.mem_iff.mp List.mem_cons_self)
      exact congrArg Except.ok hrow
  · exact ⟨_, List.Perm.refl _, by decide +kernel⟩

end ComplyTime.Graph
