import ComplyTime.Graph.Summaries

/-!
# Artifact types in the two summaries

`SubjectSummary` lets the store count the rows of each artifact type.
`ListSubjects` has the distinct pairs of type and sealing time collected and
counts these.  When each evidence node has one publisher, the two agree on a
subject exactly when its nodes of one type have been sealed at different times.
-/

namespace ComplyTime.Graph

open Cypher RemoteStore

/-! ## Agreement -/

/-- Each evidence node has one publisher. -/
def PublishedOnce (graph : EvidenceGraph) : Prop :=
  ∀ evidence, graph.fitsAt (anyOf .evidence) evidence = true →
    ∃! publisher,
      ⟨evidence, .publishedBy, publisher⟩ ∈ graph.relationships ∧
        graph.fitsAt (anyOf .publisher) publisher = true

/-- The ID is that of one subject. -/
def OneSubject (graph : EvidenceGraph) (subjectID : String) : Prop :=
  ∃! subject, graph.fitsAt (anyOf .subject) subject = true ∧
    property graph subject "id" = some (.text subjectID)

/-- Where evidence has a sealing time, it is a date-time not before the zero
time, as the writer stores it. -/
def TimesStored (graph : EvidenceGraph) : Prop :=
  ∀ index value, graph.fitsAt (anyOf .evidence) index = true →
    property graph index "sealed" = some value →
      ∃ time, 0 ≤ time ∧ value = .localDateTime time

/-- The evidence nodes of a type that target the subject. -/
def typedNodes (graph : EvidenceGraph) (subjectID type : String) : Set ℕ :=
  {evidence | graph.fitsAt (anyOf .evidence) evidence = true ∧
    property graph evidence "artifactType" = some (.text type) ∧
    ∃ subject, graph.fitsAt (anyOf .subject) subject = true ∧
      property graph subject "id" = some (.text subjectID) ∧
      ⟨evidence, .targets, subject⟩ ∈ graph.relationships}

/-- The two results have the same types, with the same count and last update,
and the count is the number of evidence nodes of the type. -/
structure Agrees (graph : EvidenceGraph) (subjectID : String)
    (listed summary : SubjectSummaryResult) : Prop where
  same : ∀ type,
    listed.artifactTypes.lookup type = summary.artifactTypes.lookup type
  types : ∀ type, (summary.artifactTypes.lookup type).isSome = true ↔
    (typedNodes graph subjectID type).Nonempty
  count : ∀ type report, summary.artifactTypes.lookup type = some report →
    report.count = (typedNodes graph subjectID type).ncard

/-- Evidence nodes of one type have been sealed, and at different times. -/
structure SealedApart (graph : EvidenceGraph) (subjectID : String) : Prop where
  sealed : ∀ type, ∀ evidence ∈ typedNodes graph subjectID type,
    (property graph evidence "sealed").isSome = true
  apart : ∀ type, ∀ left ∈ typedNodes graph subjectID type,
    ∀ right ∈ typedNodes graph subjectID type,
      property graph left "sealed" = property graph right "sealed" →
        left = right

/-! ## The rows of a type -/

def typedRows (graph : EvidenceGraph) (subjectID type : String) :
    List EvidenceRow :=
  (publishedRows graph subjectID).filter fun row =>
    decide (property graph row.evidence "artifactType" = some (.text type))

section Typed

variable {graph : EvidenceGraph} {subjectID type : String}
  {row left right : EvidenceRow}

theorem mem_typedRows :
    row ∈ typedRows graph subjectID type ↔ Published graph subjectID row ∧
      property graph row.evidence "artifactType" = some (.text type) := by
  rw [typedRows, List.mem_filter, mem_publishedRows, decide_eq_true_eq]

theorem nodup_publishedRows (graph : EvidenceGraph) (subjectID : String) :
    (publishedRows graph subjectID).Nodup :=
  nodup_path_rows graph EvidenceRow.mk.inj

theorem Published.eq_of_evidence (hpublisher : PublishedOnce graph)
    (hsubject : OneSubject graph subjectID)
    (hleft : Published graph subjectID left)
    (hright : Published graph subjectID right)
    (hsame : left.evidence = right.evidence) : left = right := by
  have hsubjects := hsubject.unique ⟨hleft.subject, hleft.id⟩
    ⟨hright.subject, hright.id⟩
  have hpublished := hright.publishedBy
  rw [← hsame] at hpublished
  have hpublishers := (hpublisher left.evidence hleft.evidence).unique
    ⟨hleft.publishedBy, hleft.publisher⟩ ⟨hpublished, hright.publisher⟩
  cases left
  cases right
  simp_all

theorem mem_typedNodes (hpublisher : PublishedOnce graph) {evidence : ℕ} :
    evidence ∈ typedNodes graph subjectID type ↔
      ∃ row ∈ typedRows graph subjectID type, row.evidence = evidence := by
  constructor
  · rintro ⟨hevidence, htype, subject, hsubject, hid, htargets⟩
    obtain ⟨publisher, ⟨hpublished, hfits⟩, -⟩ := hpublisher evidence hevidence
    exact ⟨⟨subject, evidence, publisher⟩, mem_typedRows.mpr
      ⟨⟨hsubject, hid, htargets, hevidence, hpublished, hfits⟩, htype⟩, rfl⟩
  · rintro ⟨row, hrow, rfl⟩
    obtain ⟨hpublished, htype⟩ := mem_typedRows.mp hrow
    exact ⟨hpublished.evidence, htype, row.subject, hpublished.subject,
      hpublished.id, hpublished.targets⟩

theorem ncard_typedNodes (hpublisher : PublishedOnce graph)
    (hsubject : OneSubject graph subjectID) (type : String) :
    (typedNodes graph subjectID type).ncard =
      (typedRows graph subjectID type).length := by
  have hnodes : typedNodes graph subjectID type =
      valuesOf (fun row : EvidenceRow => some row.evidence)
        (typedRows graph subjectID type) := by
    ext evidence
    rw [mem_typedNodes hpublisher]
    simp [valuesOf]
  have hdistinct : ((typedRows graph subjectID type).map
      EvidenceRow.evidence).Nodup := by
    apply List.Nodup.map_on _ ((nodup_publishedRows graph subjectID).filter _)
    intro left hleft right hright hsame
    exact (mem_typedRows.mp hleft).1.eq_of_evidence hpublisher hsubject
      (mem_typedRows.mp hright).1 hsame
  have hcolumn : (typedRows graph subjectID type).filterMap
      (fun row => some row.evidence) =
        (typedRows graph subjectID type).map EvidenceRow.evidence :=
    congrFun List.filterMap_eq_map _
  rw [hnodes, ← countDistinct_eq_ncard, countDistinct, hcolumn,
    List.dedup_eq_self.mpr hdistinct, List.length_map]

end Typed

/-! ## The types `SubjectSummary` reports -/

section Summary

variable {graph : EvidenceGraph} {subjectID type : String}
  {rows : List SummaryRow} {report : ArtifactTypeSummary}

/-- The times at which the evidence of a type was sealed. -/
def typedTimes (graph : EvidenceGraph) (subjectID type : String) :
    List Time :=
  (typedRows graph subjectID type).filterMap fun row =>
    timeProperty graph row.evidence "sealed"

theorem typeEntryOf_eq_some {row : SummaryRow} :
    typeEntryOf row = some (type, report) ↔
      row.artifactType = some (.text type) ∧
        report = ⟨row.typeCount, row.lastUpdated.getD 0⟩ := by
  unfold typeEntryOf
  split
  · rename_i name hname
    rw [hname]
    simp [eq_comm]
  · rename_i hother
    constructor
    · intro hnone
      cases hnone
    · rintro ⟨htext, -⟩
      exact absurd htext (hother type)

theorem nodup_typeEntries (hrows : rows.Perm (summaryRows graph subjectID)) :
    ((rows.map typeEntryOf).reduceOption.map Prod.fst).Nodup := by
  have htypes : (rows.map SummaryRow.artifactType).Nodup := by
    apply (hrows.map SummaryRow.artifactType).nodup_iff.mpr
    have hkeys := nodup_keys_groupBy
      (fun row : EvidenceRow => property graph row.evidence "artifactType")
      (publishedRows graph subjectID)
    rwa [summaryRows, List.map_map]
  have hnames : (rows.map typeEntryOf).reduceOption.map Prod.fst =
      (rows.map SummaryRow.artifactType).filterMap fun value =>
        (assertString value).toOption := by
    rw [List.reduceOption, List.filterMap_map, List.map_filterMap,
      List.filterMap_map]
    apply List.filterMap_congr
    intro row _
    simp only [Function.comp_apply, id_eq, typeEntryOf]
    split
    · rename_i name hname
      rw [hname]
      rfl
    · rename_i hother
      rw [assertString]
      · rfl
      · exact hother
  rw [hnames]
  apply List.Nodup.filterMap _ htypes
  intro left right name hleft hright
  rw [eq_text_of_assertString hleft, eq_text_of_assertString hright]

/-- The entry of a type holds the number of its rows and the latest of their
times. -/
theorem lookup_summary_eq_some
    (hrows : rows.Perm (summaryRows graph subjectID)) :
    (mapOf (rows.map typeEntryOf).reduceOption).lookup type = some report ↔
      typedRows graph subjectID type ≠ [] ∧
        report = ⟨(typedRows graph subjectID type).length,
          (typedTimes graph subjectID type).max?.getD 0⟩ := by
  rw [mapOf_of_nodup (nodup_typeEntries hrows),
    lookup_eq_some_iff_mem (nodup_typeEntries hrows),
    List.reduceOption_mem_iff, List.mem_map]
  constructor
  · rintro ⟨row, hrow, hentry⟩
    obtain ⟨htype, rfl⟩ := typeEntryOf_eq_some.mp hentry
    obtain ⟨first, hfirst, rfl⟩ := mem_summaryRows.mp (hrows.mem_iff.mp hrow)
    have hvalue : property graph first.evidence "artifactType" =
        some (.text type) := htype
    constructor
    · exact List.ne_nil_of_mem (mem_typedRows.mpr ⟨hfirst, hvalue⟩)
    · simp only [hvalue]
      rfl
  · rintro ⟨hne, rfl⟩
    obtain ⟨first, hfirst⟩ := List.exists_mem_of_ne_nil _ hne
    obtain ⟨hpublished, hvalue⟩ := mem_typedRows.mp hfirst
    refine ⟨_, hrows.mem_iff.mpr
      (mem_summaryRows.mpr ⟨first, hpublished, rfl⟩), ?_⟩
    rw [typeEntryOf_eq_some]
    refine ⟨hvalue, ?_⟩
    simp only [hvalue]
    rfl

end Summary

/-! ## The types `ListSubjects` reports -/

section Listed

variable {graph : EvidenceGraph} {subjectID type : String}
  {report : ArtifactTypeSummary}

/-- The sealing times collected for a type. -/
def valuesOfType (artifacts : List CollectedArtifact) (type : String) :
    List PropertyValue :=
  (artifacts.filter fun artifact =>
    decide (artifact.type = some (.text type))).filterMap
      CollectedArtifact.sealed

theorem times_of_typeMap (artifacts : List CollectedArtifact)
    (type : String) :
    (((artifacts.map typeTimeOf).reduceOption.filter fun entry =>
      decide (entry.1 = type)).map Prod.snd) =
        (valuesOfType artifacts type).map fun value => toTime (some value) := by
  induction artifacts with
  | nil => rfl
  | cons artifact artifacts ih =>
    obtain ⟨value, sealed⟩ := artifact
    have hskip : typeTimeOf ⟨value, sealed⟩ = none →
        (value = some (.text type) → sealed = none) := by
      rintro hnone rfl
      exact Option.map_eq_none_iff.mp hnone
    cases htime : typeTimeOf ⟨value, sealed⟩ with
    | none =>
      rw [List.map_cons, htime, List.reduceOption_cons_of_none, ih]
      by_cases htype : value = some (.text type)
      · simp [valuesOfType, htype, hskip htime htype]
      · simp [valuesOfType, htype]
    | some entry =>
      obtain ⟨name, time⟩ := entry
      obtain ⟨found, rfl, rfl, rfl⟩ : ∃ found, value = some (.text name) ∧
          sealed = some found ∧ time = toTime (some found) := by
        unfold typeTimeOf at htime
        split at htime
        · rename_i other hother
          obtain ⟨found, rfl, hentry⟩ := Option.map_eq_some_iff.mp htime
          obtain ⟨rfl, rfl⟩ := Prod.mk.inj hentry
          exact ⟨found, hother, rfl, rfl⟩
        · cases htime
      rw [List.map_cons, htime, List.reduceOption_cons_of_some]
      by_cases hname : name = type
      · simp [valuesOfType, hname] at ih ⊢
        exact ih
      · simp [valuesOfType, hname] at ih ⊢
        exact ih

/-- The values collected for a type and a subject. -/
def listedValues (graph : EvidenceGraph) (subjectID type : String) :
    List PropertyValue :=
  valuesOfType (collectDistinct (artifactOf graph) (bindingsOf graph subjectID))
    type

theorem mem_listedValues {value : PropertyValue} :
    value ∈ listedValues graph subjectID type ↔
      ∃ row ∈ typedRows graph subjectID type,
        property graph row.evidence "sealed" = some value := by
  simp only [listedValues, valuesOfType, collectDistinct, List.mem_filterMap,
    List.mem_filter, List.mem_dedup, List.mem_map, decide_eq_true_eq]
  constructor
  · rintro ⟨_, ⟨⟨⟨subject, binding⟩, hbinding, rfl⟩, htype⟩, hvalue⟩
    obtain ⟨⟨evidence, publisher⟩, rfl, hvalue⟩ :=
      Option.bind_eq_some_iff.mp hvalue
    obtain ⟨hmem, hid⟩ := List.mem_filter.mp hbinding
    have hrow := mem_subjectBindings.mp ⟨hmem, of_decide_eq_true hid⟩
    exact ⟨_, mem_typedRows.mpr ⟨hrow, htype⟩, hvalue⟩
  · rintro ⟨⟨subject, evidence, publisher⟩, hrow, hvalue⟩
    obtain ⟨hrow, htype⟩ := mem_typedRows.mp hrow
    obtain ⟨hmem, hid⟩ := mem_subjectBindings.mpr hrow
    exact ⟨_, ⟨⟨(subject, some (evidence, publisher)), List.mem_filter.mpr
      ⟨hmem, decide_eq_true hid⟩, rfl⟩, htype⟩, hvalue⟩

theorem nodup_listedValues (graph : EvidenceGraph) (subjectID type : String) :
    (listedValues graph subjectID type).Nodup := by
  have hartifacts : ((collectDistinct (artifactOf graph)
      (bindingsOf graph subjectID)).filter fun artifact =>
        decide (artifact.type = some (.text type))).Nodup :=
    (List.nodup_dedup _).filter _
  have hcolumn : listedValues graph subjectID type =
      (((collectDistinct (artifactOf graph)
        (bindingsOf graph subjectID)).filter fun artifact =>
          decide (artifact.type = some (.text type))).map
            CollectedArtifact.sealed).reduceOption := by
    rw [listedValues, valuesOfType, List.reduceOption, List.filterMap_map]
    rfl
  rw [hcolumn]
  apply nodup_reduceOption
  apply hartifacts.map_on
  intro left hleft right hright hsealed
  have hleftType := of_decide_eq_true (List.mem_filter.mp hleft).2
  have hrightType := of_decide_eq_true (List.mem_filter.mp hright).2
  cases left
  cases right
  simp_all

theorem length_listedValues (graph : EvidenceGraph)
    (subjectID type : String) :
    (listedValues graph subjectID type).length =
      ((typedRows graph subjectID type).map fun row =>
        property graph row.evidence "sealed").reduceOption.dedup.length := by
  apply List.Perm.length_eq
  apply (List.perm_ext_iff_of_nodup (nodup_listedValues graph subjectID type)
    (List.nodup_dedup _)).mpr
  intro value
  rw [mem_listedValues, List.mem_dedup, List.reduceOption_mem_iff, List.mem_map]

/-- The entry of a type holds the number of its collected values and the latest
of them. -/
theorem lookup_listed_eq_some :
    (listedResult graph subjectID).artifactTypes.lookup type = some report ↔
      listedValues graph subjectID type ≠ [] ∧
        report = typeSummary ((listedValues graph subjectID type).map
          fun value => toTime (some value)) := by
  have hkeys : ((listedResult graph subjectID).artifactTypes.map
      Prod.fst).Nodup := by
    rw [listedResult, List.map_map]
    exact nodup_keys_groupBy _ _
  have htimes := times_of_typeMap (subjectRow graph
    (some (.text subjectID), bindingsOf graph subjectID)).artifacts type
  have hne : (∃ entry ∈ ((subjectRow graph (some (.text subjectID),
      bindingsOf graph subjectID)).artifacts.map typeTimeOf).reduceOption,
        entry.1 = type) ↔ listedValues graph subjectID type ≠ [] := by
    have hnil := congrArg (· = []) htimes
    simp only [List.map_eq_nil_iff, List.filter_eq_nil_iff,
      decide_eq_true_eq] at hnil
    rw [ne_eq, listedValues]
    change _ ↔ ¬ valuesOfType (subjectRow graph (some (.text subjectID),
      bindingsOf graph subjectID)).artifacts type = []
    rw [← hnil]
    simp
  rw [lookup_eq_some_iff_mem hkeys, listedResult, List.mem_map]
  constructor
  · rintro ⟨⟨name, group⟩, hgroup, hentry⟩
    obtain ⟨rfl, rfl⟩ := Prod.mk.inj hentry
    obtain ⟨hexists, rfl⟩ := mem_groupBy.mp hgroup
    exact ⟨hne.mp hexists, congrArg typeSummary htimes⟩
  · rintro ⟨hvalues, rfl⟩
    refine ⟨_, mem_groupBy.mpr ⟨hne.mpr hvalues, rfl⟩, ?_⟩
    exact congrArg (Prod.mk type ∘ typeSummary) htimes

end Listed

/-! ## When the summaries agree -/

section Agreement

variable {graph : EvidenceGraph} {subjectID type : String}

section

variable (htimes : TimesStored graph)

include htimes

theorem TimesStored.of_mem_typedRows {row : EvidenceRow}
    (hrow : row ∈ typedRows graph subjectID type) {value : PropertyValue}
    (hvalue : property graph row.evidence "sealed" = some value) :
    ∃ time, 0 ≤ time ∧ value = .localDateTime time :=
  htimes _ value (mem_typedRows.mp hrow).1.evidence hvalue

theorem mem_map_listedValues {time : Time} :
    time ∈ (listedValues graph subjectID type).map
        (fun value => toTime (some value)) ↔
      time ∈ typedTimes graph subjectID type := by
  rw [typedTimes, List.mem_map, List.mem_filterMap]
  constructor
  · rintro ⟨value, hvalue, rfl⟩
    obtain ⟨row, hrow, hsealed⟩ := mem_listedValues.mp hvalue
    obtain ⟨time, -, rfl⟩ := htimes.of_mem_typedRows hrow hsealed
    refine ⟨row, hrow, ?_⟩
    rw [timeProperty, hsealed]
    rfl
  · rintro ⟨row, hrow, htime⟩
    cases hsealed : property graph row.evidence "sealed" with
    | none => simp [timeProperty, hsealed] at htime
    | some value =>
      obtain ⟨found, -, rfl⟩ := htimes.of_mem_typedRows hrow hsealed
      simp only [timeProperty, hsealed, Option.some.injEq] at htime
      exact ⟨_, mem_listedValues.mpr ⟨row, hrow, hsealed⟩, htime⟩

theorem typedTimes_nonneg {time : Time}
    (htime : time ∈ typedTimes graph subjectID type) : 0 ≤ time := by
  obtain ⟨value, hvalue, rfl⟩ :=
    List.mem_map.mp ((mem_map_listedValues htimes).mpr htime)
  obtain ⟨row, hrow, hsealed⟩ := mem_listedValues.mp hvalue
  obtain ⟨found, hle, rfl⟩ := htimes.of_mem_typedRows hrow hsealed
  exact hle

theorem lastUpdated_listed :
    (typeSummary ((listedValues graph subjectID type).map
      fun value => toTime (some value))).lastUpdated =
        (typedTimes graph subjectID type).max?.getD 0 := by
  have hnonneg : 0 ≤ (typedTimes graph subjectID type).max?.getD 0 := by
    cases hmax : (typedTimes graph subjectID type).max? with
    | none => exact le_refl _
    | some time => exact typedTimes_nonneg htimes (List.max?_mem hmax)
  calc (typeSummary ((listedValues graph subjectID type).map
        fun value => toTime (some value))).lastUpdated
      = max 0 (((listedValues graph subjectID type).map
          fun value => toTime (some value)).max?.getD 0) := List.foldl_max
    _ = max 0 ((typedTimes graph subjectID type).max?.getD 0) := by
        rw [max?_congr_mem fun _ => mem_map_listedValues htimes]
    _ = (typedTimes graph subjectID type).max?.getD 0 := max_eq_right hnonneg

end

/-- As many values are collected as there are rows when every row has one of
its own. -/
theorem length_listedValues_eq_iff (graph : EvidenceGraph)
    (subjectID type : String) :
    (listedValues graph subjectID type).length =
        (typedRows graph subjectID type).length ↔
      (∀ row ∈ typedRows graph subjectID type,
        (property graph row.evidence "sealed").isSome = true) ∧
      ∀ left ∈ typedRows graph subjectID type,
        ∀ right ∈ typedRows graph subjectID type,
          property graph left.evidence "sealed" =
            property graph right.evidence "sealed" → left = right := by
  have hrows : (typedRows graph subjectID type).Nodup :=
    (nodup_publishedRows graph subjectID).filter _
  have hcolumn : (typedRows graph subjectID type).length =
      ((typedRows graph subjectID type).map fun row =>
        property graph row.evidence "sealed").length :=
    (List.length_map _).symm
  rw [length_listedValues, hcolumn, length_dedup_reduceOption_eq_iff,
    List.nodup_map_iff_inj_on hrows]
  simp

theorem sealedApart_iff (hpublisher : PublishedOnce graph)
    (hsubject : OneSubject graph subjectID) :
    SealedApart graph subjectID ↔ ∀ type,
      (listedValues graph subjectID type).length =
        (typedRows graph subjectID type).length := by
  simp only [length_listedValues_eq_iff]
  constructor
  · intro happart type
    refine ⟨?_, ?_⟩
    · intro row hrow
      exact happart.sealed type _
        ((mem_typedNodes hpublisher).mpr ⟨row, hrow, rfl⟩)
    · intro left hleft right hright hsame
      apply (mem_typedRows.mp hleft).1.eq_of_evidence hpublisher hsubject
        (mem_typedRows.mp hright).1
      exact happart.apart type _
        ((mem_typedNodes hpublisher).mpr ⟨left, hleft, rfl⟩) _
        ((mem_typedNodes hpublisher).mpr ⟨right, hright, rfl⟩) hsame
  · intro hall
    constructor
    · intro type evidence hevidence
      obtain ⟨row, hrow, rfl⟩ := (mem_typedNodes hpublisher).mp hevidence
      exact (hall type).1 row hrow
    · intro type left hleft right hright hsame
      obtain ⟨first, hfirst, rfl⟩ := (mem_typedNodes hpublisher).mp hleft
      obtain ⟨second, hsecond, rfl⟩ := (mem_typedNodes hpublisher).mp hright
      rw [(hall type).2 first hfirst second hsecond hsame]

/-- The result of `SubjectSummary` and that of `ListSubjects` agree on a
subject exactly when its evidence of one type has been sealed at different
times. -/
theorem agrees_iff {rows : List SummaryRow} {summary : SubjectSummaryResult}
    (htimes : TimesStored graph) (hpublisher : PublishedOnce graph)
    (hsubject : OneSubject graph subjectID)
    (hrows : rows.Perm (summaryRows graph subjectID))
    (hsummary : summary.artifactTypes =
      mapOf (rows.map typeEntryOf).reduceOption) :
    Agrees graph subjectID (listedResult graph subjectID) summary ↔
      SealedApart graph subjectID := by
  have hlookup : ∀ type report, summary.artifactTypes.lookup type =
      some report ↔ typedRows graph subjectID type ≠ [] ∧
        report = ⟨(typedRows graph subjectID type).length,
          (typedTimes graph subjectID type).max?.getD 0⟩ := by
    intro type report
    rw [hsummary]
    exact lookup_summary_eq_some hrows
  rw [sealedApart_iff hpublisher hsubject]
  constructor
  · intro hagrees type
    by_cases hnone : typedRows graph subjectID type = []
    · rw [length_listedValues, hnone]
      rfl
    · have hfound := (hlookup type _).mpr ⟨hnone, rfl⟩
      rw [← hagrees.same type] at hfound
      obtain ⟨-, hreport⟩ := lookup_listed_eq_some.mp hfound
      have hcount := congrArg ArtifactTypeSummary.count hreport
      rw [typeSummary, List.length_map] at hcount
      exact hcount.symm
  · intro hlengths
    refine ⟨?_, ?_, ?_⟩
    · intro type
      apply Option.ext
      intro report
      have hempty : listedValues graph subjectID type ≠ [] ↔
          typedRows graph subjectID type ≠ [] := by
        rw [← List.length_pos_iff, ← List.length_pos_iff, hlengths type]
      have hreport : typeSummary ((listedValues graph subjectID type).map
          fun value => toTime (some value)) =
            ⟨(typedRows graph subjectID type).length,
              (typedTimes graph subjectID type).max?.getD 0⟩ := by
        rw [← lastUpdated_listed htimes, ← hlengths type]
        simp [typeSummary]
      rw [lookup_listed_eq_some, hlookup, hempty, hreport]
    · intro type
      rw [Option.isSome_iff_exists]
      constructor
      · rintro ⟨report, hreport⟩
        obtain ⟨row, hrow⟩ := List.exists_mem_of_ne_nil _
          ((hlookup type report).mp hreport).1
        exact ⟨row.evidence, (mem_typedNodes hpublisher).mpr ⟨row, hrow, rfl⟩⟩
      · rintro ⟨evidence, hevidence⟩
        obtain ⟨row, hrow, -⟩ := (mem_typedNodes hpublisher).mp hevidence
        exact ⟨_, (hlookup type _).mpr ⟨List.ne_nil_of_mem hrow, rfl⟩⟩
    · intro type report hreport
      obtain ⟨-, rfl⟩ := (hlookup type report).mp hreport
      exact (ncard_typedNodes hpublisher hsubject type).symm

end Agreement

/-- Where each evidence node has one publisher, `ListSubjects` and
`SubjectSummary` answer, and all their answers report the same artifact types
of a subject, with the same counts and last updates, exactly when evidence of
one type has been sealed at different times. -/
theorem type_summaries_agree_iff (graph : EvidenceGraph) (subjectID : String)
    (hstored : StringsStored graph) (htimes : TimesStored graph)
    (hpublisher : PublishedOnce graph) (hsubject : OneSubject graph subjectID) :
    (∃ answer, SubjectSummary graph subjectID answer) ∧
    (∃ listed, ListSubjects graph listed) ∧
    ∀ answer listed, SubjectSummary graph subjectID answer →
      ListSubjects graph listed →
      ∃ summary subjects, answer = .ok summary ∧ listed = .ok subjects ∧
        (∃ entry ∈ subjects, entry.subjectID = subjectID) ∧
        ∀ entry ∈ subjects, entry.subjectID = subjectID →
          (Agrees graph subjectID entry summary ↔
            SealedApart graph subjectID) := by
  refine ⟨exists_subjectSummary hstored, ⟨_, _, .refl _, rfl⟩, ?_⟩
  rintro answer listed ⟨rows, hrows, -, rfl⟩ hlisted
  obtain ⟨subjects, rfl, hentries⟩ := listSubjects_spec hstored hlisted
  refine ⟨_, subjects, subjectSummaryResult_eq hstored hrows, rfl, ?_, ?_⟩
  · exact ⟨_, (hentries _).mpr ⟨subjectID, hsubject.exists, rfl⟩, rfl⟩
  · intro entry hentry hid
    obtain ⟨other, -, rfl⟩ := (hentries entry).mp hentry
    obtain rfl : other = subjectID := hid
    exact agrees_iff htimes hpublisher hsubject hrows rfl

/-! ## Evidence sealed at one time -/

section Checking

variable {graph : EvidenceGraph} {subjectID : String}

theorem length_eq_one_iff_existsUnique {α : Type} {list : List α}
    (hlist : list.Nodup) : list.length = 1 ↔ ∃! value, value ∈ list := by
  rw [List.length_eq_one_iff]
  constructor
  · rintro ⟨value, rfl⟩
    exact ⟨value, List.mem_singleton_self _, fun _ => List.mem_singleton.mp⟩
  · rintro ⟨value, hvalue, hunique⟩
    refine ⟨value, List.perm_singleton.mp ?_⟩
    apply (List.perm_ext_iff_of_nodup hlist (List.nodup_singleton _)).mpr
    intro other
    rw [List.mem_singleton]
    constructor
    · exact hunique other
    · rintro rfl
      exact hvalue

instance (graph : EvidenceGraph) : Decidable (PublishedOnce graph) :=
  decidable_of_iff
    (∀ evidence, graph.fitsAt (anyOf .evidence) evidence = true →
      (graph.outgoing evidence .publishedBy (anyOf .publisher)).length = 1)
    (by
      simp only [length_eq_one_iff_existsUnique nodup_outgoing, mem_outgoing]
      rfl)

instance (graph : EvidenceGraph) (subjectID : String) :
    Decidable (OneSubject graph subjectID) :=
  decidable_of_iff
    ((graph.select (NodeKey.subject subjectID).pattern).length = 1) (by
    rw [length_eq_one_iff_existsUnique (nodup_select _ _)]
    simp only [mem_select, fitsAt_subject_iff]
    rfl)

instance : (value : PropertyValue) →
    Decidable (∃ time, 0 ≤ time ∧ value = .localDateTime time)
  | .localDateTime time => decidable_of_iff (0 ≤ time) (by simp)
  | .text _ | .texts _ | .flag _ | .integer _ => .isFalse (by simp)

instance (graph : EvidenceGraph) : Decidable (TimesStored graph) :=
  decidable_of_iff
    (∀ index, graph.fitsAt (anyOf .evidence) index = true →
      ∀ value ∈ property graph index "sealed",
        ∃ time, 0 ≤ time ∧ value = .localDateTime time)
    ⟨fun htimes index value hfits => htimes index hfits value,
      fun htimes index hfits value => htimes index value hfits⟩

end Checking

/-- Two control catalogs sealed one after the other are reported alike. -/
theorem sealed_apart_agree :
    ∃ summary subjects,
      SubjectSummary oneTypeSample "my-app-v1" (.ok summary) ∧
      ListSubjects oneTypeSample (.ok subjects) ∧
      ∃ entry ∈ subjects, Agrees oneTypeSample "my-app-v1" entry summary := by
  have hpublisher : PublishedOnce oneTypeSample := by decide +kernel
  obtain ⟨⟨answer, hanswer⟩, ⟨listed, hlisted⟩, hanswers⟩ :=
    type_summaries_agree_iff oneTypeSample "my-app-v1" (by decide +kernel)
      (by decide +kernel) hpublisher (by decide +kernel)
  obtain ⟨summary, subjects, rfl, rfl, ⟨entry, hentry, hid⟩, hiff⟩ :=
    hanswers answer listed hanswer hlisted
  have hsealed : ∀ row ∈ publishedRows oneTypeSample "my-app-v1",
      (property oneTypeSample row.evidence "sealed").isSome = true := by
    decide +kernel
  have hdistinct : ∀ left ∈ publishedRows oneTypeSample "my-app-v1",
      ∀ right ∈ publishedRows oneTypeSample "my-app-v1",
        property oneTypeSample left.evidence "sealed" =
          property oneTypeSample right.evidence "sealed" →
            left.evidence = right.evidence := by
    decide +kernel
  have hrow : ∀ type, ∀ evidence ∈ typedNodes oneTypeSample "my-app-v1" type,
      ∃ row ∈ publishedRows oneTypeSample "my-app-v1",
        row.evidence = evidence := by
    intro type evidence hevidence
    obtain ⟨row, hrow, rfl⟩ := (mem_typedNodes hpublisher).mp hevidence
    exact ⟨row, mem_publishedRows.mpr (mem_typedRows.mp hrow).1, rfl⟩
  refine ⟨summary, subjects, hanswer, hlisted, entry, hentry,
    (hiff entry hentry hid).mpr ⟨?_, ?_⟩⟩
  · intro type evidence hevidence
    obtain ⟨row, hrow, rfl⟩ := hrow type evidence hevidence
    exact hsealed row hrow
  · intro type left hleft right hright
    obtain ⟨first, hfirst, rfl⟩ := hrow type left hleft
    obtain ⟨second, hsecond, rfl⟩ := hrow type right hright
    exact hdistinct first hfirst second hsecond

/-- Two control catalogs sealed at the same time. -/
def sealedTogetherSample : EvidenceGraph :=
  summarySample [("ControlCatalog", 1), ("ControlCatalog", 1)]

/-- Sealed at the same time, two catalogs are counted as two by
`SubjectSummary` and as one by `ListSubjects`. -/
theorem sealed_together_differ :
    PublishedOnce sealedTogetherSample ∧
    OneSubject sealedTogetherSample "my-app-v1" ∧
    (∀ answer, SubjectSummary sealedTogetherSample "my-app-v1" answer →
      answer = .ok ⟨"my-app-v1", 2, 1, [("ControlCatalog", ⟨2, 1⟩)]⟩) ∧
    ∀ answer, ListSubjects sealedTogetherSample answer →
      answer = .ok [⟨"my-app-v1", 2, 1, [("ControlCatalog", ⟨1, 1⟩)]⟩] := by
  refine ⟨by decide +kernel, by decide +kernel, ?_, ?_⟩
  · rintro answer ⟨rows, hrows, -, rfl⟩
    have hsingle : summaryRows sealedTogetherSample "my-app-v1" =
        [⟨2, 1, some (.text "ControlCatalog"), some 1, 2⟩] := by
      decide +kernel
    rw [hsingle, List.perm_singleton] at hrows
    rw [hrows]
    rfl
  · rintro answer ⟨rows, hrows, rfl⟩
    have hsingle : subjectGroups sealedTogetherSample =
        [⟨some (.text "my-app-v1"), 2, 1,
          [⟨some (.text "ControlCatalog"), some (.localDateTime 1)⟩]⟩] := by
      decide +kernel
    rw [hsingle, List.perm_singleton] at hrows
    rw [hrows]
    rfl

end ComplyTime.Graph
