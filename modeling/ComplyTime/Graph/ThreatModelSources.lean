import ComplyTime.Graph.ThreatModelEdges

/-!
# Sources in the threat model

`processArtifact` writes the entities an artifact lists and the stubs of what
it refers to through the same upsert, so evidence defines both.  `ThreatModel`
shows whatever evidence of the subject defines and names that evidence as the
source: an entity no artifact lists appears, and the source of one that is
listed may be an entry that only refers to it.
-/

namespace ComplyTime.Graph

open Cypher Keyed Merging RemoteStore

/-- The labels of the entities that are shown with a source. -/
def sourcedLabels : List EntityLabel := [.capability, .threat, .control]

/-- The entities of a result with their sources. -/
def ThreatModelResult.sources (result : ThreatModelResult) :
    List (EntityLabel × String × EvidenceSource) :=
  result.capabilities.map
      (fun shown => (.capability, shown.id, shown.source)) ++
    (result.threats.map (fun shown => (.threat, shown.id, shown.source)) ++
      result.controls.map fun shown => (.control, shown.id, shown.source))

variable {label : EntityLabel} {id : String} {row : SourceRow}

section Entries

variable {loader : Loader}

/-- The entity is among those of the artifact. -/
def Sealing.ListsEntity (sealing : Sealing loader) (label : EntityLabel)
    (id : String) : Prop :=
  ∃ entity ∈ sealing.parsed.entities, entity.label = label ∧ entity.id = id

/-- The artifact lists the entity or refers to it. -/
def Sealing.NamesEntity (sealing : Sealing loader) (label : EntityLabel)
    (id : String) : Prop :=
  sealing.ListsEntity label id ∨ ∃ edge ∈ sealing.parsed.edges,
    (edge.fromLabel = label ∧ edge.fromID = id) ∨
      (edge.toLabel = label ∧ edge.toID = id)

/-- The source is an entry of the subject whose artifact lists the entity. -/
def ListedBy (sealings : List (Sealing loader)) (subjectID : String)
    (label : EntityLabel) (id : String) (source : EvidenceSource) : Prop :=
  ∃ sealing ∈ sealings, sealing.data.subjectID = subjectID ∧
    sealing.ListsEntity label id ∧
    sealing.data.logIndex = source.logIndex ∧
    sealing.data.contentDigest = source.digest ∧
    sealing.publisher = source.publisher

/-- Every entity of every answer has such a source. -/
def AlwaysListed (sealings : List (Sealing loader)) (subjectID : String) :
    Prop :=
  ∀ result, ThreatModel (sealedGraph sealings) subjectID (.ok result) →
    ∀ label id source, (label, id, source) ∈ result.sources →
      ListedBy sealings subjectID label id source

/-- The event is the last one with its log index. -/
def Describes (sealings : List (Sealing loader)) (sealing : Sealing loader) :
    Prop :=
  ∃ earlier later, sealings = earlier ++ sealing :: later ∧
    ∀ other ∈ later, other.data.logIndex ≠ sealing.data.logIndex

/-- Where a row takes its parts from: events with one log index, of which one
is of the subject, one names the entity, one has the publisher, and the last
one gives the digest and the time. -/
structure Composed (sealings : List (Sealing loader)) (subjectID : String)
    (label : EntityLabel) (id : String) (source : EvidenceSource) : Prop where
  targets : ∃ sealing ∈ sealings, sealing.data.logIndex = source.logIndex ∧
    sealing.data.subjectID = subjectID
  names : ∃ sealing ∈ sealings, sealing.data.logIndex = source.logIndex ∧
    sealing.NamesEntity label id
  published : ∃ sealing ∈ sealings, sealing.data.logIndex = source.logIndex ∧
    sealing.publisher = source.publisher
  described : ∃ sealing, Describes sealings sealing ∧
    sealing.data.logIndex = source.logIndex ∧
    sealing.data.contentDigest = source.digest ∧
    sealing.sealed = source.sealed

/-- Under each log index, the subject's entries list what is named there. -/
def Traceable (sealings : List (Sealing loader)) (subjectID : String) : Prop :=
  ∀ label ∈ sourcedLabels, ∀ id source,
    Composed sealings subjectID label id source →
      ListedBy sealings subjectID label id source

/-- Events with one log index are deliveries of one entry. -/
def OneEntryPerIndex (sealings : List (Sealing loader)) : Prop :=
  ∀ left ∈ sealings, ∀ right ∈ sealings,
    left.data.logIndex = right.data.logIndex →
      left.data = right.data ∧ left.receipt.content = right.receipt.content

/-! ## The evidence of a log index -/

variable {sealing : Sealing loader} {sealings : List (Sealing loader)}
  {logIndex : Int64}

theorem Sealing.names_of_upsert {record : EntityRecord}
    (hupsert : Upsert.entity record ∈ sealing.upserts) :
    record.evidenceLogIndex = sealing.data.logIndex ∧
      sealing.NamesEntity record.label record.id := by
  have hparsed : Upsert.entity record ∈
      sealing.parsed.upserts sealing.data.logIndex := by
    simpa [sealing.upserts_eq] using hupsert
  rcases mem_upserts.mp hparsed with ⟨entity, hentity, heq⟩ |
    ⟨edge, hedge, hstub⟩
  · obtain rfl := Upsert.entity.inj heq
    exact ⟨evidenceLogIndex_of_parseArtifact sealing.parses hentity,
      .inl ⟨record, hentity, rfl, rfl⟩⟩
  · simp only [edgeUpserts, List.mem_cons, Upsert.entity.injEq, reduceCtorEq,
      List.not_mem_nil, or_false] at hstub
    rcases hstub with rfl | rfl
    · exact ⟨rfl, .inr ⟨edge, hedge, .inl ⟨rfl, rfl⟩⟩⟩
    · exact ⟨rfl, .inr ⟨edge, hedge, .inr ⟨rfl, rfl⟩⟩⟩

theorem Sealing.NamesEntity.defines_mem
    (hnames : sealing.NamesEntity label id) (hsealing : sealing ∈ sealings) :
    Write.link (.evidence sealing.data.logIndex) .defines (.entity label id) ∈
      sealedWrites sealings := by
  rcases hnames with ⟨entity, hentity, rfl, rfl⟩ |
    ⟨edge, hedge, ⟨rfl, rfl⟩ | ⟨rfl, rfl⟩⟩
  · refine mem_sealedWrites.mpr ⟨sealing, hsealing, .entity entity, ?_, ?_⟩
    · rw [sealing.upserts_eq]
      simp [mem_upserts, hentity]
    · rw [← evidenceLogIndex_of_parseArtifact sealing.parses hentity]
      exact List.mem_cons_of_mem _ List.mem_cons_self
  · exact edge_mem_sealedWrites hsealing hedge List.mem_cons_self
      (List.mem_cons_of_mem _ List.mem_cons_self)
  · exact edge_mem_sealedWrites hsealing hedge
      (List.mem_cons_of_mem _ List.mem_cons_self)
      (List.mem_cons_of_mem _ List.mem_cons_self)

/-- What the events write about the evidence of a log index. -/
theorem evidence_link_mem_sealedWrites {relation : RelationType}
    {far : NodeKey} :
    Write.link (.evidence logIndex) relation far ∈ sealedWrites sealings ↔
      ∃ sealing ∈ sealings, sealing.data.logIndex = logIndex ∧
        ((relation = .targets ∧ far = .subject sealing.data.subjectID) ∨
          (relation = .publishedBy ∧ far = .publisher sealing.publisher) ∨
          (relation = .defines ∧ ∃ label id, sealing.NamesEntity label id ∧
            far = .entity label id)) := by
  constructor
  · intro hlink
    obtain ⟨sealing, hsealing, upsert, hupsert, hwrite⟩ :=
      mem_sealedWrites.mp hlink
    refine ⟨sealing, hsealing, ?_⟩
    cases upsert with
    | evidence record =>
      obtain rfl : record = sealing.record := by
        simpa [sealing.upserts_eq, mem_upserts, edgeUpserts] using hupsert
      simp only [Upsert.writes, attributedWrites, List.mem_cons,
        reduceCtorEq, Write.link.injEq, NodeKey.evidence.injEq,
        List.not_mem_nil, or_false, false_or] at hwrite
      rcases hwrite with ⟨hindex, hrelation, hfar⟩ |
        ⟨hindex, hrelation, hfar⟩
      · exact ⟨hindex.symm, .inl ⟨hrelation, hfar⟩⟩
      · exact ⟨hindex.symm, .inr (.inl ⟨hrelation, hfar⟩)⟩
    | entity record =>
      simp only [Upsert.writes, List.mem_cons, reduceCtorEq,
        Write.link.injEq, NodeKey.evidence.injEq, List.not_mem_nil,
        or_false, false_or] at hwrite
      obtain ⟨rfl, hrelation, hfar⟩ := hwrite
      obtain ⟨hindex, hnames⟩ := Sealing.names_of_upsert hupsert
      exact ⟨hindex.symm, .inr (.inr ⟨hrelation, _, _, hnames, hfar⟩)⟩
    | _ => simp [Upsert.writes, attributedWrites] at hwrite
  · rintro ⟨sealing, hsealing, rfl, ⟨rfl, rfl⟩ | ⟨rfl, rfl⟩ |
      ⟨rfl, label, id, hnames, rfl⟩⟩
    · exact evidence_mem_sealedWrites hsealing
        (List.mem_cons_of_mem _ List.mem_cons_self)
    · exact evidence_mem_sealedWrites hsealing
        (List.mem_cons_of_mem _ (List.mem_cons_of_mem _ List.mem_cons_self))
    · exact hnames.defines_mem hsealing

/-- Relationships of evidence come from an event with its log index. -/
theorem exists_of_relationship {near far : ℕ} {relation : RelationType}
    {target : NodeKey}
    (hnear : schema.At (sealedGraph sealings) (.evidence logIndex) near)
    (hfar : schema.At (sealedGraph sealings) target far)
    (hmem : ⟨near, relation, far⟩ ∈ (sealedGraph sealings).relationships) :
    Write.link (.evidence logIndex) relation target ∈
      sealedWrites sealings := by
  obtain ⟨source, other, hlink, hsource, hother⟩ :=
    mem_relationships_sealedGraph.mp hmem
  obtain rfl := hnear.key_eq hsource
  obtain rfl := hfar.key_eq hother
  exact hlink

theorem exists_describes (hmem : sealing ∈ sealings) :
    ∃ last, Describes sealings last ∧
      last.data.logIndex = sealing.data.logIndex := by
  induction sealings using List.reverseRecOn with
  | nil => cases hmem
  | append_singleton sealings last ih =>
    by_cases hsame : last.data.logIndex = sealing.data.logIndex
    · exact ⟨last, ⟨sealings, [], rfl, fun _ hnone => nomatch hnone⟩, hsame⟩
    · have hold : sealing ∈ sealings := by
        rcases List.mem_append.mp hmem with hold | hnew
        · exact hold
        · obtain rfl := List.mem_singleton.mp hnew
          exact absurd rfl hsame
      obtain ⟨found, ⟨earlier, later, rfl, hlater⟩, hfound⟩ := ih hold
      refine ⟨found, ⟨earlier, later ++ [last], by simp, ?_⟩, hfound⟩
      intro other hother
      rcases List.mem_append.mp hother with hother | hother
      · exact hlater other hother
      · obtain rfl := List.mem_singleton.mp hother
        rwa [hfound]

theorem Describes.mem (hdescribes : Describes sealings sealing) :
    sealing ∈ sealings := by
  obtain ⟨earlier, later, rfl, -⟩ := hdescribes
  simp

theorem stands_upserts {book : Book} {graph : EvidenceGraph}
    (hstands : Stands (Represents book) graph) (sealing : Sealing loader) :
    Stands (Represents (book.seal sealing.record))
      (applyUpserts sealing.upserts graph) := by
  have hkeeps : ∀ upsert ∈ sealing.upserts, upsert.KeepsKeys :=
    fun _ => keepsKeys_sealedUpserts
  rw [sealing.upserts_eq, List.forall_mem_cons, List.forall_mem_cons,
    List.forall_mem_cons] at hkeeps
  rw [sealing.upserts_eq, applyUpserts_cons, applyUpserts_cons,
    applyUpserts_cons]
  obtain ⟨hsubject, hpublisher, hevidence, hparsed⟩ := hkeeps
  have hknown : Stands (fun materialized => Represents book materialized ∧
      materialized.Holds (.subject sealing.data.subjectID))
        ((Upsert.subject sealing.data.subjectID).apply graph) := by
    refine hstands.apply hsubject ?_
    intro materialized hrepresents
    exact ⟨hrepresents.ensureSubject _, holds_ensure.mpr (.inl rfl)⟩
  have hnamed : Stands (fun materialized => Represents book materialized ∧
      materialized.Holds (.subject sealing.data.subjectID) ∧
      materialized.Holds (.publisher sealing.publisher))
        ((Upsert.publisher sealing.publisher.issuer
          sealing.publisher.sub).apply
            ((Upsert.subject sealing.data.subjectID).apply graph)) := by
    refine hknown.apply hpublisher ?_
    intro materialized hheld
    exact ⟨hheld.1.ensurePublisher _, holds_ensure.mpr (.inr hheld.2),
      holds_ensure.mpr (.inl rfl)⟩
  refine (hnamed.apply hevidence fun materialized hheld =>
    hheld.1.sealEvidence hheld.2.1 hheld.2.2).applyUpserts hparsed ?_
  intro upsert hupsert materialized hrepresents
  rcases mem_upserts.mp hupsert with ⟨entity, -, rfl⟩ | ⟨edge, -, hedge⟩
  · exact hrepresents.define entity
  · simp only [edgeUpserts, List.mem_cons, List.not_mem_nil, or_false]
      at hedge
    rcases hedge with rfl | rfl | rfl
    · exact hrepresents.define _
    · exact hrepresents.define _
    · exact hrepresents.relate edge

theorem stands_sealedGraph (sealings : List (Sealing loader)) :
    Stands (Represents ⟨[], sealings.map Sealing.record⟩)
      (sealedGraph sealings) := by
  induction sealings using List.reverseRecOn with
  | nil => exact ⟨KeyedGraph.empty, refines_empty, represents_empty⟩
  | append_singleton sealings sealing ih =>
    rw [sealedGraph, List.flatMap_append, List.flatMap_singleton,
      applyUpserts_append, List.map_append, List.map_singleton]
    exact stands_upserts ih sealing

/-- The last event with a log index describes its evidence. -/
theorem Describes.properties (hdescribes : Describes sealings sealing)
    {index : ℕ} (hat : schema.At (sealedGraph sealings)
      (.evidence sealing.data.logIndex) index) :
    property (sealedGraph sealings) index "digest" =
        some (.text sealing.data.contentDigest) ∧
      property (sealedGraph sealings) index "sealed" =
        some (.localDateTime sealing.sealed) := by
  obtain ⟨materialized, hrefines, hrepresents⟩ := stands_sealedGraph sealings
  obtain ⟨earlier, later, rfl, hlater⟩ := hdescribes
  have hlast : ∀ other ∈ later.map Sealing.record,
      other.logIndex ≠ sealing.record.logIndex := by
    intro other hother
    obtain ⟨event, hevent, rfl⟩ := List.mem_map.mp hother
    exact hlater event hevent
  obtain ⟨properties, hnode, hassigned⟩ := hrepresents.described
    (earlier.map Sealing.record) sealing.record (later.map Sealing.record)
    (by simp) hlast
  change materialized.node (.evidence sealing.data.logIndex) = _ at hnode
  rw [property_eq hrefines hat, property_eq hrefines hat, hnode]
  exact ⟨hassigned ("digest", .text sealing.record.digest)
      (by simp [EvidenceRecord.properties]),
    hassigned ("sealed", .localDateTime sealing.record.sealed)
      (by simp [EvidenceRecord.properties])⟩

variable {subjectID : String} {source : EvidenceSource}

/-- A row is composed of the events with its log index. -/
theorem composed_of_row
    (hrow : row ∈ sourceRows (sealedGraph sealings) subjectID label)
    (hid : assertString row.id = .ok id)
    (hsource : evidenceSource row = .ok source) :
    Composed sealings subjectID label id source := by
  obtain ⟨nodes, hnodes, rfl⟩ := List.mem_map.mp hrow
  obtain ⟨⟨subject, hsubject, htargets⟩, hentity, hpublisher⟩ :=
    mem_publishedNodes.mp hnodes
  obtain ⟨logIndex, digest, found, identity, hevidence, hdigest, hfound,
    hidentity⟩ := (readable_sealedGraph sealings).exists_keys hnodes
  rw [sourceRow, (at_entity_iff.mp hfound).2] at hid
  obtain rfl := Except.ok.inj hid
  rw [evidenceSource_of_at hevidence hdigest hidentity] at hsource
  obtain rfl := Except.ok.inj hsource
  have hsubjects := evidence_link_mem_sealedWrites.mp
    (exists_of_relationship hevidence hsubject (mem_incoming.mp htargets).1)
  have hnames := evidence_link_mem_sealedWrites.mp
    (exists_of_relationship hevidence hfound (mem_outgoing.mp hentity).1)
  have hpublishers := evidence_link_mem_sealedWrites.mp
    (exists_of_relationship hevidence hidentity
      (mem_outgoing.mp hpublisher).1)
  simp only [reduceCtorEq, false_and, true_and, false_or, or_false,
    NodeKey.subject.injEq, NodeKey.entity.injEq, NodeKey.publisher.injEq]
    at hsubjects hnames hpublishers
  constructor
  case targets =>
    obtain ⟨sealing, hsealing, hindex, hsame⟩ := hsubjects
    exact ⟨sealing, hsealing, hindex, hsame.symm⟩
  case names =>
    obtain ⟨sealing, hsealing, hindex, _, _, hnamed, rfl, rfl⟩ := hnames
    exact ⟨sealing, hsealing, hindex, hnamed⟩
  case published =>
    obtain ⟨sealing, hsealing, hindex, hsame⟩ := hpublishers
    exact ⟨sealing, hsealing, hindex, hsame.symm⟩
  case described =>
    obtain ⟨sealing, hsealing, hindex, -⟩ := hsubjects
    obtain ⟨last, hdescribes, hlast⟩ := exists_describes hsealing
    have hsame := hlast.trans hindex
    obtain ⟨hcontent, htime⟩ := hdescribes.properties (hsame ▸ hevidence)
    rw [hdigest] at hcontent
    refine ⟨last, hdescribes, hsame,
      (PropertyValue.text.inj (Option.some.inj hcontent)).symm, ?_⟩
    rw [htime, toTime]

theorem exists_row_of_composed
    (hcomposed : Composed sealings subjectID label id source) :
    ∃ row ∈ sourceRows (sealedGraph sealings) subjectID label,
      assertString row.id = .ok id ∧ evidenceSource row = .ok source := by
  obtain ⟨targeting, htargeting, htargets, hsubject⟩ := hcomposed.targets
  obtain ⟨naming, hnaming, hnames, hnamed⟩ := hcomposed.names
  obtain ⟨publishing, hpublishing, hpublished, hpublisher⟩ :=
    hcomposed.published
  obtain ⟨last, hdescribes, hlast, hdigest, hsealed⟩ := hcomposed.described
  obtain ⟨nodes, hnodes, hevidence, hentity, hidentity⟩ :=
    exists_publishedNodes
      (evidence_link_mem_sealedWrites.mpr ⟨targeting, htargeting, htargets,
        .inl ⟨rfl, by rw [hsubject]⟩⟩)
      (evidence_link_mem_sealedWrites.mpr ⟨naming, hnaming, hnames,
        .inr (.inr ⟨rfl, label, id, hnamed, rfl⟩)⟩)
      (evidence_link_mem_sealedWrites.mpr ⟨publishing, hpublishing,
        hpublished, .inr (.inl ⟨rfl, by rw [hpublisher]⟩)⟩)
  obtain ⟨hcontent, htime⟩ := hdescribes.properties (hlast ▸ hevidence)
  refine ⟨_, List.mem_map_of_mem hnodes, ?_, ?_⟩
  · rw [sourceRow, (at_entity_iff.mp hentity).2, assertString]
  · rw [evidenceSource_of_at hevidence hcontent hidentity, htime, toTime,
      hdigest, hsealed]

end Entries

/-! ## Sources in an answer -/

section Maps

variable {Entry : Type} {build : SourceRow → Outcome Entry}
  {idOf : Entry → String} {sourceOf : Entry → EvidenceSource}
  {sources : List SourceRow} {shown : List Entry}

/-- The entries are those of a map by ID, with their lists filled in. -/
def Collected (build : SourceRow → Outcome Entry) (idOf : Entry → String)
    (sourceOf : Entry → EvidenceSource) (sources : List SourceRow)
    (shown : List Entry) : Prop :=
  ∃ (entries : List Entry) (complete : String × Entry → Entry),
    sources.mapM build = .ok entries ∧
    shown = (mapOf (entries.map fun found => (idOf found, found))).map
      complete ∧
    ∀ entry, idOf (complete entry) = idOf entry.2 ∧
      sourceOf (complete entry) = sourceOf entry.2

theorem Collected.exists_row (hreads : ReadsRow build idOf sourceOf)
    (hcollected : Collected build idOf sourceOf sources shown) {entry : Entry}
    (hentry : entry ∈ shown) :
    ∃ row ∈ sources, assertString row.id = .ok (idOf entry) ∧
      evidenceSource row = .ok (sourceOf entry) := by
  obtain ⟨entries, complete, hentries, rfl, hcomplete⟩ := hcollected
  obtain ⟨found, hfound, rfl⟩ := List.mem_map.mp hentry
  obtain ⟨row, hrow, hbuilt⟩ :=
    exists_of_mem_mapM hentries (mem_entries hfound).2
  rw [(hcomplete found).1, (hcomplete found).2]
  exact ⟨row, hrow, hreads row found.2 hbuilt⟩

/-- The last row is shown: no other takes its place in the map. -/
theorem Collected.exists_last (hreads : ReadsRow build idOf sourceOf)
    {before : List SourceRow}
    (hcollected : Collected build idOf sourceOf (before ++ [row]) shown)
    {source : EvidenceSource} (hid : assertString row.id = .ok id)
    (hsource : evidenceSource row = .ok source) :
    ∃ entry ∈ shown, idOf entry = id ∧ sourceOf entry = source := by
  obtain ⟨entries, complete, hentries, rfl, hcomplete⟩ := hcollected
  rw [List.mapM_append] at hentries
  obtain ⟨earlier, -, hrest⟩ := bind_eq_ok hentries
  obtain ⟨ending, hending, hpure⟩ := bind_eq_ok hrest
  obtain rfl := Except.ok.inj hpure
  rw [List.mapM_cons] at hending
  obtain ⟨entry, hbuilt, hnone⟩ := bind_eq_ok hending
  obtain rfl := Except.ok.inj hnone
  obtain ⟨hentryID, hentrySource⟩ := hreads row entry hbuilt
  have hmem : (idOf entry, entry) ∈ mapOf ((earlier ++ [entry]).map
      fun found => (idOf found, found)) := by
    rw [List.map_append, List.map_singleton, mapOf_append_singleton]
    exact List.mem_append_right _ (List.mem_singleton_self _)
  refine ⟨complete (idOf entry, entry), List.mem_map_of_mem hmem, ?_, ?_⟩
  · rw [(hcomplete _).1]
    exact Except.ok.inj (hentryID.symm.trans hid)
  · rw [(hcomplete _).2]
    exact Except.ok.inj (hentrySource.symm.trans hsource)

end Maps

section Answers

variable {graph : EvidenceGraph} {subjectID : String} {rows : ThreatModelRows}
  {result : ThreatModelResult}

theorem collected_threatModelResult
    (hresult : threatModelResult subjectID rows = .ok result) :
    Collected capabilityOf ThreatModelCapability.id
        ThreatModelCapability.source rows.capabilities result.capabilities ∧
      Collected threatOf ThreatModelThreat.id ThreatModelThreat.source
        rows.threats result.threats ∧
      Collected controlOf ThreatModelControl.id ThreatModelControl.source
        rows.controls result.controls := by
  obtain ⟨reads, rfl⟩ := exists_reads hresult
  exact ⟨⟨_, _, reads.capabilities_read, rfl, fun _ => ⟨rfl, rfl⟩⟩,
    ⟨_, _, reads.threats_read, rfl, fun _ => ⟨rfl, rfl⟩⟩,
    ⟨_, _, reads.controls_read, rfl, fun _ => ⟨rfl, rfl⟩⟩⟩

theorem ThreatModelResult.Reordered.mem_sources {assembled : ThreatModelResult}
    (hreordered : result.Reordered assembled)
    {listed : EntityLabel × String × EvidenceSource} :
    listed ∈ result.sources ↔ listed ∈ assembled.sources :=
  ((hreordered.capabilities.map _).append
    ((hreordered.threats.map _).append
      (hreordered.controls.map _))).mem_iff

theorem exists_arrangement (hrow : row ∈ sourceRows graph subjectID label) :
    ∃ order : EntityLabel → List SourceRow,
      (∀ label, (order label).Perm (sourceRows graph subjectID label)) ∧
        ∃ before, order label = before ++ [row] := by
  let before := (sourceRows graph subjectID label).erase row
  refine ⟨Function.update (sourceRows graph subjectID) label (before ++ [row]),
    ?_, before, Function.update_self ..⟩
  intro other
  by_cases hother : other = label
  · subst hother
    rw [Function.update_self]
    exact (List.perm_append_singleton row before).trans
      (List.perm_cons_erase hrow).symm
  · rw [Function.update_of_ne hother]

variable {source : EvidenceSource}

theorem exists_row_of_source
    (hanswer : ThreatModel graph subjectID (.ok result))
    (hlisted : (label, id, source) ∈ result.sources) :
    label ∈ sourcedLabels ∧ ∃ row ∈ sourceRows graph subjectID label,
      assertString row.id = .ok id ∧ evidenceSource row = .ok source := by
  obtain ⟨rows, hreturned, assembled, hassembled, hreordered⟩ := hanswer
  obtain ⟨hcapabilities, hthreats, hcontrols⟩ :=
    collected_threatModelResult hassembled
  rw [hreordered.mem_sources, ThreatModelResult.sources, List.mem_append,
    List.mem_append, List.mem_map, List.mem_map, List.mem_map] at hlisted
  rcases hlisted with ⟨shown, hshown, heq⟩ | ⟨shown, hshown, heq⟩ |
    ⟨shown, hshown, heq⟩
  · cases heq
    obtain ⟨row, hrow, hread⟩ :=
      hcapabilities.exists_row readsRow_capabilityOf hshown
    exact ⟨by simp [sourcedLabels], row,
      hreturned.capabilities.mem_iff.mp hrow, hread⟩
  · cases heq
    obtain ⟨row, hrow, hread⟩ := hthreats.exists_row readsRow_threatOf hshown
    exact ⟨by simp [sourcedLabels], row,
      hreturned.threats.mem_iff.mp hrow, hread⟩
  · cases heq
    obtain ⟨row, hrow, hread⟩ := hcontrols.exists_row readsRow_controlOf hshown
    exact ⟨by simp [sourcedLabels], row,
      hreturned.controls.mem_iff.mp hrow, hread⟩

/-- The source of any row is in some answer: the row may be the last one. -/
theorem Readable.exists_answer (hreadable : Readable graph)
    (hlabel : label ∈ sourcedLabels)
    (hrow : row ∈ sourceRows graph subjectID label)
    (hid : assertString row.id = .ok id)
    (hsource : evidenceSource row = .ok source) :
    ∃ result, ThreatModel graph subjectID (.ok result) ∧
      (label, id, source) ∈ result.sources := by
  obtain ⟨order, horder, before, hlast⟩ := exists_arrangement hrow
  have hreturned := returned_arrangedRows horder
  obtain ⟨result, hresult⟩ := hreadable.exists_threatModelResult hreturned
  refine ⟨result, ⟨_, hreturned, result, hresult,
    ⟨rfl, .refl _, .refl _, .refl _, rfl⟩⟩, ?_⟩
  obtain ⟨hcapabilities, hthreats, hcontrols⟩ :=
    collected_threatModelResult hresult
  simp only [arrangedRows] at hcapabilities hthreats hcontrols
  rw [ThreatModelResult.sources, List.mem_append, List.mem_append]
  simp only [sourcedLabels, List.mem_cons, List.not_mem_nil, or_false]
    at hlabel
  rcases hlabel with rfl | rfl | rfl
  · rw [hlast] at hcapabilities
    obtain ⟨shown, hshown, rfl, rfl⟩ :=
      hcapabilities.exists_last readsRow_capabilityOf hid hsource
    exact .inl (List.mem_map.mpr ⟨shown, hshown, rfl⟩)
  · rw [hlast] at hthreats
    obtain ⟨shown, hshown, rfl, rfl⟩ :=
      hthreats.exists_last readsRow_threatOf hid hsource
    exact .inr (.inl (List.mem_map.mpr ⟨shown, hshown, rfl⟩))
  · rw [hlast] at hcontrols
    obtain ⟨shown, hshown, rfl, rfl⟩ :=
      hcontrols.exists_last readsRow_controlOf hid hsource
    exact .inr (.inr (List.mem_map.mpr ⟨shown, hshown, rfl⟩))

end Answers

section Tracing

variable {loader : Loader} {sealings : List (Sealing loader)}
  {sealing : Sealing loader} {subjectID : String}

/-- Every answer names sources that list what they are sources of exactly if
the entries list whatever is named under their log indices. -/
theorem alwaysListed_iff_traceable :
    AlwaysListed sealings subjectID ↔ Traceable sealings subjectID := by
  constructor
  · intro hlisted label hlabel id source hcomposed
    obtain ⟨row, hrow, hid, hsource⟩ := exists_row_of_composed hcomposed
    obtain ⟨result, hresult, hmem⟩ := (readable_sealedGraph
      sealings).exists_answer hlabel hrow hid hsource
    exact hlisted result hresult label id source hmem
  · intro htraceable result hresult label id source hmem
    obtain ⟨hlabel, row, hrow, hid, hsource⟩ :=
      exists_row_of_source hresult hmem
    exact htraceable label hlabel id source
      (composed_of_row hrow hid hsource)

theorem OneEntryPerIndex.parsed_eq (hone : OneEntryPerIndex sealings)
    {left right : Sealing loader} (hleft : left ∈ sealings)
    (hright : right ∈ sealings)
    (hindex : left.data.logIndex = right.data.logIndex) :
    left.parsed = right.parsed := by
  have hparses := left.parses
  rw [(hone left hleft right hright hindex).2, hindex, right.parses] at hparses
  exact (Except.ok.inj hparses).symm

/-- A catalog lists entities of one label, and an edge to another catalog ends
in a second one. -/
theorem exists_unlisted {edge : EdgeRecord}
    (hedge : edge ∈ sealing.parsed.edges)
    (htype : edge.edgeType ≠ .leverages) :
    ∃ label ∈ sourcedLabels, ∃ id, sealing.NamesEntity label id ∧
      ¬ sealing.ListsEntity label id := by
  have hparsed := hedge
  rcases parseArtifact_cases sealing.parses with
    ⟨catalog, heq⟩ | ⟨catalog, heq⟩ | ⟨catalog, heq⟩ | heq
  · rw [← heq] at hparsed
    obtain ⟨control, -, hcontrol⟩ := List.mem_flatMap.mp hparsed
    obtain ⟨threat, -, rfl⟩ := List.mem_map.mp hcontrol
    refine ⟨.threat, by simp [sourcedLabels], threat,
      .inr ⟨_, hedge, .inr ⟨rfl, rfl⟩⟩, ?_⟩
    rintro ⟨entity, hentity, hlabel, -⟩
    rw [← heq] at hentity
    obtain ⟨listed, -, rfl⟩ := List.mem_map.mp hentity
    cases hlabel
  · rw [← heq] at hparsed
    obtain ⟨threat, -, hthreat⟩ := List.mem_flatMap.mp hparsed
    rcases List.mem_append.mp hthreat with hintroduces | hleverages
    · obtain ⟨capability, -, rfl⟩ := List.mem_map.mp hintroduces
      refine ⟨.capability, by simp [sourcedLabels], capability,
        .inr ⟨_, hedge, .inl ⟨rfl, rfl⟩⟩, ?_⟩
      rintro ⟨entity, hentity, hlabel, -⟩
      rw [← heq] at hentity
      obtain ⟨listed, -, rfl⟩ := List.mem_map.mp hentity
      cases hlabel
    · obtain ⟨vector, -, rfl⟩ := List.mem_map.mp hleverages
      exact absurd rfl htype
  · rw [← heq] at hparsed
    cases hparsed
  · rw [← heq] at hparsed
    cases hparsed

theorem listsEntity_of_leverages {threat vector : String}
    (hedge : ⟨threat, .threat, vector, .vector, .leverages⟩ ∈
      sealing.parsed.edges) : sealing.ListsEntity .threat threat := by
  rcases parseArtifact_cases sealing.parses with
    ⟨catalog, heq⟩ | ⟨catalog, heq⟩ | ⟨catalog, heq⟩ | heq
  · rw [← heq] at hedge
    obtain ⟨control, -, hcontrol⟩ := List.mem_flatMap.mp hedge
    obtain ⟨_, -, hsame⟩ := List.mem_map.mp hcontrol
    cases hsame
  · rw [← heq] at hedge
    obtain ⟨found, hfound, hthreat⟩ := List.mem_flatMap.mp hedge
    rcases List.mem_append.mp hthreat with hintroduces | hleverages
    · obtain ⟨_, -, hsame⟩ := List.mem_map.mp hintroduces
      cases hsame
    · obtain ⟨_, -, hsame⟩ := List.mem_map.mp hleverages
      cases hsame
      rw [Sealing.ListsEntity, ← heq]
      exact ⟨_, List.mem_map_of_mem hfound, rfl, rfl⟩
  · rw [← heq] at hedge
    cases hedge
  · rw [← heq] at hedge
    cases hedge

theorem listsEntity_of_names
    (hedges : ∀ edge ∈ sealing.parsed.edges, edge.edgeType = .leverages)
    (hlabel : label ∈ sourcedLabels) (hnames : sealing.NamesEntity label id) :
    sealing.ListsEntity label id := by
  rcases hnames with hlists | ⟨edge, hedge, hend⟩
  · exact hlists
  · rcases edge_cases hedge with ⟨control, threat, rfl⟩ |
      ⟨capability, threat, rfl⟩ | ⟨threat, vector, rfl⟩
    · cases hedges _ hedge
    · cases hedges _ hedge
    · rcases hend with ⟨rfl, rfl⟩ | ⟨rfl, rfl⟩
      · exact listsEntity_of_leverages hedge
      · simp [sourcedLabels] at hlabel

/-- With one entry for each log index, the entries are to refer to nothing but
vectors. -/
theorem OneEntryPerIndex.traceable_iff (hone : OneEntryPerIndex sealings) :
    Traceable sealings subjectID ↔
      ∀ sealing ∈ sealings, sealing.data.subjectID = subjectID →
        ∀ edge ∈ sealing.parsed.edges, edge.edgeType = .leverages := by
  constructor
  · intro htraceable sealing hsealing hsubject edge hedge
    by_contra htype
    obtain ⟨label, hlabel, id, hnames, hunlisted⟩ := exists_unlisted hedge htype
    obtain ⟨last, hdescribes, hindex⟩ := exists_describes hsealing
    have hcomposed : Composed sealings subjectID label id
        ⟨sealing.data.logIndex, last.data.contentDigest, last.sealed,
          sealing.publisher⟩ :=
      { targets := ⟨sealing, hsealing, rfl, hsubject⟩
        names := ⟨sealing, hsealing, rfl, hnames⟩
        published := ⟨sealing, hsealing, rfl, rfl⟩
        described := ⟨last, hdescribes, hindex, rfl, rfl⟩ }
    obtain ⟨other, hother, -, hlists, hsame, -⟩ :=
      htraceable label hlabel id _ hcomposed
    apply hunlisted
    rwa [Sealing.ListsEntity, ← hone.parsed_eq hother hsealing hsame]
  · intro hedges label hlabel id source hcomposed
    obtain ⟨targeting, htargeting, htargets, rfl⟩ := hcomposed.targets
    obtain ⟨naming, hnaming, hnames, hnamed⟩ := hcomposed.names
    obtain ⟨publishing, hpublishing, hpublished, hpublisher⟩ :=
      hcomposed.published
    obtain ⟨last, hdescribes, hlast, hdigest, -⟩ := hcomposed.described
    have hsame : ∀ {event}, event ∈ sealings →
        event.data.logIndex = source.logIndex →
          event.data = publishing.data ∧ event.parsed = publishing.parsed := by
      intro event hevent hindex
      have hshared := hindex.trans hpublished.symm
      exact ⟨(hone event hevent publishing hpublishing hshared).1,
        hone.parsed_eq hevent hpublishing hshared⟩
    have hlists : naming.ListsEntity label id := by
      apply listsEntity_of_names _ hlabel hnamed
      apply hedges naming hnaming
      rw [(hsame hnaming hnames).1, ← (hsame htargeting htargets).1]
    refine ⟨publishing, hpublishing, ?_, ?_, hpublished, ?_, hpublisher⟩
    · rw [← (hsame htargeting htargets).1]
    · rwa [Sealing.ListsEntity, ← (hsame hnaming hnames).2]
    · rw [← hdigest, (hsame hdescribes.mem hlast).1]

/-- The sources in every answer list what they are sources of exactly if the
subject's entries list whatever is named under their log indices.  With one
entry for each log index these are the runs whose artifacts of the subject
refer to nothing but vectors. -/
theorem sources_listed_iff (sealings : List (Sealing loader))
    (subjectID : String) :
    (AlwaysListed sealings subjectID ↔ Traceable sealings subjectID) ∧
      (OneEntryPerIndex sealings → (AlwaysListed sealings subjectID ↔
        ∀ sealing ∈ sealings, sealing.data.subjectID = subjectID →
          ∀ edge ∈ sealing.parsed.edges, edge.edgeType = .leverages)) := by
  refine ⟨alwaysListed_iff_traceable, ?_⟩
  intro hone
  exact alwaysListed_iff_traceable.trans hone.traceable_iff

/-- The same of the graph after a run of the loader over sealed events. -/
theorem run_sources_listed_iff {state : LoaderState}
    (hreach : TransitionSystem.Reaches (loaderStep loader) (SealsFully loader)
      .initial state) :
    ∃ sealings : List (Sealing loader),
      List.Forall₂ (fun sealing handled => sealing.Of handled.delivery)
        sealings state.history ∧
      ∀ subjectID,
        (∀ result, ThreatModel state.graph subjectID (.ok result) →
          ∀ label id source, (label, id, source) ∈ result.sources →
            ListedBy sealings subjectID label id source) ↔
        Traceable sealings subjectID := by
  obtain ⟨sealings, hof, hgraph⟩ := exists_sealings_of_reaches hreach
  rw [hgraph]
  exact ⟨sealings, hof, fun subjectID => alwaysListed_iff_traceable⟩

end Tracing

/-! ## A catalog on its own -/

/-- Two entries of one capability catalog, which refers to nothing, and a
control catalog of another subject, which refers to a threat. -/
def capabilityRun : List (Sealing (byteLoader (sniffing []))) :=
  [sealedCatalog [] [2] 2 _ rfl, sealedCatalog [] [2] 5 _ rfl,
    { sealedCatalog [] [0] 7 _ rfl with
      data := sealedData "beta" "digest" 7
      parses := rfl }]

theorem oneEntryPerIndex_capabilityRun : OneEntryPerIndex capabilityRun := by
  have hindices : capabilityRun.map (·.data.logIndex) = [2, 5, 7] := rfl
  have hnodup : (capabilityRun.map (·.data.logIndex)).Nodup := by
    rw [hindices]
    decide
  intro left hleft right hright hsame
  obtain rfl := (List.nodup_map_iff_inj_on hnodup.of_map).mp hnodup left hleft
    right hright hsame
  exact ⟨rfl, rfl⟩

theorem capability_catalog_listed :
    ∃ result, ThreatModel (sealedGraph capabilityRun) "alpha" (.ok result) ∧
      (result.capabilities.map fun capability =>
        (capability.id, capability.source.logIndex)) = [("CAP1", 2)] ∧
      ∀ label id source, (label, id, source) ∈ result.sources →
        ListedBy capabilityRun "alpha" label id source := by
  have hcapabilities : ((threatModelResult "alpha" (queriedRows
      (sealedGraph capabilityRun) "alpha")).map
        fun result => result.capabilities.map fun capability =>
          (capability.id, capability.source.logIndex)) =
      .ok [("CAP1", 2)] := by
    decide +kernel
  obtain ⟨result, hresult, hshown⟩ := map_eq_ok hcapabilities
  have hlisted : AlwaysListed capabilityRun "alpha" := by
    apply ((sources_listed_iff _ "alpha").2 oneEntryPerIndex_capabilityRun).mpr
    intro sealing hsealing hsubject edge hedge
    simp only [capabilityRun, List.mem_cons, List.not_mem_nil, or_false]
      at hsealing
    rcases hsealing with rfl | rfl | rfl
    · cases hedge
    · cases hedge
    · exact absurd hsubject (by decide)
  exact ⟨result, threatModel_of_result hresult, hshown,
    hlisted result (threatModel_of_result hresult)⟩

/-- A control catalog that addresses a threat of another one: the threat is
shown, with the entry of the control catalog as its source. -/
theorem referred_threat_shown :
    ∃ result, ThreatModel
        (sealedGraph [sealedCatalog [] [0] 0 _ rfl]) "alpha" (.ok result) ∧
      (result.threats.map fun threat => (threat.id, threat.source.logIndex)) =
        [("T1", 0)] ∧
      ∀ sealing ∈ [sealedCatalog [] [0] 0 _ rfl],
        ¬ sealing.ListsEntity .threat "T1" := by
  have hthreats : ((threatModelResult "alpha" (queriedRows
      (sealedGraph [sealedCatalog [] [0] 0 _ rfl]) "alpha")).map
        fun result => result.threats.map fun threat =>
          (threat.id, threat.source.logIndex)) = .ok [("T1", 0)] := by
    decide +kernel
  obtain ⟨result, hresult, hshown⟩ := map_eq_ok hthreats
  refine ⟨result, threatModel_of_result hresult, hshown, ?_⟩
  rintro sealing hsealing ⟨entity, hentity, hlabel, -⟩
  obtain rfl := List.mem_singleton.mp hsealing
  obtain rfl := List.mem_singleton.mp hentity
  cases hlabel

end ComplyTime.Graph
