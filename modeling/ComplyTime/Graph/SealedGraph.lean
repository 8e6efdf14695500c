import ComplyTime.Graph.Redelivery
import ComplyTime.Graph.SubjectView

/-!
# The graph of sealed artifacts

Sealed events of any subjects, handled to their end in any order and any number
of times, leave a graph that is determined by their writes: two nodes are
related exactly if some event links their keys.  The queries over this graph
return the IDs of the edges the parser has emitted.
-/

namespace ComplyTime.Graph

open Cypher Keyed Merging RemoteStore TransitionSystem

/-- A sealed event that is handled to its end: its receipt is read, its
publisher is known and its artifact is parsed. -/
structure Sealing (loader : Loader) where
  data : EvidenceSealedData
  receipt : Receipt.UnwrapResult
  sealed : Time
  answer : Outcome PublisherIdentity
  publisher : PublisherIdentity
  resolves : resolved answer = some publisher
  parsed : ParsedArtifact
  parses : parseArtifact loader.decoders
    (inferArtifactType loader.library receipt.content) receipt.content
      data.logIndex = .ok parsed

section Sealings

variable {loader : Loader}

def Sealing.record (sealing : Sealing loader) : EvidenceRecord :=
  evidenceRecord sealing.data
    (inferArtifactType loader.library sealing.receipt.content)
    sealing.publisher sealing.sealed

def Sealing.upserts (sealing : Sealing loader) : List Upsert :=
  sealedUpserts loader sealing.data (some sealing.receipt) sealing.sealed
    sealing.answer

/-- The graph after the events, from an empty one. -/
def sealedGraph (sealings : List (Sealing loader)) : EvidenceGraph :=
  applyUpserts (sealings.flatMap Sealing.upserts) Graph.empty

def sealedWrites (sealings : List (Sealing loader)) : List GraphWrite :=
  writesOf (sealings.flatMap Sealing.upserts)

/-- The parser has emitted the edge for one of the artifacts. -/
def Emitted (sealings : List (Sealing loader)) (edge : EdgeRecord) : Prop :=
  ∃ sealing ∈ sealings, edge ∈ sealing.parsed.edges

variable {sealing : Sealing loader} {sealings : List (Sealing loader)}

theorem Sealing.upserts_eq (sealing : Sealing loader) :
    sealing.upserts = .subject sealing.data.subjectID ::
      .publisher sealing.publisher.issuer sealing.publisher.sub ::
      .evidence sealing.record ::
      sealing.parsed.upserts sealing.data.logIndex := by
  rw [Sealing.upserts, sealedUpserts, sealing.resolves]
  simp only [Option.map_some, Option.getD_some, evidenceUpserts,
    artifactUpserts, sealing.parses]
  rfl

/-- Handling one more event, with the receipt, the time and the lookup it
names, leads from one such graph to the next. -/
theorem handled_sealedGraph {surroundings : Surroundings} {time : Time}
    (hreceipt : readReceipt loader surroundings sealing.data.storageRef =
      some sealing.receipt)
    (htime : sealedTime surroundings time = sealing.sealed)
    (hanswer : lookupAnswer surroundings sealing.data
      (sealedGraph sealings) = sealing.answer) :
    handled loader surroundings (.sealed time (.ok sealing.data))
        (sealedGraph sealings) =
      sealedGraph (sealings ++ [sealing]) := by
  rw [handled_sealed, hreceipt, htime, hanswer, sealedGraph,
    sealedGraph, List.flatMap_append, List.flatMap_singleton,
    applyUpserts_append]
  rfl

/-- The event is that of the delivery, with the receipt and the time the
loader reads. -/
def Sealing.Of (sealing : Sealing loader) (delivery : Delivery) : Prop :=
  ∃ time, delivery.message = .ok (.sealed time (.ok sealing.data)) ∧
    readReceipt loader delivery.surroundings sealing.data.storageRef =
      some sealing.receipt ∧
    sealedTime delivery.surroundings time = sealing.sealed

/-- The delivery is that of a sealed event, and all its writes succeed. -/
def SealsFully (loader : Loader) (state : LoaderState) (delivery : Delivery) :
    Prop :=
  delivery.replies = [] ∧ ∃ sealing : Sealing loader, sealing.Of delivery ∧
    lookupAnswer delivery.surroundings sealing.data state.graph = sealing.answer

/-- Runs of the loader over sealed events leave such graphs. -/
theorem exists_sealings_of_reaches {state : LoaderState}
    (hreach : Reaches (loaderStep loader) (SealsFully loader) .initial
      state) :
    ∃ sealings : List (Sealing loader),
      List.Forall₂ (fun sealing handled => sealing.Of handled.delivery)
        sealings state.history ∧
      state.graph = sealedGraph sealings := by
  apply hreach.invariant
  · exact ⟨[], .nil, rfl⟩
  · rintro before delivery next ⟨sealings, hof, hgraph⟩
      ⟨hreplies, sealing, hsealing, hanswer⟩ hstep
    obtain rfl := Option.some.inj hstep
    refine ⟨sealings ++ [sealing], List.rel_append hof (.cons hsealing .nil),
      ?_⟩
    obtain ⟨time, hmessage, hreceipt, htime⟩ := hsealing
    rw [hgraph] at hanswer
    rw [← handled_sealedGraph hreceipt htime hanswer, ← hgraph]
    simp only [LoaderState.deliver, handled, hmessage, hreplies]

/-! ## Writes -/

theorem keepsKeys_sealings {upsert : Upsert}
    (hmem : upsert ∈ sealings.flatMap Sealing.upserts) : upsert.KeepsKeys := by
  obtain ⟨sealing, -, hupsert⟩ := List.mem_flatMap.mp hmem
  exact keepsKeys_sealedUpserts hupsert

variable {write : GraphWrite} {type : EdgeType} {materialized : Materialized}
  {source target : EntityLabel} {id : String} {ids : List String}

theorem keepsKeys_sealedWrites (hmem : write ∈ sealedWrites sealings) :
    write.KeepsKeys schema :=
  keepsKeys_writesOf (fun _ => keepsKeys_sealings) hmem

theorem ready_sealings (sealings : List (Sealing loader))
    (content : GraphContent) :
    FoundAll (sealings.flatMap Sealing.upserts) content ∧
      ReadyAll schema (sealedWrites sealings) content := by
  induction sealings generalizing content with
  | nil => exact ⟨trivial, trivial⟩
  | cons sealing sealings ih =>
    have hfirst : FoundAll sealing.upserts content ∧
        ReadyAll schema (writesOf sealing.upserts) content :=
      ready_sealedUpserts
    have hrest := ih (run schema (writesOf sealing.upserts) content)
    rw [sealedWrites, List.flatMap_cons, foundAll_append, writesOf_append,
      readyAll_append]
    exact ⟨⟨hfirst.1, hrest.1⟩, hfirst.2, hrest.2⟩

theorem contentOf_sealedGraph :
    contentOf (sealedGraph sealings) =
      run schema (sealedWrites sealings) (contentOf Graph.empty) :=
  contentOf_applyUpserts (fun _ => keepsKeys_sealings)
    (ready_sealings sealings _).1

/-- Two nodes are related if an event links their keys. -/
theorem mem_relationships_sealedGraph {near far : ℕ} {relation : RelationType} :
    ⟨near, relation, far⟩ ∈ (sealedGraph sealings).relationships ↔
      ∃ source target, Write.link source relation target ∈
          sealedWrites sealings ∧
        schema.At (sealedGraph sealings) source near ∧
        schema.At (sealedGraph sealings) target far := by
  have hrun : (run schema (sealedWrites sealings)
      (contentOf Graph.empty)).related near relation far ↔ _ :=
    related_run (fun _ => keepsKeys_sealedWrites)
      (ready_sealings sealings (contentOf Graph.empty)).2
  rw [← contentOf_sealedGraph] at hrun
  simp only [mem_positions_contentOf] at hrun
  constructor
  · intro hmem
    rcases hrun.mp hmem with hempty | hlink
    · cases hempty
    · exact hlink
  · exact fun hlink => hrun.mpr (.inr hlink)

theorem exists_at_of_link {source target : NodeKey} {relation : RelationType}
    (hlink : Write.link source relation target ∈ sealedWrites sealings) :
    (∃ near, schema.At (sealedGraph sealings) source near) ∧
      ∃ far, schema.At (sealedGraph sealings) target far := by
  have hdone := (ready_sealings sealings (contentOf Graph.empty)).2.done
    (fun _ => keepsKeys_sealedWrites) hlink
  rw [← contentOf_sealedGraph] at hdone
  exact ⟨has_iff.mp hdone.1, has_iff.mp hdone.2.1⟩

theorem mem_sealedWrites :
    write ∈ sealedWrites sealings ↔
      ∃ sealing ∈ sealings, ∃ upsert ∈ sealing.upserts,
        write ∈ upsert.writes := by
  simp only [sealedWrites, writesOf, List.mem_flatMap]
  constructor
  · rintro ⟨upsert, ⟨sealing, hsealing, hupsert⟩, hwrite⟩
    exact ⟨sealing, hsealing, upsert, hupsert, hwrite⟩
  · rintro ⟨sealing, hsealing, upsert, hupsert, hwrite⟩
    exact ⟨upsert, ⟨sealing, hsealing, hupsert⟩, hwrite⟩

theorem evidence_mem_sealedWrites (hmem : sealing ∈ sealings) (hwrite : write ∈
      attributedWrites (.evidence sealing.data.logIndex)
        sealing.record.properties sealing.data.subjectID sealing.publisher) :
    write ∈ sealedWrites sealings := by
  refine mem_sealedWrites.mpr
    ⟨sealing, hmem, .evidence sealing.record, ?_, hwrite⟩
  rw [sealing.upserts_eq]
  simp

/-- An edge is written with the stubs of its ends, which the evidence
defines. -/
theorem edge_mem_sealedWrites (hmem : sealing ∈ sealings) {edge : EdgeRecord}
    (hedge : edge ∈ sealing.parsed.edges) {upsert : Upsert}
    (hupsert : upsert ∈ edgeUpserts sealing.data.logIndex edge)
    (hwrite : write ∈ upsert.writes) :
    write ∈ sealedWrites sealings := by
  refine mem_sealedWrites.mpr ⟨sealing, hmem, upsert, ?_, hwrite⟩
  have hparsed : upsert ∈ sealing.parsed.upserts sealing.data.logIndex :=
    mem_upserts.mpr (.inr ⟨edge, hedge, hupsert⟩)
  rw [sealing.upserts_eq]
  simp [hparsed]

theorem link_mem_sealedWrites {source target : NodeKey} :
    Write.link source (.edge type) target ∈ sealedWrites sealings ↔
      ∃ edge, Emitted sealings edge ∧
        source = .entity edge.fromLabel edge.fromID ∧ type = edge.edgeType ∧
        target = .entity edge.toLabel edge.toID := by
  constructor
  · intro hlink
    obtain ⟨sealing, hsealing, upsert, hupsert, hwrite⟩ :=
      mem_sealedWrites.mp hlink
    cases upsert with
    | edge edge =>
      simp only [sealing.upserts_eq, List.mem_cons, reduceCtorEq, false_or,
        mem_upserts, and_false, exists_false, edgeUpserts,
        List.not_mem_nil, or_false, Upsert.edge.injEq] at hupsert
      obtain ⟨found, hfound, rfl⟩ := hupsert
      simp only [Upsert.writes, List.mem_singleton, Write.link.injEq,
        RelationType.edge.injEq] at hwrite
      exact ⟨edge, ⟨sealing, hsealing, hfound⟩, hwrite⟩
    | _ => simp [Upsert.writes, attributedWrites] at hwrite
  · rintro ⟨edge, ⟨sealing, hsealing, hedge⟩, rfl, rfl, rfl⟩
    exact edge_mem_sealedWrites hsealing hedge
      (List.mem_cons_of_mem _ (List.mem_cons_of_mem _ List.mem_cons_self))
      List.mem_cons_self

/-! ## Keys -/

/-- Every node of the evidence of a log index has a digest. -/
def DigestsStored (materialized : Materialized) : Prop :=
  ∀ logIndex properties,
    materialized.node (.evidence logIndex) = some properties →
      ∃ digest, properties "digest" = some (.text digest)

theorem DigestsStored.congr {materialized next : Materialized}
    (hstored : DigestsStored materialized)
    (hnode : ∀ logIndex, next.node (.evidence logIndex) =
      materialized.node (.evidence logIndex)) : DigestsStored next := by
  intro logIndex properties hnext
  exact hstored logIndex properties (hnode logIndex ▸ hnext)

theorem DigestsStored.sealEvidence (hstored : DigestsStored materialized)
    (record : EvidenceRecord) :
    DigestsStored (materialized.sealEvidence record) := by
  rw [Materialized.sealEvidence]
  split
  · intro logIndex properties hnode
    by_cases hindex : logIndex = record.logIndex
    · subst hindex
      simp only [Materialized.attributeTo, KeyedGraph.connect, KeyedGraph.set,
        ↓reduceIte, Option.map_eq_some_iff] at hnode
      obtain ⟨found, -, rfl⟩ := hnode
      exact ⟨record.digest, rfl⟩
    · apply hstored logIndex properties
      simpa [Materialized.attributeTo, KeyedGraph.connect, KeyedGraph.set,
        Materialized.ensure, KeyedGraph.merge, hindex] using hnode
  · exact hstored

theorem DigestsStored.ensure {key : NodeKey}
    (hstored : DigestsStored materialized)
    (hother : ∀ logIndex, key ≠ .evidence logIndex) :
    DigestsStored (materialized.ensure key) := by
  apply hstored.congr
  intro logIndex
  simp [Materialized.ensure, KeyedGraph.merge, (hother logIndex).symm]

theorem DigestsStored.materialize (hstored : DigestsStored materialized)
    (upsert : Upsert) :
    DigestsStored (upsert.materialize materialized) := by
  cases upsert with
  | subject subjectID => exact hstored.ensure fun _ => NodeKey.noConfusion
  | publisher issuer sub => exact hstored.ensure fun _ => NodeKey.noConfusion
  | ingestedStub digest subjectID issuer sub =>
    have hensured : DigestsStored (materialized.ensure
        (.ingestedStub digest subjectID)) :=
      hstored.ensure fun _ => NodeKey.noConfusion
    rw [Upsert.materialize, Materialized.ingestStub]
    split
    · exact hensured.congr fun _ => rfl
    · exact hstored
  | evidence record => exact hstored.sealEvidence record
  | entity record =>
    have hdescribed : DigestsStored (materialized.describe record) := by
      apply hstored.congr
      intro logIndex
      simp [Materialized.describe, Materialized.ensure, KeyedGraph.set,
        KeyedGraph.merge]
    rw [Upsert.materialize, Materialized.define]
    split
    · exact hdescribed.congr fun _ => rfl
    · exact hdescribed
  | edge record =>
    rw [Upsert.materialize, Materialized.relate]
    split
    · exact hstored.congr fun _ => rfl
    · exact hstored

/-- A condition that every one of the upserts keeps. -/
theorem Stands.applyUpserts {condition : Materialized → Prop}
    {graph : EvidenceGraph} (hstands : Stands condition graph)
    {upserts : List Upsert} (hkeeps : ∀ upsert ∈ upserts, upsert.KeepsKeys)
    (hstep : ∀ upsert ∈ upserts, ∀ materialized, condition materialized →
      condition (upsert.materialize materialized)) :
    Stands condition (Graph.applyUpserts upserts graph) := by
  induction upserts generalizing graph with
  | nil => exact hstands
  | cons upsert upserts ih =>
    apply ih (hstands.apply (hkeeps upsert List.mem_cons_self)
      (hstep upsert List.mem_cons_self))
    · exact List.forall_mem_of_forall_mem_cons hkeeps
    · exact List.forall_mem_of_forall_mem_cons hstep

/-- The graph keeps one node for each key, and digests with its evidence. -/
def Readable (graph : EvidenceGraph) : Prop := Stands DigestsStored graph

theorem readable_applyUpserts {upserts : List Upsert}
    (hkeeps : ∀ upsert ∈ upserts, upsert.KeepsKeys) :
    Readable (applyUpserts upserts Graph.empty) := by
  have hempty : Stands DigestsStored Graph.empty := by
    refine ⟨KeyedGraph.empty, refines_empty, ?_⟩
    intro logIndex properties hnode
    cases hnode
  apply hempty.applyUpserts hkeeps
  exact fun upsert _ _ hstored => hstored.materialize upsert

theorem readable_sealedGraph (sealings : List (Sealing loader)) :
    Readable (sealedGraph sealings) :=
  readable_applyUpserts fun _ => keepsKeys_sealings

section Properties

variable {graph : EvidenceGraph} {index : ℕ} {label : EntityLabel}

theorem exists_entity {key : NodeKey} (hat : schema.At graph key index)
    (hfits : graph.fitsAt (anyOf (.entity label)) index = true) :
    ∃ id, key = .entity label id := by
  have hlabel := label_of_at hat hfits
  cases key with
  | entity found id =>
    obtain rfl := NodeLabel.entity.inj hlabel
    exact ⟨id, rfl⟩
  | _ => cases hlabel

theorem Readable.exists_id (hreadable : Readable graph)
    (hfits : graph.fitsAt (anyOf (.entity label)) index = true) :
    ∃ id, schema.At graph (.entity label id) index := by
  obtain ⟨materialized, hrefines, -⟩ := hreadable
  obtain ⟨key, hat, -⟩ := exists_key hrefines.keys hfits
  obtain ⟨id, rfl⟩ := exists_entity hat hfits
  exact ⟨id, hat⟩

theorem Readable.exists_logIndex (hreadable : Readable graph)
    (hfits : graph.fitsAt (anyOf .evidence) index = true) :
    ∃ logIndex digest, schema.At graph (.evidence logIndex) index ∧
      property graph index "digest" = some (.text digest) := by
  obtain ⟨materialized, hrefines, hstored⟩ := hreadable
  obtain ⟨key, hat, hlabel⟩ := exists_key hrefines.keys hfits
  cases key with
  | evidence logIndex =>
    obtain ⟨properties, hnode⟩ := Option.isSome_iff_exists.mp
      (hrefines.keys.isSome_node_iff.mpr ⟨index, hat⟩)
    rw [hrefines.view_eq] at hnode
    obtain ⟨digest, hdigest⟩ := hstored logIndex properties hnode
    refine ⟨logIndex, digest, hat, ?_⟩
    rw [property_eq hrefines hat, hnode, Option.bind_some, hdigest]
  | _ => cases hlabel

/-- The source in a row about evidence and its publisher. -/
theorem evidenceSource_of_at {logIndex : Int64} {digest : String}
    {identity : PublisherIdentity} {nodes : (ℕ × ℕ) × ℕ}
    (hevidence : schema.At graph (.evidence logIndex) nodes.1.1)
    (hdigest : property graph nodes.1.1 "digest" = some (.text digest))
    (hpublisher : schema.At graph (.publisher identity) nodes.2) :
    evidenceSource (sourceRow graph nodes) = .ok ⟨logIndex, digest,
      toTime (property graph nodes.1.1 "sealed"), identity⟩ := by
  have hindex : property graph nodes.1.1 "logIndex" =
      some (.integer logIndex) :=
    property_of_at hevidence (by simp [NodeKey.pattern])
  have hissuer : property graph nodes.2 "issuer" =
      some (.text identity.issuer) :=
    property_of_at hpublisher (by simp [NodeKey.pattern])
  have hsub : property graph nodes.2 "sub" = some (.text identity.sub) :=
    property_of_at hpublisher (by simp [NodeKey.pattern])
  simp only [evidenceSource, sourceRow, hindex, hdigest, hissuer, hsub,
    assertInt64, assertString]
  rfl

/-- The nodes of a row have keys, and its evidence a digest. -/
theorem Readable.exists_keys (hreadable : Readable graph)
    {subjectID : String} {nodes : (ℕ × ℕ) × ℕ}
    (hnodes : nodes ∈ publishedNodes graph subjectID label) :
    ∃ logIndex digest id identity,
      schema.At graph (.evidence logIndex) nodes.1.1 ∧
      property graph nodes.1.1 "digest" = some (.text digest) ∧
      schema.At graph (.entity label id) nodes.1.2 ∧
      schema.At graph (.publisher identity) nodes.2 := by
  obtain ⟨⟨subject, -, htargets⟩, hentity, hpublisher⟩ :=
    mem_publishedNodes.mp hnodes
  obtain ⟨logIndex, digest, hevidence, hdigest⟩ :=
    hreadable.exists_logIndex (mem_incoming.mp htargets).2
  obtain ⟨id, hid⟩ := hreadable.exists_id (mem_outgoing.mp hentity).2
  obtain ⟨materialized, hrefines, -⟩ := hreadable
  obtain ⟨identity, hidentity⟩ :=
    exists_publisher hrefines.keys (mem_outgoing.mp hpublisher).2
  exact ⟨logIndex, digest, id, identity, hevidence, hdigest, hid, hidentity⟩

theorem Readable.sourceRow (hreadable : Readable graph) {subjectID : String}
    {row : SourceRow} (hrow : row ∈ sourceRows graph subjectID label) :
    ∃ id source, assertString row.id = .ok id ∧
      evidenceSource row = .ok source := by
  obtain ⟨nodes, hnodes, rfl⟩ := List.mem_map.mp hrow
  obtain ⟨logIndex, digest, id, identity, hevidence, hdigest, hid,
    hidentity⟩ := hreadable.exists_keys hnodes
  refine ⟨id, _, ?_, evidenceSource_of_at hevidence hdigest hidentity⟩
  rw [Graph.sourceRow, (at_entity_iff.mp hid).2, assertString]

end Properties

/-! ## Rows -/

theorem mem_relatedNodes_sealedGraph {near far : ℕ} :
    (near, far) ∈ relatedNodes (sealedGraph sealings) source type target ↔
      ∃ fromID toID, Emitted sealings ⟨fromID, source, toID, target, type⟩ ∧
        schema.At (sealedGraph sealings) (.entity source fromID) near ∧
        schema.At (sealedGraph sealings) (.entity target toID) far := by
  rw [mem_relatedNodes, mem_outgoing, mem_relationships_sealedGraph]
  constructor
  · rintro ⟨hnear, ⟨_, _, hlink, hsource, htarget⟩, hfar⟩
    obtain ⟨fromID, rfl⟩ := exists_entity hsource hnear
    obtain ⟨toID, rfl⟩ := exists_entity htarget hfar
    obtain ⟨edge, hemitted, hfrom, rfl, hto⟩ := link_mem_sealedWrites.mp hlink
    obtain ⟨rfl, rfl⟩ := NodeKey.entity.inj hfrom
    obtain ⟨rfl, rfl⟩ := NodeKey.entity.inj hto
    exact ⟨_, _, hemitted, hsource, htarget⟩
  · rintro ⟨fromID, toID, hemitted, hnear, hfar⟩
    exact ⟨(at_entity_iff.mp hnear).1, ⟨_, _, link_mem_sealedWrites.mpr
      ⟨_, hemitted, rfl, rfl, rfl⟩, hnear, hfar⟩, (at_entity_iff.mp hfar).1⟩

theorem idAmong_of_at {graph : EvidenceGraph} {label : EntityLabel}
    {index : ℕ} (hat : schema.At graph (.entity label id) index) :
    idAmong graph ids index = true ↔ id ∈ ids := by
  rw [idAmong_iff (at_entity_iff.mp hat).1]
  constructor
  · rintro ⟨other, hmem, hother⟩
    obtain ⟨-, rfl⟩ := NodeKey.entity.inj (hat.key_eq hother)
    exact hmem
  · exact fun hmem => ⟨id, hmem, hat⟩

theorem exists_nodes_of_emitted {edge : EdgeRecord}
    (hemitted : Emitted sealings edge) :
    (∃ near, schema.At (sealedGraph sealings)
      (.entity edge.fromLabel edge.fromID) near) ∧
    ∃ far, schema.At (sealedGraph sealings)
      (.entity edge.toLabel edge.toID) far :=
  exists_at_of_link (link_mem_sealedWrites.mpr ⟨edge, hemitted, rfl, rfl, rfl⟩)

theorem mem_incomingRows_sealedGraph {row : LinkRow} :
    row ∈ incomingRows (sealedGraph sealings) source type target ids ↔
      ∃ fromID, ∃ toID ∈ ids,
        Emitted sealings ⟨fromID, source, toID, target, type⟩ ∧
        row = (some (.text toID), some (.text fromID)) := by
  simp only [incomingRows, List.mem_map, List.mem_filter, Prod.exists,
    mem_relatedNodes_sealedGraph]
  constructor
  · rintro ⟨near, far, ⟨⟨fromID, toID, hemitted, hnear, hfar⟩, hamong⟩, rfl⟩
    refine ⟨fromID, toID, (idAmong_of_at hfar).mp hamong, hemitted, ?_⟩
    rw [(at_entity_iff.mp hnear).2, (at_entity_iff.mp hfar).2]
  · rintro ⟨fromID, toID, hmem, hemitted, rfl⟩
    obtain ⟨⟨near, hnear⟩, far, hfar⟩ := exists_nodes_of_emitted hemitted
    refine ⟨near, far, ⟨⟨fromID, toID, hemitted, hnear, hfar⟩,
      (idAmong_of_at hfar).mpr hmem⟩, ?_⟩
    rw [(at_entity_iff.mp hnear).2, (at_entity_iff.mp hfar).2]

theorem mem_outgoingRows_sealedGraph {row : LinkRow} :
    row ∈ outgoingRows (sealedGraph sealings) source type target ids ↔
      ∃ fromID ∈ ids, ∃ toID,
        Emitted sealings ⟨fromID, source, toID, target, type⟩ ∧
        row = (some (.text fromID), some (.text toID)) := by
  simp only [outgoingRows, List.mem_map, List.mem_filter, Prod.exists,
    mem_relatedNodes_sealedGraph]
  constructor
  · rintro ⟨near, far, ⟨⟨fromID, toID, hemitted, hnear, hfar⟩, hamong⟩, rfl⟩
    refine ⟨fromID, (idAmong_of_at hnear).mp hamong, toID, hemitted, ?_⟩
    rw [(at_entity_iff.mp hnear).2, (at_entity_iff.mp hfar).2]
  · rintro ⟨fromID, hmem, toID, hemitted, rfl⟩
    obtain ⟨⟨near, hnear⟩, far, hfar⟩ := exists_nodes_of_emitted hemitted
    refine ⟨near, far, ⟨⟨fromID, toID, hemitted, hnear, hfar⟩,
      (idAmong_of_at hnear).mpr hmem⟩, ?_⟩
    rw [(at_entity_iff.mp hnear).2, (at_entity_iff.mp hfar).2]

variable {subjectID : String} {label : EntityLabel}

/-- Evidence with a subject, an entity and a publisher is in a row. -/
theorem exists_publishedNodes {logIndex : Int64}
    {publisher : PublisherIdentity}
    (htargets : Write.link (.evidence logIndex) .targets
      (.subject subjectID) ∈ sealedWrites sealings)
    (hdefines : Write.link (.evidence logIndex) .defines
      (.entity label id) ∈ sealedWrites sealings)
    (hpublished : Write.link (.evidence logIndex) .publishedBy
      (.publisher publisher) ∈ sealedWrites sealings) :
    ∃ nodes ∈ publishedNodes (sealedGraph sealings) subjectID label,
      schema.At (sealedGraph sealings) (.evidence logIndex) nodes.1.1 ∧
      schema.At (sealedGraph sealings) (.entity label id) nodes.1.2 ∧
      schema.At (sealedGraph sealings) (.publisher publisher) nodes.2 := by
  obtain ⟨⟨evidence, hevidence⟩, subject, hsubject⟩ :=
    exists_at_of_link htargets
  obtain ⟨-, author, hauthor⟩ := exists_at_of_link hpublished
  obtain ⟨-, entity, hentity⟩ := exists_at_of_link hdefines
  refine ⟨((evidence, entity), author), mem_publishedNodes.mpr
    ⟨⟨subject, hsubject, ?_⟩, ?_, ?_⟩, hevidence, hentity, hauthor⟩
  · exact mem_incoming.mpr ⟨mem_relationships_sealedGraph.mpr
      ⟨_, _, htargets, hevidence, hsubject⟩, fitsAt_anyOf hevidence⟩
  · exact mem_outgoing.mpr ⟨mem_relationships_sealedGraph.mpr
      ⟨_, _, hdefines, hevidence, hentity⟩, fitsAt_anyOf hentity⟩
  · exact mem_outgoing.mpr ⟨mem_relationships_sealedGraph.mpr
      ⟨_, _, hpublished, hevidence, hauthor⟩, fitsAt_anyOf hauthor⟩

theorem exists_sourceRow (hmem : sealing ∈ sealings)
    (hdefines : Write.link (.evidence sealing.data.logIndex) .defines
      (.entity label id) ∈ sealedWrites sealings) :
    ∃ row ∈ sourceRows (sealedGraph sealings) sealing.data.subjectID label,
      row.id = some (.text id) := by
  have htargets : Write.link (.evidence sealing.data.logIndex) .targets
      (.subject sealing.data.subjectID) ∈ sealedWrites sealings :=
    evidence_mem_sealedWrites hmem
      (List.mem_cons_of_mem _ List.mem_cons_self)
  have hpublished : Write.link (.evidence sealing.data.logIndex) .publishedBy
      (.publisher sealing.publisher) ∈ sealedWrites sealings :=
    evidence_mem_sealedWrites hmem
      (List.mem_cons_of_mem _ (List.mem_cons_of_mem _ List.mem_cons_self))
  obtain ⟨nodes, hnodes, -, hentity, -⟩ :=
    exists_publishedNodes htargets hdefines hpublished
  exact ⟨_, List.mem_map_of_mem hnodes, (at_entity_iff.mp hentity).2⟩

end Sealings

end ComplyTime.Graph
