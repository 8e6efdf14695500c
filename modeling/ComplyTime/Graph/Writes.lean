import ComplyTime.Core.MergeQuery
import ComplyTime.Graph.Handling

/-!
# The writes of the loader

Each upsert comes down to merge writes on node keys, on any graph whatever.
An artifact is a fixed list of upserts, and processing it performs them in
order, up to the first that fails.
-/

namespace ComplyTime.Graph

open Cypher Keyed Merging RemoteStore

abbrev GraphWrite := Write NodeKey String PropertyValue RelationType

abbrev GraphContent := Content NodeLabel String PropertyValue RelationType

/-- The node of a key, which targets a subject and is published by a
publisher. -/
def attributedWrites (key : NodeKey)
    (assignments : List (String × PropertyValue)) (subjectID : String)
    (publisher : PublisherIdentity) : List GraphWrite :=
  [.node key assignments, .link key .targets (.subject subjectID),
    .link key .publishedBy (.publisher publisher)]

def Upsert.writes : Upsert → List GraphWrite
  | .subject subjectID => [.node (.subject subjectID) []]
  | .publisher issuer sub => [.node (.publisher ⟨issuer, sub⟩) []]
  | .ingestedStub digest subjectID issuer sub =>
    attributedWrites (.ingestedStub digest subjectID) [] subjectID
      ⟨issuer, sub⟩
  | .evidence record =>
    attributedWrites (.evidence record.logIndex) record.properties
      record.subjectID record.publisher
  | .entity record =>
    [.node (.entity record.label record.id) record.properties,
      .link (.evidence record.evidenceLogIndex) .defines
        (.entity record.label record.id)]
  | .edge record =>
    [.link (.entity record.fromLabel record.fromID) (.edge record.edgeType)
      (.entity record.toLabel record.toID)]

/-- Some node has the key. -/
def Has (content : GraphContent) (key : NodeKey) : Prop :=
  content.positions schema key ≠ []

/-- What the upsert matches before it merges is there. -/
def Upsert.Found (content : GraphContent) : Upsert → Prop
  | .ingestedStub _ subjectID issuer sub =>
    Has content (.subject subjectID) ∧ Has content (.publisher ⟨issuer, sub⟩)
  | .evidence record =>
    Has content (.subject record.subjectID) ∧
      Has content (.publisher record.publisher)
  | _ => True

variable {key : NodeKey} {upsert : Upsert} {write : GraphWrite}

/-! ## Upserts as writes -/

section Upserts

variable {graph : EvidenceGraph}

variable {first second : NodeKey} {publisher : PublisherIdentity}

theorem mem_rows_matchBoth {row : Unit} {near far : ℕ} :
    ((row, near), far) ∈ ((graph.query.matchNode (schema.pattern
        first)).matchNode (schema.pattern second)).rows ↔
      schema.At graph first near ∧ schema.At graph second far := by
  rw [mem_rows_matchNode, mem_rows_matchNode]
  exact and_congr (and_iff_right (List.mem_singleton.mpr rfl)) Iff.rfl

theorem contentOf_upsertEdge (record : EdgeRecord) :
    contentOf (upsertEdge record graph) =
      run schema (Upsert.edge record).writes (contentOf graph) := by
  have hbinds : BindsBoth schema
      ((graph.query.matchNode (schema.pattern
        (.entity record.fromLabel record.fromID))).matchNode (schema.pattern
          (.entity record.toLabel record.toID)))
      (fun row => row.1.2) Prod.snd
      (.entity record.fromLabel record.fromID)
      (.entity record.toLabel record.toID) := by
    intro near far
    constructor
    · rintro ⟨⟨⟨row, source⟩, target⟩, hrow, rfl, rfl⟩
      exact mem_rows_matchBoth.mp hrow
    · intro hends
      exact ⟨(((), near), far), mem_rows_matchBoth.mpr hends, rfl, rfl⟩
  exact contentOf_mergeRelationship hbinds

theorem contentOf_upsertEntity {record : EntityRecord}
    (hkeeps : (Upsert.entity record).KeepsKeys) :
    contentOf (upsertEntity record graph) =
      run schema (Upsert.entity record).writes (contentOf graph) := by
  let described := (graph.query.mergeNode (schema.pattern
    (.entity record.label record.id))).setProperties Prod.snd record.properties
  have hdescribed : contentOf described.graph = (Write.node (.entity
      record.label record.id) record.properties).apply schema
        (contentOf graph) :=
    contentOf_mergeNode_set (List.cons_ne_nil () [])
  have hrows : ∀ row index, (row, index) ∈ described.rows ↔
      schema.At described.graph (.entity record.label record.id) index := by
    intro row index
    rw [← mem_positions_contentOf, hdescribed,
      mem_positions_node (keepsKey_entity hkeeps)]
    exact mem_rows_mergeNode.trans (and_iff_right (List.mem_singleton.mpr rfl))
  have hbinds : BindsBoth schema (described.matchNode (schema.pattern
      (.evidence record.evidenceLogIndex))) Prod.snd (fun row => row.1.2)
      (.evidence record.evidenceLogIndex) (.entity record.label record.id) := by
    intro near far
    constructor
    · rintro ⟨⟨⟨row, node⟩, evidence⟩, hrow, rfl, rfl⟩
      have hevidence := mem_rows_matchNode.mp hrow
      exact ⟨hevidence.2, (hrows row node).mp hevidence.1⟩
    · rintro ⟨hevidence, hnode⟩
      have hrow := (hrows () far).mpr hnode
      exact ⟨(((), far), near), mem_rows_matchNode.mpr ⟨hrow, hevidence⟩,
        rfl, rfl⟩
  calc contentOf (upsertEntity record graph)
      = (Write.link (.evidence record.evidenceLogIndex) .defines
          (.entity record.label record.id)).apply schema
            (contentOf described.graph) := contentOf_mergeRelationship hbinds
    _ = run schema (Upsert.entity record).writes (contentOf graph) := by
        rw [hdescribed]
        rfl

/-- A node attributed to a subject and a publisher, over rows that bind all
nodes of the three keys. -/
theorem contentOf_attribute
    {table : Table NodeLabel String PropertyValue RelationType
      (((Unit × ℕ) × ℕ) × ℕ)} {subjectID : String}
    (hrows : ∀ row near middle far,
      (((row, near), middle), far) ∈ table.rows ↔
        (schema.At table.graph (.subject subjectID) near ∧
          schema.At table.graph (.publisher publisher) middle) ∧
        schema.At table.graph key far)
    (hsubject : ∃ index, schema.At table.graph (.subject subjectID) index)
    (hpublisher : ∃ index, schema.At table.graph (.publisher publisher) index) :
    contentOf
      ((table.mergeRelationship (fun (_, node) => node) .targets
        (fun (((_, subject), _), _) => subject)).mergeRelationship
          (fun (_, node) => node) .publishedBy
          (fun ((_, publisher), _) => publisher)).graph =
      run schema [.link key .targets (.subject subjectID),
        .link key .publishedBy (.publisher publisher)]
        (contentOf table.graph) := by
  have htargets : BindsBoth schema table (fun (_, node) => node)
      (fun (((_, subject), _), _) => subject) key (.subject subjectID) := by
    intro near far
    constructor
    · rintro ⟨⟨⟨⟨row, subject⟩, middle⟩, node⟩, hrow, rfl, rfl⟩
      have hat := (hrows row subject middle node).mp hrow
      exact ⟨hat.2, hat.1.1⟩
    · rintro ⟨hnode, hfar⟩
      obtain ⟨middle, hmiddle⟩ := hpublisher
      exact ⟨((((), far), middle), near),
        (hrows () far middle near).mpr ⟨⟨hfar, hmiddle⟩, hnode⟩, rfl, rfl⟩
  have htargeted : contentOf (table.mergeRelationship (fun (_, node) => node)
      .targets (fun (((_, subject), _), _) => subject)).graph =
        (Write.link key .targets (.subject subjectID)).apply schema
          (contentOf table.graph) := contentOf_mergeRelationship htargets
  have hat : ∀ other index,
      schema.At (table.mergeRelationship (fun (_, node) => node) .targets
        (fun (((_, subject), _), _) => subject)).graph other index ↔
      schema.At table.graph other index := by
    intro other index
    rw [← mem_positions_contentOf, ← mem_positions_contentOf, htargeted]
    rfl
  have hpublished : BindsBoth schema
      (table.mergeRelationship (fun (_, node) => node) .targets
        (fun (((_, subject), _), _) => subject)) (fun (_, node) => node)
      (fun ((_, publisher), _) => publisher) key (.publisher publisher) := by
    intro near far
    rw [hat, hat]
    constructor
    · rintro ⟨⟨⟨⟨row, subject⟩, middle⟩, node⟩, hrow, rfl, rfl⟩
      have hat := (hrows row subject middle node).mp hrow
      exact ⟨hat.2, hat.1.2⟩
    · rintro ⟨hnode, hfar⟩
      obtain ⟨subject, hsubject⟩ := hsubject
      exact ⟨((((), subject), far), near),
        (hrows () subject far near).mpr ⟨⟨hsubject, hfar⟩, hnode⟩, rfl, rfl⟩
  rw [contentOf_mergeRelationship hpublished, htargeted]
  rfl

theorem has_iff :
    Has (contentOf graph) key ↔ ∃ index, schema.At graph key index := by
  rw [Has, ← List.length_pos_iff, List.length_pos_iff_exists_mem]
  simp only [mem_positions_contentOf]

/-- A query that matches the subject and the publisher and then merges the
node of a key. -/
theorem contentOf_attributed {assignments : List (String × PropertyValue)}
    {subjectID : String}
    {table : Table NodeLabel String PropertyValue RelationType
      (((Unit × ℕ) × ℕ) × ℕ)} (hkeeps : schema.KeepsKey key assignments)
    (hsubject : Has (contentOf graph) (.subject subjectID))
    (hpublisher : Has (contentOf graph) (.publisher publisher))
    (hrows : table.rows = (((graph.query.matchNode (schema.pattern
      (.subject subjectID))).matchNode (schema.pattern
        (.publisher publisher))).mergeNode (schema.pattern key)).rows)
    (hmerged : contentOf table.graph =
      (Write.node key assignments).apply schema (contentOf graph)) :
    contentOf
      ((table.mergeRelationship (fun (_, node) => node) .targets
        (fun (((_, subject), _), _) => subject)).mergeRelationship
          (fun (_, node) => node) .publishedBy
          (fun ((_, publisher), _) => publisher)).graph =
      run schema (attributedWrites key assignments subjectID publisher)
        (contentOf graph) := by
  have hkept : ∀ {other : NodeKey}, Has (contentOf graph) other → ∀ index,
      schema.At table.graph other index ↔ schema.At graph other index := by
    intro other hother index
    have hstay : ((Write.node key assignments).apply schema
        (contentOf graph)).positions schema other =
          (contentOf graph).positions schema other :=
      positions_apply hkeeps hother
    rw [← mem_positions_contentOf, hmerged, hstay, mem_positions_contentOf]
  have hnode : ∀ index, schema.At table.graph key index ↔
      schema.At (graph.merge (schema.pattern key)).1 key index := by
    intro index
    rw [← mem_positions_contentOf, hmerged, mem_positions_node hkeeps]
  have hbound : ∀ row near middle far,
      (((row, near), middle), far) ∈ table.rows ↔
        (schema.At table.graph (.subject subjectID) near ∧
          schema.At table.graph (.publisher publisher) middle) ∧
        schema.At table.graph key far := by
    intro row near middle far
    rw [hrows, hkept hsubject, hkept hpublisher, hnode, ← mem_rows_matchBoth]
    exact mem_rows_mergeNode
  obtain ⟨subject, hsubjectAt⟩ := has_iff.mp hsubject
  obtain ⟨author, hauthorAt⟩ := has_iff.mp hpublisher
  rw [contentOf_attribute hbound
    ⟨subject, (hkept hsubject subject).mpr hsubjectAt⟩
    ⟨author, (hkept hpublisher author).mpr hauthorAt⟩, hmerged]
  rfl

theorem matchBoth_ne_nil (hfirst : Has (contentOf graph) first)
    (hsecond : Has (contentOf graph) second) :
    ((graph.query.matchNode (schema.pattern first)).matchNode
      (schema.pattern second)).rows ≠ [] := by
  obtain ⟨near, hnear⟩ := has_iff.mp hfirst
  obtain ⟨far, hfar⟩ := has_iff.mp hsecond
  have hmem : (((), near), far) ∈ ((graph.query.matchNode (schema.pattern
      first)).matchNode (schema.pattern second)).rows :=
    mem_rows_matchBoth.mpr ⟨hnear, hfar⟩
  exact List.ne_nil_of_mem hmem

theorem contentOf_upsertEvidence {record : EvidenceRecord}
    (hfound : (Upsert.evidence record).Found (contentOf graph)) :
    contentOf (upsertEvidence record graph) =
      run schema (Upsert.evidence record).writes (contentOf graph) := by
  have hmerged : contentOf ((((graph.query.matchNode (schema.pattern
      (.subject record.subjectID))).matchNode (schema.pattern
        (.publisher record.publisher))).mergeNode (schema.pattern
          (.evidence record.logIndex))).setProperties Prod.snd
            record.properties).graph =
      (Write.node (.evidence record.logIndex) record.properties).apply schema
        (contentOf graph) :=
    contentOf_mergeNode_set (matchBoth_ne_nil hfound.1 hfound.2)
  exact contentOf_attributed (keepsKey_evidence record) hfound.1 hfound.2 rfl
    hmerged

theorem keepsKey_nil (key : NodeKey) : schema.KeepsKey key [] := by
  intro node hfits
  exact hfits

theorem contentOf_upsertIngestedStub {digest subjectID issuer sub : String}
    (hfound : (Upsert.ingestedStub digest subjectID issuer sub).Found
      (contentOf graph)) :
    contentOf (upsertIngestedStub digest subjectID issuer sub graph) =
      run schema (Upsert.ingestedStub digest subjectID issuer sub).writes
        (contentOf graph) := by
  have hmerged : contentOf (((graph.query.matchNode (schema.pattern
      (.subject subjectID))).matchNode (schema.pattern
        (.publisher ⟨issuer, sub⟩))).mergeNode (schema.pattern
          (.ingestedStub digest subjectID))).graph =
      (Write.node (.ingestedStub digest subjectID) []).apply schema
        (contentOf graph) :=
    contentOf_mergeNode (matchBoth_ne_nil hfound.1 hfound.2)
  exact contentOf_attributed (keepsKey_nil _) hfound.1 hfound.2 rfl hmerged

theorem contentOf_ensure (key : NodeKey) :
    contentOf (graph.query.mergeNode (schema.pattern key)).graph =
      run schema [.node key []] (contentOf graph) :=
  contentOf_mergeNode (List.cons_ne_nil () [])

theorem contentOf_apply (hkeeps : upsert.KeepsKeys)
    (hfound : upsert.Found (contentOf graph)) :
    contentOf (upsert.apply graph) =
      run schema upsert.writes (contentOf graph) := by
  cases upsert with
  | subject subjectID => exact contentOf_ensure (.subject subjectID)
  | publisher issuer sub => exact contentOf_ensure (.publisher ⟨issuer, sub⟩)
  | ingestedStub digest subjectID issuer sub =>
    exact contentOf_upsertIngestedStub hfound
  | evidence record => exact contentOf_upsertEvidence hfound
  | entity record => exact contentOf_upsertEntity hkeeps
  | edge record => exact contentOf_upsertEdge record

end Upserts

/-! ## Lists of upserts -/

/-- Every upsert finds what it matches when its turn comes. -/
def FoundAll : List Upsert → GraphContent → Prop
  | [], _ => True
  | upsert :: upserts, content =>
    upsert.Found content ∧ FoundAll upserts (run schema upsert.writes content)

def writesOf (upserts : List Upsert) : List GraphWrite :=
  upserts.flatMap Upsert.writes

def applyUpserts (upserts : List Upsert) (graph : EvidenceGraph) :
    EvidenceGraph :=
  applyAll (upserts.map Upsert.apply) graph

section Lists

variable {upserts later : List Upsert} {graph : EvidenceGraph}
  {content : GraphContent}

theorem keepsKeys_writes (hkeeps : upsert.KeepsKeys)
    (hmem : write ∈ upsert.writes) : write.KeepsKeys schema := by
  cases upsert with
  | subject subjectID =>
    obtain rfl := List.mem_singleton.mp hmem
    exact keepsKey_nil _
  | publisher issuer sub =>
    obtain rfl := List.mem_singleton.mp hmem
    exact keepsKey_nil _
  | ingestedStub digest subjectID issuer sub =>
    simp only [Upsert.writes, attributedWrites, List.mem_cons,
      List.not_mem_nil, or_false] at hmem
    rcases hmem with rfl | rfl | rfl
    · exact keepsKey_nil _
    · trivial
    · trivial
  | evidence record =>
    simp only [Upsert.writes, attributedWrites, List.mem_cons,
      List.not_mem_nil, or_false] at hmem
    rcases hmem with rfl | rfl | rfl
    · exact keepsKey_evidence record
    · trivial
    · trivial
  | entity record =>
    simp only [Upsert.writes, List.mem_cons, List.not_mem_nil, or_false]
      at hmem
    rcases hmem with rfl | rfl
    · exact keepsKey_entity hkeeps
    · trivial
  | edge record =>
    obtain rfl := List.mem_singleton.mp hmem
    trivial

theorem keepsKeys_writesOf (hkeeps : ∀ upsert ∈ upserts, upsert.KeepsKeys)
    (hmem : write ∈ writesOf upserts) :
    write.KeepsKeys schema := by
  obtain ⟨upsert, hupsert, hwrite⟩ := List.mem_flatMap.mp hmem
  exact keepsKeys_writes (hkeeps upsert hupsert) hwrite

theorem foundAll_append :
    FoundAll (upserts ++ later) content ↔
      FoundAll upserts content ∧
        FoundAll later (run schema (writesOf upserts) content) := by
  induction upserts generalizing content with
  | nil => simp [FoundAll, writesOf, run]
  | cons upsert upserts ih =>
    simp only [List.cons_append, FoundAll, ih, and_assoc, writesOf,
      List.flatMap_cons, run_append]

theorem foundAll_of_forall
    (hfound : ∀ upsert ∈ upserts, ∀ content, upsert.Found content) :
    FoundAll upserts content := by
  induction upserts generalizing content with
  | nil => trivial
  | cons upsert upserts ih =>
    apply And.intro (hfound upsert List.mem_cons_self content)
    exact ih (List.forall_mem_of_forall_mem_cons hfound)

theorem writesOf_append :
    writesOf (upserts ++ later) = writesOf upserts ++ writesOf later :=
  List.flatMap_append

theorem applyUpserts_cons :
    applyUpserts (upsert :: upserts) graph =
      applyUpserts upserts (upsert.apply graph) := rfl

theorem applyUpserts_append :
    applyUpserts (upserts ++ later) graph =
      applyUpserts later (applyUpserts upserts graph) := by
  rw [applyUpserts, List.map_append, applyAll_append]
  rfl

theorem contentOf_applyUpserts (hkeeps : ∀ upsert ∈ upserts, upsert.KeepsKeys)
    (hfound : FoundAll upserts (contentOf graph)) :
    contentOf (applyUpserts upserts graph) =
      run schema (writesOf upserts) (contentOf graph) := by
  induction upserts generalizing graph with
  | nil => rfl
  | cons upsert upserts ih =>
    have hfirst := contentOf_apply (hkeeps upsert List.mem_cons_self)
      hfound.1
    have hrest : contentOf (applyUpserts upserts (upsert.apply graph)) =
        run schema (writesOf upserts) (contentOf (upsert.apply graph)) := by
      apply ih
      · exact List.forall_mem_of_forall_mem_cons hkeeps
      · rw [hfirst]
        exact hfound.2
    calc contentOf (applyUpserts upserts (upsert.apply graph))
        = run schema (writesOf upserts)
            (contentOf (upsert.apply graph)) := hrest
      _ = run schema (writesOf upserts)
            (run schema upsert.writes (contentOf graph)) := by rw [hfirst]
      _ = run schema (writesOf (upsert :: upserts)) (contentOf graph) := by
          rw [writesOf, writesOf, List.flatMap_cons, run_append]

end Lists

/-! ## Artifacts -/

/-- The stubs of both ends of an edge, then the edge. -/
def edgeUpserts (logIndex : Int64) (edge : EdgeRecord) : List Upsert :=
  [.entity (stubEntity edge.fromID edge.fromLabel logIndex),
    .entity (stubEntity edge.toID edge.toLabel logIndex), .edge edge]

/-- Everything `processArtifact` writes of an artifact. -/
def ParsedArtifact.upserts (parsed : ParsedArtifact) (logIndex : Int64) :
    List Upsert :=
  parsed.entities.map Upsert.entity ++
    parsed.edges.flatMap (edgeUpserts logIndex)

section Artifacts

variable {loader : Loader} {artifactType : String} {data : Bytes}
  {logIndex : Int64} {parsed : ParsedArtifact} {content : GraphContent}

theorem call_performs (context : String) (upsert : Upsert) :
    Performs (within context (call upsert)) [upsert.apply] :=
  (Performs.write upsert.apply).mapError _

theorem processArtifact_performs
    (hparsed : parseArtifact loader.decoders artifactType data logIndex =
      .ok parsed) :
    Performs (processArtifact loader artifactType data logIndex)
      ((parsed.upserts logIndex).map Upsert.apply) := by
  have hentities : Performs (parsed.entities.forM processEntity)
      (parsed.entities.flatMap fun entity => [(Upsert.entity entity).apply]) :=
    Performs.forM fun entity => call_performs _ (.entity entity)
  have hedges : Performs (parsed.edges.forM (processEdge logIndex))
      (parsed.edges.flatMap fun edge =>
        (edgeUpserts logIndex edge).map Upsert.apply) :=
    Performs.forM fun edge =>
      (call_performs _ _).bind ((call_performs _ _).bind (call_performs _ _))
  have hupdates : (parsed.upserts logIndex).map Upsert.apply =
      (parsed.entities.flatMap fun entity =>
        [(Upsert.entity entity).apply]) ++
        parsed.edges.flatMap fun edge =>
          (edgeUpserts logIndex edge).map Upsert.apply := by
    rw [ParsedArtifact.upserts, List.map_append, List.map_map,
      List.map_flatMap, List.map_eq_flatMap]
    rfl
  rw [hupdates, processArtifact, hparsed]
  exact Performs.compute (hentities.bind hedges)

variable {entity : EntityRecord}

theorem evidenceLogIndex_of_parseArtifact
    (hparsed : parseArtifact loader.decoders artifactType data logIndex =
      .ok parsed) (hmem : entity ∈ parsed.entities) :
    entity.evidenceLogIndex = logIndex := by
  rcases parseArtifact_cases hparsed with
    ⟨catalog, rfl⟩ | ⟨catalog, rfl⟩ | ⟨catalog, rfl⟩ | rfl
  · obtain ⟨control, _, rfl⟩ := List.mem_map.mp hmem
    rfl
  · obtain ⟨threat, _, rfl⟩ := List.mem_map.mp hmem
    rfl
  · obtain ⟨capability, _, rfl⟩ := List.mem_map.mp hmem
    rfl
  · cases hmem

/-- The upserts of an artifact: its entities, and the stubs and edges of its
references. -/
theorem mem_upserts :
    upsert ∈ parsed.upserts logIndex ↔
      (∃ entity ∈ parsed.entities, upsert = .entity entity) ∨
      ∃ edge ∈ parsed.edges, upsert ∈ edgeUpserts logIndex edge := by
  rw [ParsedArtifact.upserts, List.mem_append, List.mem_map, List.mem_flatMap]
  simp only [eq_comm]

theorem keepsKeys_edgeUpserts {edge : EdgeRecord}
    (hmem : upsert ∈ edgeUpserts logIndex edge) : upsert.KeepsKeys := by
  simp only [edgeUpserts, List.mem_cons, List.not_mem_nil, or_false] at hmem
  rcases hmem with rfl | rfl | rfl
  · exact keepsKeys_stubEntity edge.fromID edge.fromLabel
  · exact keepsKeys_stubEntity edge.toID edge.toLabel
  · trivial

theorem keepsKeys_upserts
    (hparsed : parseArtifact loader.decoders artifactType data logIndex =
      .ok parsed) (hmem : upsert ∈ parsed.upserts logIndex) :
    upsert.KeepsKeys := by
  rcases mem_upserts.mp hmem with ⟨entity, hentity, rfl⟩ | ⟨edge, _, hedge⟩
  · exact keepsKeys_of_parseArtifact hparsed hentity
  · exact keepsKeys_edgeUpserts hedge

theorem Has.apply (hhas : Has content key) (hkeeps : write.KeepsKeys schema) :
    Has (write.apply schema content) key := by
  rw [Has, positions_apply hkeeps hhas]
  exact hhas

theorem Has.run {writes : List GraphWrite} (hhas : Has content key)
    (hkeeps : ∀ write ∈ writes, write.KeepsKeys schema) :
    Has (Merging.run schema writes content) key := by
  rw [Has, positions_run hkeeps hhas]
  exact hhas

theorem has_node {assignments : List (String × PropertyValue)}
    (hkeeps : schema.KeepsKey key assignments) :
    Has ((Write.node key assignments).apply schema content) key := by
  have hready : (Write.node key assignments : GraphWrite).Ready schema
      content := trivial
  exact hready.done hkeeps

/-- An entity is written and defined by its evidence. -/
theorem readyAll_entity (hkeeps : (Upsert.entity entity).KeepsKeys)
    (hevidence : Has content (.evidence entity.evidenceLogIndex)) :
    ReadyAll schema (Upsert.entity entity).writes content :=
  ⟨trivial, ⟨hevidence.apply (keepsKey_entity hkeeps),
    has_node (keepsKey_entity hkeeps)⟩, trivial⟩

theorem has_entity (hkeeps : (Upsert.entity entity).KeepsKeys) :
    Has (run schema (Upsert.entity entity).writes content)
      (.entity entity.label entity.id) :=
  has_node (keepsKey_entity hkeeps)

theorem readyAll_edge {edge : EdgeRecord}
    (hevidence : Has content (.evidence logIndex)) :
    ReadyAll schema (writesOf (edgeUpserts logIndex edge)) content := by
  have hsource : ∀ write ∈ (Upsert.entity (stubEntity edge.fromID
      edge.fromLabel logIndex)).writes, write.KeepsKeys schema :=
    fun write => keepsKeys_writes (keepsKeys_stubEntity _ _)
  have htarget : ∀ write ∈ (Upsert.entity (stubEntity edge.toID
      edge.toLabel logIndex)).writes, write.KeepsKeys schema :=
    fun write => keepsKeys_writes (keepsKeys_stubEntity _ _)
  rw [writesOf, edgeUpserts, List.flatMap_cons, readyAll_append]
  apply And.intro (readyAll_entity (keepsKeys_stubEntity _ _) hevidence)
  rw [List.flatMap_cons, readyAll_append]
  apply And.intro (readyAll_entity (keepsKeys_stubEntity _ _)
    (hevidence.run hsource))
  have hfrom : Has (run schema (Upsert.entity (stubEntity edge.fromID
      edge.fromLabel logIndex)).writes content)
        (.entity edge.fromLabel edge.fromID) :=
    has_entity (keepsKeys_stubEntity _ _)
  exact ⟨⟨hfrom.run htarget, has_entity (keepsKeys_stubEntity _ _)⟩, trivial⟩

theorem readyAll_upserts
    (hparsed : parseArtifact loader.decoders artifactType data logIndex =
      .ok parsed) (hevidence : Has content (.evidence logIndex)) :
    ReadyAll schema (writesOf (parsed.upserts logIndex)) content := by
  have hentities : ∀ entity ∈ parsed.entities, ∀ write ∈
      (Upsert.entity entity).writes, write.KeepsKeys schema :=
    fun entity hentity write =>
      keepsKeys_writes (keepsKeys_of_parseArtifact hparsed hentity)
  have hedges : ∀ edge ∈ parsed.edges, ∀ write ∈
      writesOf (edgeUpserts logIndex edge), write.KeepsKeys schema :=
    fun edge _ write => keepsKeys_writesOf fun _ => keepsKeys_edgeUpserts
  rw [writesOf, ParsedArtifact.upserts, List.flatMap_append, List.flatMap_map,
    List.flatMap_assoc, readyAll_append]
  constructor
  · apply readyAll_flatMap hentities _ hevidence
    intro entity hentity current hcurrent
    apply readyAll_entity (keepsKeys_of_parseArtifact hparsed hentity)
    rw [evidenceLogIndex_of_parseArtifact hparsed hentity]
    exact hcurrent
  · apply readyAll_flatMap hedges
    · exact fun edge _ current => readyAll_edge
    · apply hevidence.run
      intro write hmem
      obtain ⟨entity, hentity, hwrite⟩ := List.mem_flatMap.mp hmem
      exact hentities entity hentity write hwrite

theorem found_of_mem_upserts (hmem : upsert ∈ parsed.upserts logIndex) :
    upsert.Found content := by
  rcases mem_upserts.mp hmem with ⟨entity, _, rfl⟩ | ⟨edge, _, hedge⟩
  · trivial
  · simp only [edgeUpserts, List.mem_cons, List.not_mem_nil, or_false] at hedge
    rcases hedge with rfl | rfl | rfl
    · trivial
    · trivial
    · trivial

end Artifacts

end ComplyTime.Graph
