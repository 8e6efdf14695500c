import ComplyTime.Graph.ThreatModelEdges

/-!
# Repeated entries in the threat model

`ThreatModel` collects capabilities, threats and controls in maps by their IDs,
so a row for an entity that is already there replaces it.  Vectors are appended
row by row, and a vector has one row for each evidence of the subject that
defines it: the list repeats the vectors that two entries of the subject name.
-/

namespace ComplyTime.Graph

open Cypher Keyed Merging RemoteStore

/-- No entity is listed twice, and no ID twice for one entity. -/
structure ThreatModelResult.Unique (result : ThreatModelResult) : Prop where
  capabilities : (result.capabilities.map ThreatModelCapability.id).Nodup
  introduces : ∀ capability ∈ result.capabilities, capability.introduces.Nodup
  threats : (result.threats.map ThreatModelThreat.id).Nodup
  addressedBy : ∀ threat ∈ result.threats, threat.addressedBy.Nodup
  leverages : ∀ threat ∈ result.threats, threat.leverages.Nodup
  controls : (result.controls.map ThreatModelControl.id).Nodup
  applies : ∀ control ∈ result.controls, control.applies.Nodup
  vectors : (result.vectors.map ThreatModelVector.id).Nodup

/-- The evidence of the log index targets the subject and defines the
vector. -/
def DefinesVector (graph : EvidenceGraph) (subjectID : String)
    (logIndex : Int64) (id : String) : Prop :=
  (schema.view graph).link (.evidence logIndex) .targets
      (.subject subjectID) ∧
    (schema.view graph).link (.evidence logIndex) .defines
      (.entity .vector id)

/-- No vector is defined by two entries of the subject. -/
def VectorsDefinedOnce (graph : EvidenceGraph) (subjectID : String) : Prop :=
  ∀ id first second, DefinesVector graph subjectID first id →
    DefinesVector graph subjectID second id → first = second

/-! ## Maps and lists of links -/

section Lists

/-- The completed entries of a map keep the IDs they are collected by. -/
theorem nodup_completed {Entry : Type} {idOf : Entry → String}
    {complete : String × Entry → Entry}
    (hcomplete : ∀ entry, idOf (complete entry) = idOf entry.2)
    (entries : List Entry) :
    (((mapOf (entries.map fun found => (idOf found, found))).map
      complete).map idOf).Nodup := by
  rw [List.map_map]
  have hkeys : (mapOf (entries.map fun found => (idOf found, found))).map
      (idOf ∘ complete) =
        (mapOf (entries.map fun found => (idOf found, found))).map
          Prod.fst := by
    apply List.map_congr_left
    intro entry hentry
    rw [Function.comp_apply, hcomplete, (mem_entries hentry).1]
  rw [hkeys]
  exact nodup_keys_mapOf _

variable {links : List (String × String)}

theorem nodup_linkedTo (hlinks : links.Nodup) (id : String) :
    (linkedTo links id).Nodup := by
  apply (hlinks.filter _).map_on
  intro left hleft right hright hsame
  have hid := of_decide_eq_true (List.mem_filter.mp hleft).2
  have hid' := of_decide_eq_true (List.mem_filter.mp hright).2
  exact Prod.ext (hid.trans hid'.symm) hsame

theorem nodup_links {linkRows : List LinkRow}
    (hlinks : linkRows.mapM linkOf = .ok links) (hrows : linkRows.Nodup) :
    links.Nodup := by
  have hread : links.map (fun link =>
      (some (PropertyValue.text link.1), some (PropertyValue.text link.2))) =
        linkRows.map id :=
    map_of_mapM (fun hlink => (linkOf_eq_ok.mp hlink).symm) hlinks
  rw [List.map_id] at hread
  rw [← hread] at hrows
  exact hrows.of_map

/-- The list of an entity repeats no ID when the rows are different. -/
theorem nodup_linkedTo_of_rows {linkRows rows : List LinkRow}
    (hlinks : linkRows.mapM linkOf = .ok links) (hperm : linkRows.Perm rows)
    (hrows : rows.Nodup) (id : String) :
    (linkedTo links id).Nodup :=
  nodup_linkedTo (nodup_links hlinks (hperm.nodup_iff.mpr hrows)) id

end Lists

/-! ## Rows -/

section Rows

variable {graph : EvidenceGraph} {subjectID : String} {label : EntityLabel}

section

variable (hreadable : Readable graph)

include hreadable

theorem Readable.eq_of_id {left right : ℕ}
    (hleft : graph.fitsAt (anyOf (.entity label)) left = true)
    (hright : graph.fitsAt (anyOf (.entity label)) right = true)
    (hid : property graph left "id" = property graph right "id") :
    left = right := by
  obtain ⟨id, hat⟩ := hreadable.exists_id hleft
  rw [(at_entity_iff.mp hat).2] at hid
  obtain ⟨materialized, hrefines, -⟩ := hreadable
  exact hrefines.keys.unique hat (at_entity_iff.mpr ⟨hright, hid.symm⟩)

variable {source target : EntityLabel} {type : EdgeType}

/-- The rows of related nodes, whichever end comes first. -/
theorem Readable.nodup_linkRows {keeps : ℕ × ℕ → Bool} {row : ℕ × ℕ → LinkRow}
    (hrow : ∀ {nodes others}, row nodes = row others →
      property graph nodes.1 "id" = property graph others.1 "id" ∧
        property graph nodes.2 "id" = property graph others.2 "id") :
    (((relatedNodes graph source type target).filter keeps).map row).Nodup := by
  apply (nodup_relatedNodes.filter keeps).map_on
  intro left hleft right hright hsame
  obtain ⟨hnear, hfar⟩ := mem_relatedNodes.mp (List.mem_of_mem_filter hleft)
  obtain ⟨hnear', hfar'⟩ := mem_relatedNodes.mp (List.mem_of_mem_filter hright)
  obtain ⟨hids, hids'⟩ := hrow hsame
  exact Prod.ext (hreadable.eq_of_id hnear hnear' hids)
    (hreadable.eq_of_id (mem_outgoing.mp hfar).2 (mem_outgoing.mp hfar').2
      hids')

theorem nodup_outgoingRows {ids : List String} :
    (outgoingRows graph source type target ids).Nodup :=
  hreadable.nodup_linkRows Prod.mk.inj

theorem nodup_incomingRows {ids : List String} :
    (incomingRows graph source type target ids).Nodup :=
  hreadable.nodup_linkRows fun hsame => (Prod.mk.inj hsame).symm

end

theorem nodup_definedNodes (hkeys : schema.Keys graph) :
    (definedNodes graph subjectID label).Nodup := by
  by_cases hsubject : ∃ subject, schema.At graph (.subject subjectID) subject
  · obtain ⟨subject, hat⟩ := hsubject
    rw [definedNodes_eq, hkeys.select_eq hat, List.flatMap_singleton]
    rw [List.nodup_flatMap]
    constructor
    · intro evidence _
      exact nodup_outgoing.map fun _ _ hsame => (Prod.mk.inj hsame).2
    · apply List.Pairwise.imp _ nodup_incoming
      intro left right hne nodes hleft hright
      obtain ⟨_, -, rfl⟩ := List.mem_map.mp hleft
      obtain ⟨_, -, heq⟩ := List.mem_map.mp hright
      exact hne (Prod.mk.inj heq).1.symm
  · rw [definedNodes_eq, select_eq_nil (not_exists.mp hsubject)]
    exact List.nodup_nil

/-- The entries that define a vector are the evidence in its rows. -/
theorem definesVector_iff (hkeys : schema.Keys graph) {logIndex : Int64}
    {id : String} :
    DefinesVector graph subjectID logIndex id ↔
      ∃ evidence vector,
        (evidence, vector) ∈ definedNodes graph subjectID .vector ∧
        schema.At graph (.evidence logIndex) evidence ∧
        schema.At graph (.entity .vector id) vector := by
  constructor
  · rintro ⟨⟨evidence, subject, hevidence, hsubject, htargets⟩,
      same, vector, hsame, hvector, hdefines⟩
    obtain rfl := hkeys.unique hevidence hsame
    refine ⟨evidence, vector, mem_definedNodes.mpr ⟨⟨subject, hsubject, ?_⟩,
      ?_⟩, hevidence, hvector⟩
    · exact mem_incoming.mpr ⟨htargets, fitsAt_anyOf hevidence⟩
    · exact mem_outgoing.mpr ⟨hdefines, fitsAt_anyOf hvector⟩
  · rintro ⟨evidence, vector, hnodes, hevidence, hvector⟩
    obtain ⟨⟨subject, hsubject, htargets⟩, hdefines⟩ :=
      mem_definedNodes.mp hnodes
    exact ⟨⟨evidence, subject, hevidence, hsubject,
        (mem_incoming.mp htargets).1⟩,
      evidence, vector, hevidence, hvector, (mem_outgoing.mp hdefines).1⟩

theorem nodup_vectorIDs_iff (hreadable : Readable graph) :
    ((vectorRows graph subjectID).map Prod.fst).Nodup ↔
      VectorsDefinedOnce graph subjectID := by
  obtain ⟨materialized, hrefines, -⟩ := id hreadable
  have hkeys := hrefines.keys
  rw [vectorRows, List.map_map,
    List.nodup_map_iff_inj_on (nodup_definedNodes hkeys)]
  constructor
  · intro hinjective id first second hfirst hsecond
    obtain ⟨evidence, vector, hnodes, hevidence, hvector⟩ :=
      (definesVector_iff hkeys).mp hfirst
    obtain ⟨evidence', vector', hnodes', hevidence', hvector'⟩ :=
      (definesVector_iff hkeys).mp hsecond
    have hsame := hinjective _ hnodes _ hnodes'
      ((at_entity_iff.mp hvector).2.trans (at_entity_iff.mp hvector').2.symm)
    obtain rfl := (Prod.mk.inj hsame).1
    exact NodeKey.evidence.inj (hevidence.key_eq hevidence')
  · intro honce left hleft right hright hid
    obtain ⟨⟨subject, -, htargets⟩, hdefines⟩ := mem_definedNodes.mp hleft
    obtain ⟨⟨subject', -, htargets'⟩, hdefines'⟩ := mem_definedNodes.mp hright
    have hvector := hreadable.eq_of_id (mem_outgoing.mp hdefines).2
      (mem_outgoing.mp hdefines').2 hid
    obtain ⟨id, hat⟩ := hreadable.exists_id (mem_outgoing.mp hdefines).2
    obtain ⟨first, _, hfirst, -⟩ :=
      hreadable.exists_logIndex (mem_incoming.mp htargets).2
    obtain ⟨second, _, hsecond, -⟩ :=
      hreadable.exists_logIndex (mem_incoming.mp htargets').2
    obtain rfl := honce id first second
      ((definesVector_iff hkeys).mpr ⟨_, _, hleft, hfirst, hat⟩)
      ((definesVector_iff hkeys).mpr ⟨_, _, hright, hsecond, hvector ▸ hat⟩)
    exact Prod.ext (hkeys.unique hfirst hsecond) hvector

end Rows

/-! ## The answer -/

section Answer

variable {graph : EvidenceGraph} {subjectID : String} {rows : ThreatModelRows}
  {result : ThreatModelResult}

/-- The vectors are those of the rows, one for each. -/
theorem nodup_vectors_iff (hreadable : Readable graph)
    (hreturned : rows.Returned graph subjectID)
    {vectors : List ThreatModelVector}
    (hids : vectors.map (fun vector => some (PropertyValue.text vector.id)) =
      rows.vectors.map Prod.fst) :
    (vectors.map ThreatModelVector.id).Nodup ↔
      VectorsDefinedOnce graph subjectID := by
  have htext : Function.Injective fun id : String =>
      some (PropertyValue.text id) := by
    intro left right hsame
    exact PropertyValue.text.inj (Option.some.inj hsame)
  calc (vectors.map ThreatModelVector.id).Nodup
      ↔ (vectors.map fun vector =>
          some (PropertyValue.text vector.id)).Nodup := by
        rw [← List.nodup_map_iff htext, List.map_map]
        rfl
    _ ↔ ((vectorRows graph subjectID).map Prod.fst).Nodup := by
        rw [hids, (hreturned.vectors.map Prod.fst).nodup_iff]
    _ ↔ VectorsDefinedOnce graph subjectID := nodup_vectorIDs_iff hreadable

theorem unique_threatModelResult_iff (hreadable : Readable graph)
    (hreturned : rows.Returned graph subjectID)
    (hresult : threatModelResult subjectID rows = .ok result) :
    result.Unique ↔ VectorsDefinedOnce graph subjectID := by
  obtain ⟨reads, rfl⟩ := exists_reads hresult
  have hlisted := nodup_vectors_iff hreadable hreturned reads.vectors_read
  constructor
  · exact fun hunique => hlisted.mp hunique.vectors
  · intro honce
    constructor
    case capabilities =>
      apply nodup_completed
      exact fun _ => rfl
    case threats =>
      apply nodup_completed
      exact fun _ => rfl
    case controls =>
      apply nodup_completed
      exact fun _ => rfl
    case vectors => exact hlisted.mpr honce
    case introduces =>
      intro shown hshown
      obtain ⟨entry, -, rfl⟩ := List.mem_map.mp hshown
      exact nodup_linkedTo_of_rows reads.introduces_read
        hreturned.introduces (nodup_outgoingRows hreadable) _
    case addressedBy =>
      intro shown hshown
      obtain ⟨entry, -, rfl⟩ := List.mem_map.mp hshown
      exact nodup_linkedTo_of_rows reads.addresses_read
        hreturned.addresses (nodup_incomingRows hreadable) _
    case leverages =>
      intro shown hshown
      obtain ⟨entry, -, rfl⟩ := List.mem_map.mp hshown
      exact nodup_linkedTo_of_rows reads.leverages_read
        hreturned.leverages (nodup_outgoingRows hreadable) _
    case applies =>
      intro shown hshown
      obtain ⟨entry, -, rfl⟩ := List.mem_map.mp hshown
      exact nodup_linkedTo_of_rows reads.applies_read
        hreturned.applies (nodup_outgoingRows hreadable) _

theorem ThreatModelResult.Reordered.symm {assembled : ThreatModelResult}
    (hreordered : result.Reordered assembled) : assembled.Reordered result where
  subjectID := hreordered.subjectID.symm
  capabilities := hreordered.capabilities.symm
  threats := hreordered.threats.symm
  controls := hreordered.controls.symm
  vectors := hreordered.vectors.symm

/-- The order of the maps does not matter. -/
theorem ThreatModelResult.Unique.reordered {assembled : ThreatModelResult}
    (hunique : assembled.Unique) (hreordered : result.Reordered assembled) :
    result.Unique where
  capabilities :=
    (hreordered.capabilities.map _).nodup_iff.mpr hunique.capabilities
  introduces := fun shown hshown =>
    hunique.introduces shown (hreordered.capabilities.mem_iff.mp hshown)
  threats := (hreordered.threats.map _).nodup_iff.mpr hunique.threats
  addressedBy := fun shown hshown =>
    hunique.addressedBy shown (hreordered.threats.mem_iff.mp hshown)
  leverages := fun shown hshown =>
    hunique.leverages shown (hreordered.threats.mem_iff.mp hshown)
  controls := (hreordered.controls.map _).nodup_iff.mpr hunique.controls
  applies := fun shown hshown =>
    hunique.applies shown (hreordered.controls.mem_iff.mp hshown)
  vectors := hreordered.vectors ▸ hunique.vectors

/-- On a graph built by upserts that give no entity another ID, `ThreatModel`
answers for every subject, and the entries of each answer are unique exactly if
no two entries of the subject define the same vector. -/
theorem threatModel_unique_iff (upserts : List Upsert)
    (hkeeps : ∀ upsert ∈ upserts, upsert.KeepsKeys) (subjectID : String) :
    (∃ result, ThreatModel (applyUpserts upserts Graph.empty) subjectID
      (.ok result)) ∧
    ∀ result, ThreatModel (applyUpserts upserts Graph.empty) subjectID
        (.ok result) →
      (result.Unique ↔
        VectorsDefinedOnce (applyUpserts upserts Graph.empty) subjectID) := by
  have hreadable := readable_applyUpserts hkeeps
  constructor
  · obtain ⟨result, hresult⟩ := hreadable.exists_threatModelResult
      (returned_queriedRows _ subjectID)
    exact ⟨result, threatModel_of_result hresult⟩
  · rintro result ⟨rows, hreturned, assembled, hassembled, hreordered⟩
    rw [← unique_threatModelResult_iff hreadable hreturned hassembled]
    exact ⟨fun hunique => hunique.reordered hreordered.symm,
      fun hunique => hunique.reordered hreordered⟩

end Answer

/-! ## One vector, once and twice -/

/-- The threat catalog that leverages a vector, beside two other catalogs. -/
theorem vector_of_one_entry_unique :
    ∃ result, ThreatModel (sealedGraph (threeCatalogs [["V1"]])) "alpha"
        (.ok result) ∧
      result.Unique := by
  have hkeeps : ∀ upsert ∈ (threeCatalogs [["V1"]]).flatMap Sealing.upserts,
      upsert.KeepsKeys := fun _ => keepsKeys_sealings
  obtain ⟨⟨result, hresult⟩, hunique⟩ := threatModel_unique_iff _ hkeeps "alpha"
  refine ⟨result, hresult, (hunique result hresult).mpr ?_⟩
  obtain ⟨materialized, hrefines, -⟩ :=
    readable_sealedGraph (threeCatalogs [["V1"]])
  have hlength : (definedNodes (sealedGraph (threeCatalogs [["V1"]])) "alpha"
      .vector).length = 1 := by
    decide +kernel
  obtain ⟨nodes, hnodes⟩ := List.length_eq_one_iff.mp hlength
  intro id first second hfirst hsecond
  obtain ⟨evidence, vector, hmem, hevidence, -⟩ :=
    (definesVector_iff hrefines.keys).mp hfirst
  obtain ⟨evidence', vector', hmem', hevidence', -⟩ :=
    (definesVector_iff hrefines.keys).mp hsecond
  rw [hnodes, List.mem_singleton] at hmem hmem'
  obtain rfl := (Prod.mk.inj (hmem.trans hmem'.symm)).1
  exact NodeKey.evidence.inj (hevidence.key_eq hevidence')

/-- The threat catalog is sealed again, in another entry of the subject. -/
theorem vector_of_two_entries_repeated :
    ∃ upserts : List Upsert, (∀ upsert ∈ upserts, upsert.KeepsKeys) ∧
      ∃ result, ThreatModel (applyUpserts upserts Graph.empty) "alpha"
          (.ok result) ∧
        result.vectors.map ThreatModelVector.id = ["V1", "V1"] := by
  refine ⟨[sealedCatalog [["V1"]] [1] 0 _ rfl,
    sealedCatalog [["V1"]] [1] 1 _ rfl].flatMap Sealing.upserts,
    fun _ => keepsKeys_sealings, ?_⟩
  have hvectors : ((threatModelResult "alpha" (queriedRows
      (sealedGraph [sealedCatalog [["V1"]] [1] 0 _ rfl,
        sealedCatalog [["V1"]] [1] 1 _ rfl]) "alpha")).map fun result =>
          result.vectors.map ThreatModelVector.id) = .ok ["V1", "V1"] := by
    decide +kernel
  obtain ⟨result, hresult, hlisted⟩ := map_eq_ok hvectors
  exact ⟨result, threatModel_of_result hresult, hlisted⟩

end ComplyTime.Graph
