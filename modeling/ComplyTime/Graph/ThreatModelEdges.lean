import ComplyTime.Graph.EvidenceQuery
import ComplyTime.Graph.SealedGraph

/-!
# Edges in the threat model

The parser chooses the labels and the direction of each edge, and `ThreatModel`
names them again in its queries.  The two agree on `ADDRESSES` and
`INTRODUCES`.  A `LEVERAGES` edge leads from a threat to a vector, while the
query follows it from a threat to a capability: no such edge is ever shown.
-/

namespace ComplyTime.Graph

open Cypher Keyed Merging RemoteStore

variable {Entry : Type} {sources : List SourceRow}

/-! ## What a result shows of its rows -/

section Results

variable {subjectID : String} {rows : ThreatModelRows}
  {result : ThreatModelResult}

theorem linkOf_eq_ok {row : LinkRow} {id other : String} :
    linkOf row = .ok (id, other) ↔
      row = (some (.text id), some (.text other)) := by
  constructor
  · intro hlink
    obtain ⟨_, hid, hrest⟩ := bind_eq_ok hlink
    obtain ⟨_, hother, hpure⟩ := bind_eq_ok hrest
    obtain ⟨rfl, rfl⟩ := Prod.mk.inj (Except.ok.inj hpure)
    exact Prod.ext (assertString_eq_ok hid) (assertString_eq_ok hother)
  · rintro rfl
    rfl

theorem mem_linkedTo {linkRows : List LinkRow}
    {links : List (String × String)} (hlinks : linkRows.mapM linkOf = .ok links)
    {id other : String} :
    other ∈ linkedTo links id ↔
      (some (.text id), some (.text other)) ∈ linkRows := by
  have hlinked : other ∈ linkedTo links id ↔ (id, other) ∈ links := by
    simp [linkedTo]
  rw [hlinked]
  constructor
  · intro hmem
    obtain ⟨row, hrow, hlink⟩ := exists_of_mem_mapM hlinks hmem
    rwa [linkOf_eq_ok.mp hlink] at hrow
  · intro hrow
    obtain ⟨link, hlink, heq⟩ := mapM_eq_ok_mem hlinks hrow
    obtain rfl := Except.ok.inj heq
    exact hlink

variable {idOf : Entry → String}

theorem mem_entries {entries : List Entry} {entry : String × Entry}
    (hentry : entry ∈ mapOf (entries.map fun found => (idOf found, found))) :
    idOf entry.2 = entry.1 ∧ entry.2 ∈ entries := by
  obtain ⟨found, hfound, rfl⟩ := List.mem_map.mp (mem_of_mem_mapOf hentry)
  exact ⟨rfl, hfound⟩

theorem mem_idsOf {id : String} :
    id ∈ idsOf sources ↔ ∃ row ∈ sources, row.id = some (.text id) := by
  rw [idsOf, List.mem_filterMap]
  constructor
  · rintro ⟨row, hrow, hid⟩
    exact ⟨row, hrow, eq_text_of_assertString hid⟩
  · rintro ⟨row, hrow, hid⟩
    refine ⟨row, hrow, ?_⟩
    rw [hid]
    rfl

/-- An entry has the ID and the source of its row. -/
def ReadsRow {Entry : Type} (build : SourceRow → Outcome Entry)
    (idOf : Entry → String) (sourceOf : Entry → EvidenceSource) : Prop :=
  ∀ row entry, build row = .ok entry →
    assertString row.id = .ok (idOf entry) ∧
      evidenceSource row = .ok (sourceOf entry)

variable {build : SourceRow → Outcome Entry} {sourceOf : Entry → EvidenceSource}

/-- The three kinds of entries are read in the same two steps. -/
theorem readsRow_of_steps {make : SourceRow → String → EvidenceSource → Entry}
    (hbuild : ∀ row, build row = do
      let id ← assertString row.id
      let source ← evidenceSource row
      return make row id source)
    (hmake : ∀ row id source, idOf (make row id source) = id ∧
      sourceOf (make row id source) = source) :
    ReadsRow build idOf sourceOf := by
  intro row entry hbuilt
  rw [hbuild] at hbuilt
  obtain ⟨id, hid, hrest⟩ := bind_eq_ok hbuilt
  obtain ⟨source, hsource, hpure⟩ := bind_eq_ok hrest
  obtain rfl := Except.ok.inj hpure
  rw [(hmake row id source).1, (hmake row id source).2]
  exact ⟨hid, hsource⟩

theorem readsRow_capabilityOf : ReadsRow capabilityOf
    ThreatModelCapability.id ThreatModelCapability.source :=
  readsRow_of_steps (fun _ => rfl) fun _ _ _ => ⟨rfl, rfl⟩

theorem readsRow_threatOf : ReadsRow threatOf ThreatModelThreat.id
    ThreatModelThreat.source :=
  readsRow_of_steps (fun _ => rfl) fun _ _ _ => ⟨rfl, rfl⟩

theorem readsRow_controlOf : ReadsRow controlOf ThreatModelControl.id
    ThreatModelControl.source :=
  readsRow_of_steps (fun _ => rfl) fun _ _ _ => ⟨rfl, rfl⟩

/-- The IDs of the completed entities are those of the rows they are built
from. -/
theorem ids_completed {complete : String × Entry → Entry}
    (hreads : ReadsRow build idOf sourceOf)
    (hcomplete : ∀ entry, idOf (complete entry) = idOf entry.2)
    {entries : List Entry} (hentries : sources.mapM build = .ok entries)
    {id : String} :
    (∃ shown ∈ (mapOf (entries.map fun found =>
      (idOf found, found))).map complete, idOf shown = id) ↔
        id ∈ idsOf sources := by
  rw [mem_idsOf]
  constructor
  · rintro ⟨_, hshown, rfl⟩
    obtain ⟨entry, hentry, rfl⟩ := List.mem_map.mp hshown
    obtain ⟨row, hrow, hbuilt⟩ :=
      exists_of_mem_mapM hentries (mem_entries hentry).2
    refine ⟨row, hrow, ?_⟩
    rw [assertString_eq_ok (hreads row entry.2 hbuilt).1, hcomplete]
  · rintro ⟨row, hrow, hid⟩
    obtain ⟨found, hfound, hbuilt⟩ := mapM_eq_ok_mem hentries hrow
    rw [assertString_eq_ok (hreads row found hbuilt).1] at hid
    obtain rfl := PropertyValue.text.inj (Option.some.inj hid)
    have hassigned : (idOf found, found) ∈
        entries.map fun found => (idOf found, found) :=
      List.mem_map_of_mem hfound
    obtain ⟨entry, hentry, hkey⟩ := exists_mem_mapOf hassigned
    refine ⟨complete entry, List.mem_map_of_mem hentry, ?_⟩
    rw [hcomplete, (mem_entries hentry).1, hkey]

/-- What the loops of `ThreatModel` read from their rows. -/
structure ThreatModelReads (rows : ThreatModelRows) where
  capabilities : List ThreatModelCapability
  capabilities_read : rows.capabilities.mapM capabilityOf = .ok capabilities
  introduces : List (String × String)
  introduces_read : rows.introduces.mapM linkOf = .ok introduces
  threats : List ThreatModelThreat
  threats_read : rows.threats.mapM threatOf = .ok threats
  addresses : List (String × String)
  addresses_read : rows.addresses.mapM linkOf = .ok addresses
  leverages : List (String × String)
  leverages_read : rows.leverages.mapM linkOf = .ok leverages
  controls : List ThreatModelControl
  controls_read : rows.controls.mapM controlOf = .ok controls
  applies : List (String × String)
  applies_read : rows.applies.mapM linkOf = .ok applies
  vectors : List ThreatModelVector
  vectors_read : vectors.map
      (fun vector => some (PropertyValue.text vector.id)) =
    rows.vectors.map Prod.fst

/-- The maps filled from what was read. -/
def ThreatModelReads.assembled (reads : ThreatModelReads rows)
    (subjectID : String) : ThreatModelResult where
  subjectID := subjectID
  capabilities := (mapOf (reads.capabilities.map fun capability =>
    (capability.id, capability))).map fun entry =>
      { entry.2 with introduces := linkedTo reads.introduces entry.1 }
  threats := (mapOf (reads.threats.map fun threat =>
    (threat.id, threat))).map fun entry => { entry.2 with
      addressedBy := linkedTo reads.addresses entry.1
      leverages := linkedTo reads.leverages entry.1 }
  controls := (mapOf (reads.controls.map fun control =>
    (control.id, control))).map fun entry =>
      { entry.2 with applies := linkedTo reads.applies entry.1 }
  vectors := reads.vectors

theorem exists_reads (hresult : threatModelResult subjectID rows = .ok result) :
    ∃ reads : ThreatModelReads rows, result = reads.assembled subjectID := by
  obtain ⟨capabilities, hcapabilities, hresult⟩ := bind_eq_ok hresult
  obtain ⟨introduces, hintroduces, hresult⟩ := bind_eq_ok hresult
  obtain ⟨threats, hthreats, hresult⟩ := bind_eq_ok hresult
  obtain ⟨addresses, haddresses, hresult⟩ := bind_eq_ok hresult
  obtain ⟨leverages, hleverages, hresult⟩ := bind_eq_ok hresult
  obtain ⟨controls, hcontrols, hresult⟩ := bind_eq_ok hresult
  obtain ⟨applies, happlies, hresult⟩ := bind_eq_ok hresult
  obtain ⟨vectors, hvectors, hresult⟩ := bind_eq_ok hresult
  have hids : vectors.map (fun vector => some (PropertyValue.text vector.id)) =
      rows.vectors.map Prod.fst := by
    apply map_of_mapM _ hvectors
    intro row vector hvector
    obtain ⟨id, hid, hpure⟩ := bind_eq_ok hvector
    obtain rfl := Except.ok.inj hpure
    exact (assertString_eq_ok hid).symm
  exact ⟨⟨capabilities, hcapabilities, introduces, hintroduces, threats,
    hthreats, addresses, haddresses, leverages, hleverages, controls,
    hcontrols, applies, happlies, vectors, hids⟩,
    (Except.ok.inj hresult).symm⟩

/-- The entities of the result and the IDs in their lists. -/
structure Shows (rows : ThreatModelRows) (result : ThreatModelResult) :
    Prop where
  capabilities : ∀ id, (∃ capability ∈ result.capabilities,
    capability.id = id) ↔ id ∈ idsOf rows.capabilities
  introduces : ∀ capability ∈ result.capabilities, ∀ id,
    id ∈ capability.introduces ↔
      (some (.text capability.id), some (.text id)) ∈ rows.introduces
  threats : ∀ id, (∃ threat ∈ result.threats, threat.id = id) ↔
    id ∈ idsOf rows.threats
  addressedBy : ∀ threat ∈ result.threats, ∀ id,
    id ∈ threat.addressedBy ↔
      (some (.text threat.id), some (.text id)) ∈ rows.addresses
  leverages : ∀ threat ∈ result.threats, ∀ id,
    id ∈ threat.leverages ↔
      (some (.text threat.id), some (.text id)) ∈ rows.leverages

theorem shows_threatModelResult
    (hresult : threatModelResult subjectID rows = .ok result) :
    Shows rows result := by
  obtain ⟨reads, rfl⟩ := exists_reads hresult
  constructor
  case capabilities =>
    intro id
    apply ids_completed readsRow_capabilityOf _ reads.capabilities_read
    exact fun _ => rfl
  case introduces =>
    intro shown hshown id
    obtain ⟨⟨key, capability⟩, hentry, rfl⟩ := List.mem_map.mp hshown
    obtain rfl : capability.id = key := (mem_entries hentry).1
    exact mem_linkedTo reads.introduces_read
  case threats =>
    intro id
    apply ids_completed readsRow_threatOf _ reads.threats_read
    exact fun _ => rfl
  case addressedBy =>
    intro shown hshown id
    obtain ⟨⟨key, threat⟩, hentry, rfl⟩ := List.mem_map.mp hshown
    obtain rfl : threat.id = key := (mem_entries hentry).1
    exact mem_linkedTo reads.addresses_read
  case leverages =>
    intro shown hshown id
    obtain ⟨⟨key, threat⟩, hentry, rfl⟩ := List.mem_map.mp hshown
    obtain rfl : threat.id = key := (mem_entries hentry).1
    exact mem_linkedTo reads.leverages_read

theorem Shows.reordered {assembled : ThreatModelResult}
    (hshows : Shows rows assembled) (hreordered : result.Reordered assembled) :
    Shows rows result where
  capabilities := by
    intro id
    rw [← hshows.capabilities id]
    simp only [hreordered.capabilities.mem_iff]
  introduces := fun capability hmem =>
    hshows.introduces capability (hreordered.capabilities.mem_iff.mp hmem)
  threats := by
    intro id
    rw [← hshows.threats id]
    simp only [hreordered.threats.mem_iff]
  addressedBy := fun threat hmem =>
    hshows.addressedBy threat (hreordered.threats.mem_iff.mp hmem)
  leverages := fun threat hmem =>
    hshows.leverages threat (hreordered.threats.mem_iff.mp hmem)

end Results

/-! ## Emitted edges -/

/-- The edge is in the field for its type; `EVALUATES` has none. -/
def EdgeShown (result : ThreatModelResult) (edge : EdgeRecord) : Prop :=
  match edge.edgeType with
  | .addresses => ∃ threat ∈ result.threats,
      threat.id = edge.toID ∧ edge.fromID ∈ threat.addressedBy
  | .introduces => ∃ capability ∈ result.capabilities,
      capability.id = edge.fromID ∧ edge.toID ∈ capability.introduces
  | .leverages => ∃ threat ∈ result.threats,
      threat.id = edge.fromID ∧ edge.toID ∈ threat.leverages
  | .applies => ∃ control ∈ result.controls,
      control.id = edge.fromID ∧ edge.toID ∈ control.applies
  | .evaluates => False

section Edges

variable {loader : Loader} {sealings : List (Sealing loader)}
  {sealing : Sealing loader} {subjectID : String} {rows : ThreatModelRows}
  {result : ThreatModelResult} {edge : EdgeRecord}

/-- The fields hold no IDs but those of emitted edges. -/
structure OnlyEmitted (sealings : List (Sealing loader))
    (result : ThreatModelResult) : Prop where
  addressedBy : ∀ threat ∈ result.threats, ∀ id ∈ threat.addressedBy,
    Emitted sealings ⟨id, .control, threat.id, .threat, .addresses⟩
  introduces : ∀ capability ∈ result.capabilities,
    ∀ id ∈ capability.introduces,
      Emitted sealings ⟨capability.id, .capability, id, .threat, .introduces⟩
  leverages : ∀ threat ∈ result.threats, ∀ id ∈ threat.leverages,
    ∃ edge, Emitted sealings edge ∧ edge.edgeType = .leverages ∧
      edge.fromID = threat.id ∧ edge.toID = id

/-- The labels the parser gives to the ends of its edges. -/
theorem edge_cases (hedge : edge ∈ sealing.parsed.edges) :
    (∃ control threat,
      edge = ⟨control, .control, threat, .threat, .addresses⟩) ∨
    (∃ capability threat,
      edge = ⟨capability, .capability, threat, .threat, .introduces⟩) ∨
    ∃ threat vector, edge = ⟨threat, .threat, vector, .vector, .leverages⟩ := by
  have hcases := parseArtifact_cases sealing.parses
  rcases hcases with ⟨catalog, heq⟩ | ⟨catalog, heq⟩ | ⟨catalog, heq⟩ | heq
  · rw [← heq] at hedge
    obtain ⟨control, -, hedge⟩ := List.mem_flatMap.mp hedge
    obtain ⟨threat, -, rfl⟩ := List.mem_map.mp hedge
    exact .inl ⟨_, _, rfl⟩
  · rw [← heq] at hedge
    obtain ⟨threat, -, hedge⟩ := List.mem_flatMap.mp hedge
    rcases List.mem_append.mp hedge with hedge | hedge
    · obtain ⟨capability, -, rfl⟩ := List.mem_map.mp hedge
      exact .inr (.inl ⟨_, _, rfl⟩)
    · obtain ⟨vector, -, rfl⟩ := List.mem_map.mp hedge
      exact .inr (.inr ⟨_, _, rfl⟩)
  · rw [← heq] at hedge
    cases hedge
  · rw [← heq] at hedge
    cases hedge

theorem not_emitted_leverages {threat capability : String} :
    ¬ Emitted sealings
      ⟨threat, .threat, capability, .capability, .leverages⟩ := by
  rintro ⟨sealing, -, hedge⟩
  rcases edge_cases hedge with ⟨_, _, heq⟩ | ⟨_, _, heq⟩ | ⟨_, _, heq⟩
  · cases heq
  · cases heq
  · cases heq

theorem source_mem_idsOf (hmem : sealing ∈ sealings)
    (hedge : edge ∈ sealing.parsed.edges)
    (hsources : sources.Perm (sourceRows (sealedGraph sealings)
      sealing.data.subjectID edge.fromLabel)) :
    edge.fromID ∈ idsOf sources := by
  obtain ⟨row, hrow, hid⟩ := exists_sourceRow hmem
    (edge_mem_sealedWrites hmem hedge List.mem_cons_self
      (List.mem_cons_of_mem _ List.mem_cons_self))
  exact mem_idsOf.mpr ⟨row, hsources.mem_iff.mpr hrow, hid⟩

theorem target_mem_idsOf (hmem : sealing ∈ sealings)
    (hedge : edge ∈ sealing.parsed.edges)
    (hsources : sources.Perm (sourceRows (sealedGraph sealings)
      sealing.data.subjectID edge.toLabel)) :
    edge.toID ∈ idsOf sources := by
  obtain ⟨row, hrow, hid⟩ := exists_sourceRow hmem
    (edge_mem_sealedWrites hmem hedge
      (List.mem_cons_of_mem _ List.mem_cons_self)
      (List.mem_cons_of_mem _ List.mem_cons_self))
  exact mem_idsOf.mpr ⟨row, hsources.mem_iff.mpr hrow, hid⟩

/-! ## The answer -/

variable {graph : EvidenceGraph}

theorem Readable.exists_sources (hreadable : Readable graph)
    (build : SourceRow → Outcome Entry)
    (hbuild : ∀ {row id source}, assertString row.id = .ok id →
      evidenceSource row = .ok source → ∃ entry, build row = .ok entry)
    {label : EntityLabel}
    (hperm : sources.Perm (sourceRows graph subjectID label)) :
    ∃ entries, sources.mapM build = .ok entries := by
  apply exists_mapM_eq_ok
  intro row hrow
  obtain ⟨id, source, hid, hsource⟩ :=
    hreadable.sourceRow (hperm.mem_iff.mp hrow)
  exact hbuild hid hsource

/-- The rows of related nodes hold the IDs at both ends. -/
theorem Readable.exists_links (hreadable : Readable graph)
    {source target : EntityLabel} {type : EdgeType} {keeps : ℕ × ℕ → Bool}
    {row : ℕ × ℕ → LinkRow} (hrow : ∀ nodes, row nodes =
        (property graph nodes.1 "id", property graph nodes.2 "id") ∨
      row nodes = (property graph nodes.2 "id", property graph nodes.1 "id"))
    {linkRows : List LinkRow} (hperm : linkRows.Perm
      (((relatedNodes graph source type target).filter keeps).map row)) :
    ∃ links, linkRows.mapM linkOf = .ok links := by
  apply exists_mapM_eq_ok
  intro found hfound
  obtain ⟨⟨near, far⟩, hnodes, rfl⟩ := List.mem_map.mp (hperm.mem_iff.mp hfound)
  obtain ⟨hnear, hfar⟩ := mem_relatedNodes.mp (List.mem_of_mem_filter hnodes)
  obtain ⟨nearID, hnearID⟩ := hreadable.exists_id hnear
  obtain ⟨farID, hfarID⟩ := hreadable.exists_id (mem_outgoing.mp hfar).2
  have hids := And.intro (at_entity_iff.mp hnearID).2
    (at_entity_iff.mp hfarID).2
  rcases hrow (near, far) with heq | heq
  · exact ⟨(nearID, farID), linkOf_eq_ok.mpr (by rw [heq, hids.1, hids.2])⟩
  · exact ⟨(farID, nearID), linkOf_eq_ok.mpr (by rw [heq, hids.1, hids.2])⟩

theorem Readable.exists_threatModelResult (hreadable : Readable graph)
    (hreturned : rows.Returned graph subjectID) :
    ∃ assembled, threatModelResult subjectID rows = .ok assembled := by
  apply exists_bind_eq_ok (hreadable.exists_sources capabilityOf
    (fun hid hsource => ⟨_, by rw [capabilityOf, hid, hsource]; rfl⟩)
    hreturned.capabilities)
  intro capabilities
  apply exists_bind_eq_ok (hreadable.exists_links (fun _ => .inl rfl)
    hreturned.introduces)
  intro introduces
  apply exists_bind_eq_ok (hreadable.exists_sources threatOf
    (fun hid hsource => ⟨_, by rw [threatOf, hid, hsource]; rfl⟩)
    hreturned.threats)
  intro threats
  apply exists_bind_eq_ok (hreadable.exists_links (fun _ => .inr rfl)
    hreturned.addresses)
  intro addresses
  apply exists_bind_eq_ok (hreadable.exists_links (fun _ => .inl rfl)
    hreturned.leverages)
  intro leverages
  apply exists_bind_eq_ok (hreadable.exists_sources controlOf
    (fun hid hsource => ⟨_, by rw [controlOf, hid, hsource]; rfl⟩)
    hreturned.controls)
  intro controls
  apply exists_bind_eq_ok (hreadable.exists_links (fun _ => .inl rfl)
    hreturned.applies)
  intro applies
  apply exists_bind_eq_ok
  · apply exists_mapM_eq_ok
    intro row hrow
    obtain ⟨⟨evidence, vector⟩, hnodes, rfl⟩ :=
      List.mem_map.mp (hreturned.vectors.mem_iff.mp hrow)
    obtain ⟨id, hid⟩ := hreadable.exists_id
      (mem_outgoing.mp (mem_definedNodes.mp hnodes).2).2
    apply exists_bind_eq_ok
    · exact ⟨id, by rw [(at_entity_iff.mp hid).2, assertString]⟩
    · exact fun _ => ⟨_, rfl⟩
  · exact fun _ => ⟨_, rfl⟩

/-- An edge of the subject's artifacts is shown unless it is `LEVERAGES`. -/
theorem edgeShown_iff (hmem : sealing ∈ sealings)
    (hedge : edge ∈ sealing.parsed.edges)
    (hreturned : rows.Returned (sealedGraph sealings) sealing.data.subjectID)
    (hshows : Shows rows result) :
    EdgeShown result edge ↔ edge.edgeType ≠ .leverages := by
  rcases edge_cases hedge with ⟨control, target, rfl⟩ |
    ⟨capability, target, rfl⟩ | ⟨source, vector, rfl⟩
  · apply iff_of_true _ EdgeType.noConfusion
    have hlisted := target_mem_idsOf hmem hedge hreturned.threats
    obtain ⟨threat, hthreat, rfl⟩ := (hshows.threats _).mpr hlisted
    refine ⟨threat, hthreat, rfl, (hshows.addressedBy threat hthreat _).mpr ?_⟩
    exact hreturned.addresses.mem_iff.mpr (mem_incomingRows_sealedGraph.mpr
      ⟨control, threat.id, hlisted, ⟨sealing, hmem, hedge⟩, rfl⟩)
  · apply iff_of_true _ EdgeType.noConfusion
    have hlisted := source_mem_idsOf hmem hedge hreturned.capabilities
    obtain ⟨shown, hshown, rfl⟩ := (hshows.capabilities _).mpr hlisted
    refine ⟨shown, hshown, rfl, (hshows.introduces shown hshown _).mpr ?_⟩
    exact hreturned.introduces.mem_iff.mpr (mem_outgoingRows_sealedGraph.mpr
      ⟨shown.id, hlisted, target, ⟨sealing, hmem, hedge⟩, rfl⟩)
  · apply iff_of_false _ (not_not_intro rfl)
    rintro ⟨threat, hthreat, -, hlisted⟩
    have hrow := hreturned.leverages.mem_iff.mp
      ((hshows.leverages threat hthreat _).mp hlisted)
    obtain ⟨_, _, _, hemitted, _⟩ := mem_outgoingRows_sealedGraph.mp hrow
    exact not_emitted_leverages hemitted

theorem onlyEmitted_of_shows
    (hreturned : rows.Returned (sealedGraph sealings) subjectID)
    (hshows : Shows rows result) : OnlyEmitted sealings result where
  addressedBy := by
    intro threat hthreat id hid
    have hrow := hreturned.addresses.mem_iff.mp
      ((hshows.addressedBy threat hthreat id).mp hid)
    obtain ⟨fromID, toID, -, hemitted, heq⟩ :=
      mem_incomingRows_sealedGraph.mp hrow
    simp only [Prod.mk.injEq, Option.some.injEq, PropertyValue.text.injEq]
      at heq
    obtain ⟨rfl, rfl⟩ := heq
    exact hemitted
  introduces := by
    intro capability hcapability id hid
    have hrow := hreturned.introduces.mem_iff.mp
      ((hshows.introduces capability hcapability id).mp hid)
    obtain ⟨fromID, -, toID, hemitted, heq⟩ :=
      mem_outgoingRows_sealedGraph.mp hrow
    simp only [Prod.mk.injEq, Option.some.injEq, PropertyValue.text.injEq]
      at heq
    obtain ⟨rfl, rfl⟩ := heq
    exact hemitted
  leverages := by
    intro threat hthreat id hid
    have hrow := hreturned.leverages.mem_iff.mp
      ((hshows.leverages threat hthreat id).mp hid)
    obtain ⟨_, -, _, hemitted, -⟩ := mem_outgoingRows_sealedGraph.mp hrow
    exact absurd hemitted not_emitted_leverages

/-- The rows of each label in the given order, with their links. -/
def arrangedRows (graph : EvidenceGraph)
    (order : EntityLabel → List SourceRow) (subjectID : String) :
    ThreatModelRows where
  capabilities := order .capability
  introduces := outgoingRows graph .capability .introduces .threat
    (idsOf (order .capability))
  threats := order .threat
  addresses := incomingRows graph .control .addresses .threat
    (idsOf (order .threat))
  leverages := outgoingRows graph .threat .leverages .capability
    (idsOf (order .threat))
  controls := order .control
  applies := outgoingRows graph .control .applies .guidance
    (idsOf (order .control))
  vectors := vectorRows graph subjectID

theorem returned_arrangedRows {order : EntityLabel → List SourceRow}
    (horder : ∀ label, (order label).Perm (sourceRows graph subjectID label)) :
    (arrangedRows graph order subjectID).Returned graph subjectID where
  capabilities := horder .capability
  introduces := .refl _
  threats := horder .threat
  addresses := .refl _
  leverages := .refl _
  controls := horder .control
  applies := .refl _
  vectors := .refl _

/-- The rows in the order of the queries. -/
def queriedRows (graph : EvidenceGraph) (subjectID : String) :
    ThreatModelRows :=
  arrangedRows graph (sourceRows graph subjectID) subjectID

theorem returned_queriedRows (graph : EvidenceGraph) (subjectID : String) :
    (queriedRows graph subjectID).Returned graph subjectID :=
  returned_arrangedRows fun _ => .refl _

theorem threatModel_of_result
    (hresult : threatModelResult subjectID (queriedRows graph subjectID) =
      .ok result) : ThreatModel graph subjectID (.ok result) :=
  ⟨_, returned_queriedRows graph subjectID, result, hresult,
    ⟨rfl, .refl _, .refl _, .refl _, rfl⟩⟩

/-- Every answer shows the edges of the subject's artifacts but the
`LEVERAGES` edges, and no others. -/
theorem edges_of_threatModel {answer : Outcome ThreatModelResult}
    (hanswer : ThreatModel (sealedGraph sealings) subjectID answer) :
    ∃ result, answer = .ok result ∧
      (∀ sealing ∈ sealings, sealing.data.subjectID = subjectID →
        ∀ edge ∈ sealing.parsed.edges,
          (EdgeShown result edge ↔ edge.edgeType ≠ .leverages)) ∧
      OnlyEmitted sealings result := by
  cases answer with
  | error failure =>
    obtain ⟨rows, hreturned, hfailure⟩ := hanswer
    obtain ⟨result, hresult⟩ :=
      (readable_sealedGraph sealings).exists_threatModelResult hreturned
    rw [hresult] at hfailure
    cases hfailure
  | ok result =>
    obtain ⟨rows, hreturned, assembled, hassembled, hreordered⟩ := hanswer
    have hshows := (shows_threatModelResult hassembled).reordered hreordered
    refine ⟨result, rfl, ?_, onlyEmitted_of_shows hreturned hshows⟩
    rintro sealing hmem rfl edge hedge
    exact edgeShown_iff hmem hedge hreturned hshows

/-- `ThreatModel` answers for every subject.  Of the edges emitted for its
artifacts it shows all but the `LEVERAGES` edges, and its fields hold only the
IDs of emitted edges. -/
theorem emitted_edges_shown_iff (sealings : List (Sealing loader))
    (subjectID : String) :
    (∃ result, ThreatModel (sealedGraph sealings) subjectID (.ok result)) ∧
    ∀ answer, ThreatModel (sealedGraph sealings) subjectID answer →
      ∃ result, answer = .ok result ∧
        (∀ sealing ∈ sealings, sealing.data.subjectID = subjectID →
          ∀ edge ∈ sealing.parsed.edges,
            (EdgeShown result edge ↔ edge.edgeType ≠ .leverages)) ∧
        OnlyEmitted sealings result := by
  constructor
  · obtain ⟨result, hresult⟩ :=
      (readable_sealedGraph sealings).exists_threatModelResult
        (returned_queriedRows (sealedGraph sealings) subjectID)
    exact ⟨result, threatModel_of_result hresult⟩
  · exact fun answer => edges_of_threatModel

/-- So it does after every run of the loader over sealed events. -/
theorem run_edges_shown {state : LoaderState}
    (hreach : TransitionSystem.Reaches (loaderStep loader) (SealsFully loader)
      .initial state) :
    ∃ sealings : List (Sealing loader),
      List.Forall₂ (fun sealing handled => sealing.Of handled.delivery)
        sealings state.history ∧
      ∀ subjectID answer, ThreatModel state.graph subjectID answer →
        ∃ result, answer = .ok result ∧
          (∀ sealing ∈ sealings, sealing.data.subjectID = subjectID →
            ∀ edge ∈ sealing.parsed.edges,
              (EdgeShown result edge ↔ edge.edgeType ≠ .leverages)) ∧
          OnlyEmitted sealings result := by
  obtain ⟨sealings, hof, hgraph⟩ := exists_sealings_of_reaches hreach
  rw [hgraph]
  exact ⟨sealings, hof, fun subjectID answer => edges_of_threatModel⟩

end Edges

/-! ## Three catalogs -/

/-- A loader for documents of one byte, which tells the type of the catalog. -/
def byteLoader (threats : ThreatCatalog) : Loader :=
  { plainLoader with
    library := {
      plainLoader.library with
      unmarshal := fun content => .ok (.obj [("metadata", .obj [("type",
        .str (if content = [0] then "ControlCatalog"
          else if content = [1] then "ThreatCatalog"
          else "CapabilityCatalog"))])]) }
    decoders := {
      controlCatalog := fun _ => .ok ⟨"controls", [⟨"C1", "Encryption",
        "Traffic is encrypted", "network", [], [["T1"]]⟩]⟩
      threatCatalog := fun _ => .ok threats
      capabilityCatalog := fun _ => .ok ⟨"capabilities", [⟨"CAP1", "Network",
        "Hosts exchange messages", "network"⟩]⟩ } }

/-- The threat catalog of one threat that leverages the given vectors. -/
def sniffing (vectors : List Mapping) : ThreatCatalog where
  metadataID := "threats"
  threats := [⟨"T1", "Sniffing", "Traffic is read", "network", [["CAP1"]],
    vectors⟩]

/-- The sealed event of a document of the byte. -/
def sealedCatalog (vectors : List Mapping) (content : Bytes)
    (logIndex : Int64) (parsed : ParsedArtifact)
    (hparsed : parseArtifact (byteLoader (sniffing vectors)).decoders
      (inferArtifactType (byteLoader (sniffing vectors)).library content)
        content logIndex = .ok parsed) :
    Sealing (byteLoader (sniffing vectors)) where
  data := sealedData "alpha" "digest" logIndex
  receipt := ⟨content, ⟨"issuer", "sub"⟩, ""⟩
  sealed := 0
  answer := .ok ⟨"issuer", "sub"⟩
  publisher := ⟨"issuer", "sub"⟩
  resolves := rfl
  parsed := parsed
  parses := hparsed

/-- The three catalogs of one subject. -/
def threeCatalogs (vectors : List Mapping) :
    List (Sealing (byteLoader (sniffing vectors))) :=
  [sealedCatalog vectors [0] 0 _ rfl, sealedCatalog vectors [1] 1 _ rfl,
    sealedCatalog vectors [2] 2 _ rfl]

theorem edges_without_vectors_shown :
    ∃ result, ThreatModel (sealedGraph (threeCatalogs [])) "alpha"
        (.ok result) ∧
      EdgeShown result ⟨"C1", .control, "T1", .threat, .addresses⟩ ∧
      EdgeShown result ⟨"CAP1", .capability, "T1", .threat, .introduces⟩ := by
  obtain ⟨⟨result, hresult⟩, hanswers⟩ :=
    emitted_edges_shown_iff (threeCatalogs []) "alpha"
  obtain ⟨shown, hshown, hedges, -⟩ := hanswers _ hresult
  obtain rfl := Except.ok.inj hshown
  refine ⟨result, hresult, ?_, ?_⟩
  · exact (hedges _ List.mem_cons_self rfl _ List.mem_cons_self).mpr
      EdgeType.noConfusion
  · exact (hedges _ (List.mem_cons_of_mem _ List.mem_cons_self) rfl _
      List.mem_cons_self).mpr EdgeType.noConfusion

/-- A vector of the threat is not among what the threat leverages. -/
theorem leveraged_vector_dropped :
    Emitted (threeCatalogs [["V1"]])
      ⟨"T1", .threat, "V1", .vector, .leverages⟩ ∧
    ∃ result, ThreatModel (sealedGraph (threeCatalogs [["V1"]])) "alpha"
        (.ok result) ∧
      (result.threats.map fun threat =>
        (threat.id, threat.addressedBy, threat.leverages)) =
          [("T1", ["C1"], [])] := by
  constructor
  · exact ⟨_, List.mem_cons_of_mem _ List.mem_cons_self,
      List.mem_cons_of_mem _ List.mem_cons_self⟩
  · have hthreats : ((threatModelResult "alpha" (queriedRows
        (sealedGraph (threeCatalogs [["V1"]])) "alpha")).map fun result =>
          result.threats.map fun threat =>
            (threat.id, threat.addressedBy, threat.leverages)) =
        .ok [("T1", ["C1"], [])] := by
      decide +kernel
    obtain ⟨result, hresult, hthreats⟩ := map_eq_ok hthreats
    exact ⟨result, threatModel_of_result hresult, hthreats⟩

end ComplyTime.Graph
