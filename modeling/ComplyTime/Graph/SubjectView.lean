import ComplyTime.Core.WriteFrame
import ComplyTime.Graph.Handling
import ComplyTime.Graph.Queries

/-!
# What a subject's queries read

`Coverage` and `ThreatModel` start at the subject and read its evidence, the
entities this evidence defines, the controls its findings evaluate, and the IDs
at the other ends of relationships.  A graph rewritten on other keys gives the
same answers, since every query returns the same rows up to their order.
-/

namespace ComplyTime.Graph

open Cypher Keyed Merging RemoteStore

/-- A node is evidence that targets the subject. -/
def EvidenceOf (graph : EvidenceGraph) (subjectID : String) (evidence : ℕ) :
    Prop :=
  ∃ subject, schema.At graph (.subject subjectID) subject ∧
    evidence ∈ graph.incoming subject .targets (anyOf .evidence)

/-- The evidence of a subject, the entities it defines, and the controls that
findings it defines evaluate. -/
inductive Reads (graph : EvidenceGraph) (subjectID : String) : ℕ → Prop
  | evidence {evidence : ℕ} :
      EvidenceOf graph subjectID evidence → Reads graph subjectID evidence
  | entity {evidence entity : ℕ} {label : EntityLabel} :
      EvidenceOf graph subjectID evidence →
      entity ∈ graph.outgoing evidence .defines (anyOf (.entity label)) →
      Reads graph subjectID entity
  | evaluated {evidence finding control : ℕ} :
      EvidenceOf graph subjectID evidence →
      finding ∈ graph.outgoing evidence .defines
        (anyOf (.entity .evaluationFinding)) →
      control ∈ graph.outgoing finding (.edge .evaluates)
        (anyOf (.entity .control)) →
      Reads graph subjectID control

variable {source target : EntityLabel} {type : EdgeType} {index : ℕ}
  {ids : List String}

/-! ## Rows -/

section Rows

variable {graph : EvidenceGraph} {subjectID : String} {label : EntityLabel}

theorem definedNodes_eq :
    definedNodes graph subjectID label =
      (graph.select (schema.pattern (.subject subjectID))).flatMap
        fun subject =>
          (graph.incoming subject .targets (anyOf .evidence)).flatMap
            fun evidence =>
              (graph.outgoing evidence .defines (anyOf (.entity label))).map
                fun entity => (evidence, entity) := by
  simp [definedNodes, Table.matchNode, Table.matchIncoming,
    Table.matchOutgoing, Table.extend, Graph.query, List.map_flatMap,
    List.flatMap_map, List.flatMap_assoc, schema, Function.comp_def]

theorem mem_definedNodes {evidence entity : ℕ} :
    (evidence, entity) ∈ definedNodes graph subjectID label ↔
      EvidenceOf graph subjectID evidence ∧
        entity ∈ graph.outgoing evidence .defines (anyOf (.entity label)) := by
  rw [definedNodes_eq]
  simp only [List.mem_flatMap, List.mem_map, mem_select, Prod.mk.injEq,
    EvidenceOf]
  constructor
  · rintro ⟨subject, hat, _, hevidence, _, hentity, rfl, rfl⟩
    exact ⟨⟨subject, hat, hevidence⟩, hentity⟩
  · rintro ⟨⟨subject, hat, hevidence⟩, hentity⟩
    exact ⟨subject, hat, evidence, hevidence, entity, hentity, rfl, rfl⟩

theorem mem_evaluatedNodes {evidence control : ℕ} :
    (evidence, control) ∈ evaluatedNodes graph subjectID ↔
      ∃ finding, EvidenceOf graph subjectID evidence ∧
        finding ∈ graph.outgoing evidence .defines
          (anyOf (.entity .evaluationFinding)) ∧
        control ∈ graph.outgoing finding (.edge .evaluates)
          (anyOf (.entity .control)) := by
  simp only [evaluatedNodes, List.mem_flatMap, Prod.exists, mem_definedNodes,
    List.mem_map, Prod.mk.injEq]
  constructor
  · rintro ⟨_, finding, ⟨hevidence, hfinding⟩, _, hcontrol, rfl, rfl⟩
    exact ⟨finding, hevidence, hfinding, hcontrol⟩
  · rintro ⟨finding, hevidence, hfinding, hcontrol⟩
    exact ⟨evidence, finding, ⟨hevidence, hfinding⟩, control, hcontrol, rfl,
      rfl⟩

theorem mem_publishedNodes {evidence entity publisher : ℕ} :
    ((evidence, entity), publisher) ∈ publishedNodes graph subjectID label ↔
      EvidenceOf graph subjectID evidence ∧
        entity ∈ graph.outgoing evidence .defines (anyOf (.entity label)) ∧
        publisher ∈ graph.outgoing evidence .publishedBy
          (anyOf .publisher) := by
  simp only [publishedNodes, List.mem_flatMap, Prod.exists, mem_definedNodes,
    List.mem_map, Prod.mk.injEq]
  constructor
  · rintro ⟨_, _, ⟨hevidence, hentity⟩, _, hpublisher, ⟨rfl, rfl⟩, rfl⟩
    exact ⟨hevidence, hentity, hpublisher⟩
  · rintro ⟨hevidence, hentity, hpublisher⟩
    exact ⟨evidence, entity, ⟨hevidence, hentity⟩, publisher, hpublisher,
      ⟨rfl, rfl⟩, rfl⟩

variable {near far : ℕ}

theorem mem_relatedNodes :
    (near, far) ∈ relatedNodes graph source type target ↔
      graph.fitsAt (anyOf (.entity source)) near = true ∧
        far ∈ graph.outgoing near (.edge type) (anyOf (.entity target)) := by
  simp [relatedNodes, Table.matchNode, Table.matchOutgoing, Table.extend,
    Graph.query]

theorem nodup_relatedNodes :
    (relatedNodes graph source type target).Nodup := by
  have hnear : (graph.query.matchNode (anyOf (.entity source))).rows.Nodup :=
    nodup_rows_extend (List.nodup_singleton ()) fun _ => nodup_select _ _
  have hrows : ((graph.query.matchNode (anyOf (.entity source))).matchOutgoing
      Prod.snd (.edge type) (anyOf (.entity target))).rows.Nodup :=
    nodup_rows_extend hnear fun _ => nodup_outgoing
  apply hrows.map
  rintro ⟨⟨_, near⟩, far⟩ ⟨⟨_, near'⟩, far'⟩ heq
  obtain ⟨rfl, rfl⟩ := Prod.mk.inj heq
  rfl

theorem at_entity_iff {id : String} :
    schema.At graph (.entity label id) index ↔
      graph.fitsAt (anyOf (.entity label)) index = true ∧
        property graph index "id" = some (.text id) := by
  rw [Schema.At, Graph.fitsAt, Graph.fitsAt, property]
  cases graph.nodes[index]? with
  | none => simp
  | some node => simp [fits_iff, schema, NodeKey.pattern, anyOf]

theorem idAmong_iff
    (hlabel : graph.fitsAt (anyOf (.entity label)) index = true) :
    idAmong graph ids index = true ↔
      ∃ id ∈ ids, schema.At graph (.entity label id) index := by
  simp only [idAmong, List.any_eq_true, decide_eq_true_eq, at_entity_iff,
    hlabel, true_and]

theorem mem_outgoing_idAmong :
    (near, far) ∈ (relatedNodes graph source type target).filter
        (fun (near, _) => idAmong graph ids near) ↔
      ∃ id ∈ ids, schema.At graph (.entity source id) near ∧
        far ∈ graph.outgoing near (.edge type) (anyOf (.entity target)) := by
  rw [List.mem_filter, mem_relatedNodes]
  constructor
  · rintro ⟨⟨hlabel, hfar⟩, hamong⟩
    obtain ⟨id, hid, hat⟩ := (idAmong_iff hlabel).mp hamong
    exact ⟨id, hid, hat, hfar⟩
  · rintro ⟨id, hid, hat, hfar⟩
    have hlabel := (at_entity_iff.mp hat).1
    exact ⟨⟨hlabel, hfar⟩, (idAmong_iff hlabel).mpr ⟨id, hid, hat⟩⟩

theorem mem_incoming_idAmong :
    (near, far) ∈ (relatedNodes graph source type target).filter
        (fun (_, far) => idAmong graph ids far) ↔
      ∃ id ∈ ids, schema.At graph (.entity target id) far ∧
        near ∈ graph.incoming far (.edge type) (anyOf (.entity source)) := by
  rw [List.mem_filter, mem_relatedNodes, mem_outgoing]
  constructor
  · rintro ⟨⟨hnear, hmem, hlabel⟩, hamong⟩
    obtain ⟨id, hid, hat⟩ := (idAmong_iff hlabel).mp hamong
    exact ⟨id, hid, hat, mem_incoming.mpr ⟨hmem, hnear⟩⟩
  · rintro ⟨id, hid, hat, hnear⟩
    have hlabel := (at_entity_iff.mp hat).1
    obtain ⟨hmem, hnear⟩ := mem_incoming.mp hnear
    exact ⟨⟨hnear, hmem, hlabel⟩, (idAmong_iff hlabel).mpr ⟨id, hid, hat⟩⟩

end Rows

/-! ## Order of rows -/

/-- The same rows, filtered and mapped in the same way. -/
theorem perm_filter_map {Row Value : Type} {rows others : List Row}
    {keeps keeps' : Row → Bool} {value value' : Row → Value}
    (hperm : rows.Perm others) (hkeeps : ∀ row ∈ others, keeps row = keeps' row)
    (hvalue : ∀ row ∈ others, value row = value' row) :
    ((rows.filter keeps).map value).Perm
      ((others.filter keeps').map value') := by
  rw [← List.filter_congr hkeeps, ← List.map_congr_left fun row hrow =>
    hvalue row (List.mem_of_mem_filter hrow)]
  exact (hperm.filter keeps).map value

theorem max?_perm {times others : List Time} (hperm : times.Perm others) :
    times.max? = others.max? := by
  apply Option.ext
  intro time
  rw [List.max?_eq_some_iff, List.max?_eq_some_iff, hperm.mem_iff]
  simp only [hperm.mem_iff]

theorem latestEvidence_perm
    {rows others : List (Option PropertyValue × Option Time)}
    (hperm : rows.Perm others) :
    (latestEvidence rows).Perm (latestEvidence others) := by
  have hlatest : ∀ id,
      ((rows.filter fun row => row.1 = id).filterMap Prod.snd).max? =
        ((others.filter fun row => row.1 = id).filterMap Prod.snd).max? := by
    intro id
    exact max?_perm ((hperm.filter _).filterMap _)
  rw [latestEvidence, latestEvidence]
  simp only [hlatest]
  exact ((hperm.map Prod.fst).dedup).map _

/-! ## Rewritten graphs -/

section Rewritten

variable {touched : NodeKey → Prop} {before after : EvidenceGraph}
  {subjectID : String}

section

variable (hrewritten : Rewritten schema touched before after)

include hrewritten

theorem property_of_key {name : String} (hold : index < before.nodes.length)
    (hname : ∀ key, schema.At before key index →
      ∃ value, (name, value) ∈ key.pattern.properties) :
    property after index name = property before index name := by
  rcases hrewritten.node_eq_or_at hold with hsame | ⟨key, -, hat⟩
  · rw [property, property, hsame]
  · obtain ⟨value, hmem⟩ := hname key hat
    rw [property_of_at hat hmem,
      property_of_at ((hrewritten.at_old hold).mpr hat) hmem]

theorem property_id {label : EntityLabel}
    (hlabel : before.fitsAt (anyOf (.entity label)) index = true) :
    property after index "id" = property before index "id" := by
  apply property_of_key hrewritten (lt_length_of_fitsAt before hlabel)
  intro key hat
  have hkey := label_of_at hat hlabel
  cases key with
  | entity label id => exact ⟨.text id, List.mem_singleton_self _⟩
  | _ => cases hkey

theorem property_publisher {name : String}
    (hname : name = "issuer" ∨ name = "sub")
    (hlabel : before.fitsAt (anyOf .publisher) index = true) :
    property after index name = property before index name := by
  apply property_of_key hrewritten (lt_length_of_fitsAt before hlabel)
  intro key hat
  have hkey := label_of_at hat hlabel
  cases key with
  | publisher identity =>
    rcases hname with rfl | rfl
    · exact ⟨.text identity.issuer, by simp [NodeKey.pattern]⟩
    · exact ⟨.text identity.sub, by simp [NodeKey.pattern]⟩
  | _ => cases hkey

/-- Relationships between entities, selected by nodes that stay, show the same
IDs. -/
theorem linkRows_perm {keeps keeps' : ℕ × ℕ → Bool}
    (row : Option PropertyValue → Option PropertyValue → LinkRow)
    (hkept : ∀ near far,
      (near, far) ∈ (relatedNodes after source type target).filter keeps ↔
        (near, far) ∈
          (relatedNodes before source type target).filter keeps') :
    (((relatedNodes after source type target).filter keeps).map
        fun (near, far) =>
          row (property after near "id") (property after far "id")).Perm
      (((relatedNodes before source type target).filter keeps').map
        fun (near, far) =>
          row (property before near "id") (property before far "id")) := by
  have hnodes : ((relatedNodes after source type target).filter keeps).Perm
      ((relatedNodes before source type target).filter keeps') := by
    apply (List.perm_ext_iff_of_nodup (nodup_relatedNodes.filter _)
      (nodup_relatedNodes.filter _)).mpr
    rintro ⟨near, far⟩
    exact hkept near far
  apply (hnodes.map _).trans
  apply List.Perm.of_eq
  apply List.map_congr_left
  rintro ⟨near, far⟩ hrow
  obtain ⟨hnear, hfar⟩ := mem_relatedNodes.mp (List.mem_of_mem_filter hrow)
  simp only [property_id hrewritten hnear,
    property_id hrewritten (mem_outgoing.mp hfar).2]

theorem outgoingRows_perm (hids : ∀ id ∈ ids, ¬ touched (.entity source id)) :
    (outgoingRows after source type target ids).Perm
      (outgoingRows before source type target ids) := by
  apply linkRows_perm hrewritten Prod.mk
  intro near far
  rw [mem_outgoing_idAmong, mem_outgoing_idAmong]
  apply exists_congr
  intro id
  apply and_congr_right
  intro hid
  rw [hrewritten.at_untouched (hids id hid)]
  apply and_congr_right
  intro hat
  exact (hrewritten.outgoing_perm (spared_of_at (hids id hid) hat)
    (.entity target)).mem_iff

theorem incomingRows_perm (hids : ∀ id ∈ ids, ¬ touched (.entity target id)) :
    (incomingRows after source type target ids).Perm
      (incomingRows before source type target ids) := by
  apply linkRows_perm hrewritten fun near far => (far, near)
  intro near far
  rw [mem_incoming_idAmong, mem_incoming_idAmong]
  apply exists_congr
  intro id
  apply and_congr_right
  intro hid
  rw [hrewritten.at_untouched (hids id hid)]
  apply and_congr_right
  intro hat
  exact (hrewritten.incoming_perm (spared_of_at (hids id hid) hat)
    (.entity source)).mem_iff

end

/-! ## Nodes read by the subject -/

section Reads

variable (hrewritten : Rewritten schema touched before after)
  (hsubject : ¬ touched (.subject subjectID))
  (hreads : ∀ index, Reads before subjectID index →
    Spared schema touched before index)

include hrewritten hreads

theorem property_of_reads (hread : Reads before subjectID index)
    (name : String) :
    property after index name = property before index name := by
  rw [property, property, hrewritten.node_of_spared (hreads index hread)]

include hsubject

theorem definedNodes_perm (label : EntityLabel) :
    (definedNodes after subjectID label).Perm
      (definedNodes before subjectID label) := by
  rw [definedNodes_eq, definedNodes_eq]
  symm
  apply (hrewritten.select_perm hsubject).symm.flatMap
  intro subject hselected
  have hat : schema.At before (.subject subjectID) subject :=
    (mem_select before).mp hselected
  apply (hrewritten.incoming_perm (spared_of_at hsubject hat)
    .evidence).symm.flatMap
  intro evidence hevidence
  have hspared := hreads evidence (.evidence ⟨subject, hat, hevidence⟩)
  exact ((hrewritten.outgoing_perm hspared (.entity label)).symm).map _

theorem evaluatedNodes_perm :
    (evaluatedNodes after subjectID).Perm
      (evaluatedNodes before subjectID) := by
  symm
  apply (definedNodes_perm hrewritten hsubject hreads
    .evaluationFinding).symm.flatMap
  rintro ⟨evidence, finding⟩ hdefined
  obtain ⟨hevidence, hfinding⟩ := mem_definedNodes.mp hdefined
  have hspared := hreads finding (.entity hevidence hfinding)
  exact ((hrewritten.outgoing_perm hspared (.entity .control)).symm).map _

theorem publishedNodes_perm (label : EntityLabel) :
    (publishedNodes after subjectID label).Perm
      (publishedNodes before subjectID label) := by
  symm
  apply (definedNodes_perm hrewritten hsubject hreads label).symm.flatMap
  rintro ⟨evidence, entity⟩ hdefined
  obtain ⟨hevidence, -⟩ := mem_definedNodes.mp hdefined
  have hspared := hreads evidence (.evidence hevidence)
  exact ((hrewritten.outgoing_perm hspared .publisher).symm).map _

/-! ## Answers -/

theorem coverageControls_perm (catalogID : String) :
    (coverageControls after subjectID catalogID).Perm
      (coverageControls before subjectID catalogID) := by
  have hproperty : ∀ {evidence control : ℕ},
      (evidence, control) ∈ definedNodes before subjectID .control →
      ∀ name, property after control name = property before control name := by
    intro evidence control hdefined
    obtain ⟨hevidence, hcontrol⟩ := mem_definedNodes.mp hdefined
    exact property_of_reads hrewritten hreads (.entity hevidence hcontrol)
  apply perm_filter_map (definedNodes_perm hrewritten hsubject hreads .control)
  · rintro ⟨evidence, control⟩ hrow
    simp only [inCatalog, hproperty hrow]
  · rintro ⟨evidence, control⟩ hrow
    simp only [hproperty hrow]

theorem evaluations_perm (catalogID : String) :
    (evaluations after subjectID catalogID).Perm
      (evaluations before subjectID catalogID) := by
  have hproperty : ∀ {evidence control : ℕ},
      (evidence, control) ∈ evaluatedNodes before subjectID → ∀ name,
      property after evidence name = property before evidence name ∧
        property after control name = property before control name := by
    intro evidence control hrow name
    obtain ⟨finding, hevidence, hfinding, hcontrol⟩ :=
      mem_evaluatedNodes.mp hrow
    exact ⟨property_of_reads hrewritten hreads (.evidence hevidence) name,
      property_of_reads hrewritten hreads
        (.evaluated hevidence hfinding hcontrol) name⟩
  apply perm_filter_map (evaluatedNodes_perm hrewritten hsubject hreads)
  · rintro ⟨evidence, control⟩ hrow
    simp only [inCatalog, (hproperty hrow "catalogID").2]
  · rintro ⟨evidence, control⟩ hrow
    simp only [timeProperty, (hproperty hrow "id").2,
      (hproperty hrow "sealed").1]

theorem coverage_iff (catalogID : String) (answer : Outcome CoverageResult) :
    Coverage after subjectID catalogID answer ↔
      Coverage before subjectID catalogID answer := by
  have hcontrols := coverageControls_perm hrewritten hsubject hreads catalogID
  have hlatest := latestEvidence_perm
    (evaluations_perm hrewritten hsubject hreads catalogID)
  rw [Coverage, Coverage]
  simp only [hcontrols.congr_right, hlatest.congr_right]

theorem sourceRows_perm (label : EntityLabel) :
    (sourceRows after subjectID label).Perm
      (sourceRows before subjectID label) := by
  apply ((publishedNodes_perm hrewritten hsubject hreads label).map _).trans
  apply List.Perm.of_eq
  apply List.map_congr_left
  rintro ⟨⟨evidence, entity⟩, publisher⟩ hrow
  obtain ⟨hevidence, hentity, hpublisher⟩ := mem_publishedNodes.mp hrow
  have hlabel := (mem_outgoing.mp hpublisher).2
  have hissuer := property_publisher hrewritten (.inl rfl) hlabel
  have hsub := property_publisher hrewritten (.inr rfl) hlabel
  have hproperty := property_of_reads hrewritten hreads (.evidence hevidence)
  have hproperty' := property_of_reads hrewritten hreads
    (.entity hevidence hentity)
  simp only [sourceRow, hissuer, hsub, hproperty, hproperty']

theorem vectorRows_perm :
    (vectorRows after subjectID).Perm (vectorRows before subjectID) := by
  apply ((definedNodes_perm hrewritten hsubject hreads .vector).map _).trans
  apply List.Perm.of_eq
  apply List.map_congr_left
  rintro ⟨evidence, vector⟩ hdefined
  obtain ⟨hevidence, hvector⟩ := mem_definedNodes.mp hdefined
  have hproperty := property_of_reads hrewritten hreads
    (.entity hevidence hvector)
  simp only [hproperty]

omit hrewritten hsubject in
theorem untouched_of_mem_idsOf {label : EntityLabel} {rows : List SourceRow}
    (hrows : rows.Perm (sourceRows before subjectID label)) {id : String}
    (hid : id ∈ idsOf rows) : ¬ touched (.entity label id) := by
  obtain ⟨row, hrow, hassert⟩ := List.mem_filterMap.mp hid
  obtain ⟨⟨⟨evidence, entity⟩, publisher⟩, hpublished, rfl⟩ :=
    List.mem_map.mp (hrows.mem_iff.mp hrow)
  obtain ⟨hevidence, hentity, -⟩ := mem_publishedNodes.mp hpublished
  have hproperty : property before entity "id" = some (.text id) :=
    eq_text_of_assertString hassert
  have hat : schema.At before (.entity label id) entity :=
    at_entity_iff.mpr ⟨(mem_outgoing.mp hentity).2, hproperty⟩
  intro htouched
  exact (hreads entity (.entity hevidence hentity)).2 _ htouched hat

omit hsubject in
theorem outgoingRows_idsOf_iff {found : List SourceRow}
    (hfound : found.Perm (sourceRows before subjectID source))
    (links : List LinkRow) :
    links.Perm (outgoingRows after source type target (idsOf found)) ↔
      links.Perm (outgoingRows before source type target (idsOf found)) := by
  apply List.Perm.congr_right
  apply outgoingRows_perm hrewritten
  exact fun id => untouched_of_mem_idsOf hreads hfound

omit hsubject in
theorem incomingRows_idsOf_iff {found : List SourceRow}
    (hfound : found.Perm (sourceRows before subjectID target))
    (links : List LinkRow) :
    links.Perm (incomingRows after source type target (idsOf found)) ↔
      links.Perm (incomingRows before source type target (idsOf found)) := by
  apply List.Perm.congr_right
  apply incomingRows_perm hrewritten
  exact fun id => untouched_of_mem_idsOf hreads hfound

theorem returned_iff (rows : ThreatModelRows) :
    rows.Returned after subjectID ↔ rows.Returned before subjectID := by
  have hsource : ∀ label (found : List SourceRow),
      found.Perm (sourceRows after subjectID label) ↔
        found.Perm (sourceRows before subjectID label) := by
    intro label found
    exact (sourceRows_perm hrewritten hsubject hreads label).congr_right found
  have hvectors := (vectorRows_perm hrewritten hsubject hreads).congr_right
    rows.vectors
  constructor
  · intro hreturned
    have hcapabilities := (hsource _ _).mp hreturned.capabilities
    have hthreats := (hsource _ _).mp hreturned.threats
    have hcontrols := (hsource _ _).mp hreturned.controls
    constructor
    · exact hcapabilities
    · exact (outgoingRows_idsOf_iff hrewritten hreads hcapabilities _).mp
        hreturned.introduces
    · exact hthreats
    · exact (incomingRows_idsOf_iff hrewritten hreads hthreats _).mp
        hreturned.addresses
    · exact (outgoingRows_idsOf_iff hrewritten hreads hthreats _).mp
        hreturned.leverages
    · exact hcontrols
    · exact (outgoingRows_idsOf_iff hrewritten hreads hcontrols _).mp
        hreturned.applies
    · exact hvectors.mp hreturned.vectors
  · intro hreturned
    constructor
    · exact (hsource _ _).mpr hreturned.capabilities
    · exact (outgoingRows_idsOf_iff hrewritten hreads
        hreturned.capabilities _).mpr hreturned.introduces
    · exact (hsource _ _).mpr hreturned.threats
    · exact (incomingRows_idsOf_iff hrewritten hreads hreturned.threats _).mpr
        hreturned.addresses
    · exact (outgoingRows_idsOf_iff hrewritten hreads hreturned.threats _).mpr
        hreturned.leverages
    · exact (hsource _ _).mpr hreturned.controls
    · exact (outgoingRows_idsOf_iff hrewritten hreads hreturned.controls _).mpr
        hreturned.applies
    · exact hvectors.mpr hreturned.vectors

theorem threatModel_iff (answer : Outcome ThreatModelResult) :
    ThreatModel after subjectID answer ↔
      ThreatModel before subjectID answer := by
  cases answer with
  | ok result =>
    simp only [ThreatModel, returned_iff hrewritten hsubject hreads]
  | error failure =>
    simp only [ThreatModel, returned_iff hrewritten hsubject hreads]

end Reads

end Rewritten

end ComplyTime.Graph
