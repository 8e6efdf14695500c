import ComplyTime.Graph.Writer

/-!
# The materialized graph

The writer creates every node by `MERGE` on the properties that identify it: a
subject by its ID, a publisher by issuer and subject, a stub by digest and
subject, evidence by its log index alone, an entity by label and ID.  So a
graph built by the writer stands for a graph on these keys, and each upsert for
an operation on it.
-/

namespace ComplyTime.Graph

open Cypher Keyed

variable {node : Node NodeLabel String PropertyValue} {graph : Materialized}
  {key near far : NodeKey} {publisher : PublisherIdentity}
  {record : EntityRecord}

theorem NodeKey.eq_of_fits {key other : NodeKey}
    (hkey : key.pattern.fits node = true)
    (hother : other.pattern.fits node = true) : key = other := by
  rw [fits_iff] at hkey hother
  obtain ⟨hlabel, hproperties⟩ := hkey
  obtain ⟨hlabel', hproperties'⟩ := hother
  rw [hlabel] at hlabel'
  cases key <;> cases other <;> simp_all [NodeKey.pattern]
  rename_i left right
  cases left
  cases right
  simp_all

theorem NodeKey.fits_node (key : NodeKey) :
    key.pattern.fits key.pattern.node = true := by
  rw [fits_iff]
  refine ⟨rfl, ?_⟩
  cases key <;>
    simp [NodeKey.pattern, NodePattern.node, assign, List.lookup_cons]

def schema : Schema NodeKey NodeLabel String PropertyValue where
  pattern := NodeKey.pattern
  separated := NodeKey.eq_of_fits
  realised := NodeKey.fits_node

abbrev Materialized := KeyedGraph NodeKey String PropertyValue RelationType

/-! ## Upserts on keys -/

namespace Materialized

variable (graph : Materialized)

def Holds (key : NodeKey) : Prop := (graph.node key).isSome

instance (key : NodeKey) : Decidable (graph.Holds key) :=
  inferInstanceAs (Decidable ((graph.node key).isSome = true))

/-- The node of the key, created with its key properties if need be. -/
def ensure (key : NodeKey) : Materialized :=
  graph.merge key key.pattern.node.properties

/-- A node that targets a subject and is published by a publisher. -/
def attributeTo (key : NodeKey) (subjectID : String)
    (publisher : PublisherIdentity) : Materialized :=
  (graph.connect key .targets (.subject subjectID)).connect key .publishedBy
    (.publisher publisher)

def ingestStub (digest subjectID : String) (publisher : PublisherIdentity) :
    Materialized :=
  if graph.Holds (.subject subjectID) ∧ graph.Holds (.publisher publisher) then
    (graph.ensure (.ingestedStub digest subjectID)).attributeTo
      (.ingestedStub digest subjectID) subjectID publisher
  else graph

def sealEvidence (record : EvidenceRecord) : Materialized :=
  if graph.Holds (.subject record.subjectID) ∧
      graph.Holds (.publisher record.publisher) then
    attributeTo
      ((graph.ensure (.evidence record.logIndex)).set
        (.evidence record.logIndex) record.properties)
      (.evidence record.logIndex) record.subjectID record.publisher
  else graph

/-- The node of an entity with the properties of the record. -/
def describe (record : EntityRecord) : Materialized :=
  (graph.ensure (.entity record.label record.id)).set
    (.entity record.label record.id) record.properties

def define (record : EntityRecord) : Materialized :=
  if (graph.describe record).Holds (.evidence record.evidenceLogIndex) then
    (graph.describe record).connect (.evidence record.evidenceLogIndex)
      .defines (.entity record.label record.id)
  else graph.describe record

def relate (record : EdgeRecord) : Materialized :=
  if graph.Holds (.entity record.fromLabel record.fromID) ∧
      graph.Holds (.entity record.toLabel record.toID) then
    graph.connect (.entity record.fromLabel record.fromID)
      (.edge record.edgeType) (.entity record.toLabel record.toID)
  else graph

end Materialized

@[simp]
theorem attributeTo_targets {subjectID : String} :
    (graph.attributeTo key subjectID publisher).link near .targets far ↔
      (near = key ∧ far = .subject subjectID) ∨
        graph.link near .targets far := by
  simp [Materialized.attributeTo, KeyedGraph.connect]

@[simp]
theorem attributeTo_publishedBy {subjectID : String} :
    (graph.attributeTo key subjectID publisher).link near .publishedBy far ↔
      (near = key ∧ far = .publisher publisher) ∨
        graph.link near .publishedBy far := by
  simp [Materialized.attributeTo, KeyedGraph.connect]

@[simp]
theorem link_ensure (graph : Materialized) (key : NodeKey) :
    (graph.ensure key).link = graph.link := rfl

theorem holds_ensure {key other : NodeKey} :
    (graph.ensure key).Holds other ↔ other = key ∨ graph.Holds other := by
  unfold Materialized.Holds Materialized.ensure KeyedGraph.merge
  by_cases hkey : other = key
  · simp [hkey]
  · simp [hkey]

/-- What an upsert does to the keyed graph. -/
def Upsert.materialize (graph : Materialized) : Upsert → Materialized
  | .subject subjectID => graph.ensure (.subject subjectID)
  | .publisher issuer sub => graph.ensure (.publisher ⟨issuer, sub⟩)
  | .ingestedStub digest subjectID issuer sub =>
    graph.ingestStub digest subjectID ⟨issuer, sub⟩
  | .evidence record => graph.sealEvidence record
  | .entity record => graph.define record
  | .edge record => graph.relate record

/-- The upsert gives no entity an ID other than its own. -/
def Upsert.KeepsKeys : Upsert → Prop
  | .entity record =>
    ∀ value ∈ record.properties.lookup "id", value = .text record.id
  | _ => True

/-! ## Refinement -/

/-- Assignments that leave the properties of a pattern as they are keep its
fit. -/
theorem fits_set {pattern : Pattern}
    {assignments : List (String × PropertyValue)}
    (hfits : pattern.fits node = true) (hsame : ∀ property ∈ pattern.properties,
      ∀ value ∈ assignments.lookup property.1, value = property.2) :
    pattern.fits (node.set assignments) = true := by
  rw [fits_iff] at hfits ⊢
  refine ⟨hfits.1, ?_⟩
  intro property hmem
  change (assignments.lookup property.1).or (node.properties property.1) = _
  cases hlookup : assignments.lookup property.1 with
  | none => exact hfits.2 property hmem
  | some value => rw [hsame property hmem value hlookup, Option.some_or]

theorem keepsKey_evidence (record : EvidenceRecord) :
    schema.KeepsKey (.evidence record.logIndex) record.properties := by
  intro node hfits
  apply fits_set hfits
  intro property hproperty value hvalue
  obtain rfl := List.mem_singleton.mp hproperty
  simp [EvidenceRecord.properties, List.lookup_cons] at hvalue

theorem keepsKey_entity (hkeeps : (Upsert.entity record).KeepsKeys) :
    schema.KeepsKey (.entity record.label record.id) record.properties := by
  intro node hfits
  apply fits_set hfits
  intro property hproperty
  obtain rfl := List.mem_singleton.mp hproperty
  exact hkeeps

section Refinement

variable {graph : EvidenceGraph} {materialized : Materialized}

section

variable (hrefines : schema.Refines graph materialized)

include hrefines

/-- `MERGE` on a single row binds the node of the key. -/
theorem mergeNode_refines {Row : Type} (key : NodeKey) (row : Row) :
    ∃ merged index,
      (Table.mk graph [row]).mergeNode key.pattern = ⟨merged, [(row, index)]⟩ ∧
      schema.Refines merged (materialized.ensure key) ∧
      schema.At merged key index ∧
      ∀ {other position}, schema.At graph other position →
        schema.At merged other position := by
  obtain ⟨merged, index, hmerge, hmerged, hat, hkept⟩ := hrefines.merge key
  refine ⟨merged, index, ?_, hmerged, hat, hkept⟩
  change graph.merge key.pattern = _ at hmerge
  rw [mergeNode_one, hmerge]
  rfl

theorem matchNode_refines {Row : Type} (key : NodeKey) (row : Row) :
    (materialized.Holds key ∧ ∃ index, schema.At graph key index ∧
      (Table.mk graph [row]).matchNode key.pattern = ⟨graph, [(row, index)]⟩) ∨
    (¬ materialized.Holds key ∧
      (Table.mk graph [row]).matchNode key.pattern = ⟨graph, []⟩) := by
  rw [matchNode_one]
  by_cases hholds : materialized.Holds key
  · obtain ⟨index, hat, hselect⟩ := hrefines.select_present hholds
    change graph.select key.pattern = _ at hselect
    exact .inl ⟨hholds, index, hat, by rw [hselect]; rfl⟩
  · have hselect := hrefines.select_absent hholds
    change graph.select key.pattern = _ at hselect
    exact .inr ⟨hholds, by rw [hselect]; rfl⟩

/-- Two `MATCH` clauses bind both nodes or leave no row. -/
theorem matchBoth_refines (first second : NodeKey) :
    ((materialized.Holds first ∧ materialized.Holds second) ∧
      ∃ left right, schema.At graph first left ∧
        schema.At graph second right ∧
        (graph.query.matchNode first.pattern).matchNode second.pattern =
          ⟨graph, [(((), left), right)]⟩) ∨
    (¬ (materialized.Holds first ∧ materialized.Holds second) ∧
      (graph.query.matchNode first.pattern).matchNode second.pattern =
        ⟨graph, []⟩) := by
  rw [Graph.query]
  rcases matchNode_refines hrefines first () with
    ⟨hfirst, left, hleft, hmatch⟩ | ⟨hmissing, hmatch⟩
  · rw [hmatch]
    rcases matchNode_refines hrefines second ((), left) with
      ⟨hsecond, right, hright, hmatch'⟩ | ⟨hmissing, hmatch'⟩
    · exact .inl ⟨⟨hfirst, hsecond⟩, left, right, hleft, hright, hmatch'⟩
    · exact .inr ⟨fun hboth => hmissing hboth.2, hmatch'⟩
  · rw [hmatch]
    exact .inr ⟨fun hboth => hmissing hboth.1, rfl⟩

theorem ensure_refines (key : NodeKey) :
    schema.Refines (graph.query.mergeNode key.pattern).graph
      (materialized.ensure key) := by
  obtain ⟨merged, index, hmerge, hmerged, _⟩ :=
    mergeNode_refines hrefines key ()
  rw [Graph.query, hmerge]
  exact hmerged

theorem upsertIngestedStub_refines (digest subjectID issuer sub : String) :
    schema.Refines (upsertIngestedStub digest subjectID issuer sub graph)
      (materialized.ingestStub digest subjectID ⟨issuer, sub⟩) := by
  unfold upsertIngestedStub Materialized.ingestStub
  rcases matchBoth_refines hrefines (.subject subjectID)
    (.publisher ⟨issuer, sub⟩) with
    ⟨hboth, subject, publisher, hsubject, hpublisher, hmatch⟩ |
      ⟨hmissing, hmatch⟩
  · obtain ⟨merged, stub, hmerge, hmerged, hstub, hkept⟩ :=
      mergeNode_refines hrefines (.ingestedStub digest subjectID)
        (((), subject), publisher)
    rw [if_pos hboth, hmatch, hmerge]
    have htargets := hmerged.connect hstub (hkept hsubject) .targets
    exact htargets.connect (at_connect.mpr hstub)
      (at_connect.mpr (hkept hpublisher)) .publishedBy
  · rw [if_neg hmissing, hmatch]
    exact hrefines

theorem upsertEvidence_refines (record : EvidenceRecord) :
    schema.Refines (upsertEvidence record graph)
      (materialized.sealEvidence record) := by
  unfold upsertEvidence Materialized.sealEvidence
  rcases matchBoth_refines hrefines (.subject record.subjectID)
    (.publisher record.publisher) with
    ⟨hboth, subject, publisher, hsubject, hpublisher, hmatch⟩ |
      ⟨hmissing, hmatch⟩
  · obtain ⟨merged, index, hmerge, hmerged, hevidence, hkept⟩ :=
      mergeNode_refines hrefines (.evidence record.logIndex)
        (((), subject), publisher)
    rw [if_pos hboth, hmatch, hmerge]
    have hkeeps := keepsKey_evidence record
    have hset := hmerged.set hevidence hkeeps
    have htargets := hset.connect ((at_set hevidence hkeeps).mpr hevidence)
      ((at_set hevidence hkeeps).mpr (hkept hsubject)) .targets
    exact htargets.connect
      (at_connect.mpr ((at_set hevidence hkeeps).mpr hevidence))
      (at_connect.mpr ((at_set hevidence hkeeps).mpr (hkept hpublisher)))
      .publishedBy
  · rw [if_neg hmissing, hmatch]
    exact hrefines

theorem upsertEdge_refines (record : EdgeRecord) :
    schema.Refines (upsertEdge record graph) (materialized.relate record) := by
  unfold upsertEdge Materialized.relate
  rcases matchBoth_refines hrefines (.entity record.fromLabel record.fromID)
    (.entity record.toLabel record.toID) with
    ⟨hboth, source, target, hsource, htarget, hmatch⟩ | ⟨hmissing, hmatch⟩
  · rw [if_pos hboth, hmatch]
    exact hrefines.connect hsource htarget (.edge record.edgeType)
  · rw [if_neg hmissing, hmatch]
    exact hrefines

theorem upsertEntity_refines (hkeeps : (Upsert.entity record).KeepsKeys) :
    schema.Refines (upsertEntity record graph)
      (materialized.define record) := by
  unfold upsertEntity Materialized.define
  obtain ⟨merged, node, hmerge, hmerged, hnode, _⟩ :=
    mergeNode_refines hrefines (.entity record.label record.id) ()
  have hkey := keepsKey_entity hkeeps
  have hset : schema.Refines (merged.set node record.properties)
      (materialized.describe record) := hmerged.set hnode hkey
  rw [Graph.query, hmerge, setProperties_one]
  rcases matchNode_refines hset (.evidence record.evidenceLogIndex)
    ((), node) with ⟨hholds, evidence, hevidence, hmatch⟩ | ⟨hmissing, hmatch⟩
  · rw [if_pos hholds, hmatch]
    exact hset.connect hevidence ((at_set hnode hkey).mpr hnode) .defines
  · rw [if_neg hmissing, hmatch]
    exact hset

theorem Upsert.apply_refines {upsert : Upsert} (hkeeps : upsert.KeepsKeys) :
    schema.Refines (upsert.apply graph) (upsert.materialize materialized) := by
  cases upsert with
  | subject subjectID => exact ensure_refines hrefines (.subject subjectID)
  | publisher issuer sub =>
    exact ensure_refines hrefines (.publisher ⟨issuer, sub⟩)
  | ingestedStub digest subjectID issuer sub =>
    exact upsertIngestedStub_refines hrefines digest subjectID issuer sub
  | evidence record => exact upsertEvidence_refines hrefines record
  | entity record => exact upsertEntity_refines hrefines hkeeps
  | edge record => exact upsertEdge_refines hrefines record

end

end Refinement

end ComplyTime.Graph
