import ComplyTime.Graph.Loader

/-!
# What the loader has written down

Seen from outside, the loader keeps a book: the stubs of the ingested events it
has handled and the evidence records of the sealed ones, in the order of the
writes.  The graph represents the book, and handling an event appends to it at
most one entry, whichever call fails: the evidence of a sealed event carries
the publisher that the stubs in the book, or their absence, lead to.
-/

namespace ComplyTime.Graph

open Cypher Keyed RemoteStore

/-- What an ingested event leaves behind. -/
structure Stub where
  digest : String
  subjectID : String
  publisher : PublisherIdentity
  deriving DecidableEq, Repr

structure Book where
  stubs : List Stub
  records : List EvidenceRecord

def Book.empty : Book := ⟨[], []⟩

def Book.ingest (book : Book) (stub : Stub) : Book :=
  { book with stubs := book.stubs ++ [stub] }

def Book.seal (book : Book) (record : EvidenceRecord) : Book :=
  { book with records := book.records ++ [record] }

@[simp]
theorem records_ingest (book : Book) (stub : Stub) :
    (book.ingest stub).records = book.records := rfl

@[simp]
theorem stubs_ingest (book : Book) (stub : Stub) :
    (book.ingest stub).stubs = book.stubs ++ [stub] := rfl

@[simp]
theorem records_seal (book : Book) (record : EvidenceRecord) :
    (book.seal record).records = book.records ++ [record] := rfl

@[simp]
theorem stubs_seal (book : Book) (record : EvidenceRecord) :
    (book.seal record).stubs = book.stubs := rfl

/-- The graph says what the book says; of several records with one log index,
the last one describes the node. -/
structure Represents (book : Book) (graph : Materialized) : Prop where
  targets : ∀ logIndex subjectID,
    graph.link (.evidence logIndex) .targets (.subject subjectID) ↔
      ∃ record ∈ book.records, record.logIndex = logIndex ∧
        record.subjectID = subjectID
  published : ∀ logIndex publisher,
    graph.link (.evidence logIndex) .publishedBy (.publisher publisher) ↔
      ∃ record ∈ book.records, record.logIndex = logIndex ∧
        record.publisher = publisher
  described : ∀ earlier record later,
    book.records = earlier ++ record :: later →
    (∀ other ∈ later, other.logIndex ≠ record.logIndex) →
      ∃ properties, graph.node (.evidence record.logIndex) = some properties ∧
        ∀ property ∈ record.properties, properties property.1 = some property.2
  stubbed : ∀ digest subjectID publisher,
    graph.link (.ingestedStub digest subjectID) .publishedBy
        (.publisher publisher) ↔
      ⟨digest, subjectID, publisher⟩ ∈ book.stubs

theorem represents_empty : Represents Book.empty KeyedGraph.empty where
  targets := by simp [KeyedGraph.empty, Book.empty]
  published := by simp [KeyedGraph.empty, Book.empty]
  described := by
    intro earlier record later hsplit
    simp [Book.empty] at hsplit
  stubbed := by simp [KeyedGraph.empty, Book.empty]

/-! ## Upserts that leave the book alone -/

section Frame

variable {book : Book} {graph next : Materialized}

section

variable (hrepresents : Represents book graph)

include hrepresents

/-- The book depends only on the evidence nodes and on who targets what and is
published by whom. -/
theorem Represents.congr (hnode : ∀ logIndex,
      next.node (.evidence logIndex) = graph.node (.evidence logIndex))
    (hlink : ∀ key far,
      (next.link key .targets far ↔ graph.link key .targets far) ∧
      (next.link key .publishedBy far ↔ graph.link key .publishedBy far)) :
    Represents book next where
  targets := by
    intro logIndex subjectID
    rw [(hlink _ _).1]
    exact hrepresents.targets logIndex subjectID
  published := by
    intro logIndex publisher
    rw [(hlink _ _).2]
    exact hrepresents.published logIndex publisher
  described := by
    intro earlier record later hsplit hlast
    rw [hnode]
    exact hrepresents.described earlier record later hsplit hlast
  stubbed := by
    intro digest subjectID publisher
    rw [(hlink _ _).2]
    exact hrepresents.stubbed digest subjectID publisher

theorem Represents.ensure {key : NodeKey}
    (hother : ∀ logIndex, key ≠ .evidence logIndex) :
    Represents book (graph.ensure key) := by
  apply hrepresents.congr
  · intro logIndex
    simp [Materialized.ensure, KeyedGraph.merge, (hother logIndex).symm]
  · exact fun _ _ => ⟨Iff.rfl, Iff.rfl⟩

theorem Represents.define (record : EntityRecord) :
    Represents book (graph.define record) := by
  have hdescribed : Represents book (graph.describe record) := by
    apply hrepresents.congr
    · intro logIndex
      simp [Materialized.describe, Materialized.ensure, KeyedGraph.set,
        KeyedGraph.merge]
    · exact fun _ _ => ⟨Iff.rfl, Iff.rfl⟩
  unfold Materialized.define
  split
  · apply hdescribed.congr
    · exact fun _ => rfl
    · intro key far
      simp [KeyedGraph.connect]
  · exact hdescribed

theorem Represents.relate (record : EdgeRecord) :
    Represents book (graph.relate record) := by
  unfold Materialized.relate
  split
  · apply hrepresents.congr
    · exact fun _ => rfl
    · intro key far
      simp [KeyedGraph.connect]
  · exact hrepresents

end

end Frame

/-! ## Upserts that are entries of the book -/

section Entries

variable {book : Book} {graph : Materialized}

theorem Represents.ingestStub (hrepresents : Represents book graph)
    {digest subjectID : String} {publisher : PublisherIdentity}
    (hsubject : graph.Holds (.subject subjectID))
    (hpublisher : graph.Holds (.publisher publisher)) :
    Represents (book.ingest ⟨digest, subjectID, publisher⟩)
      (graph.ingestStub digest subjectID publisher) := by
  have hensured : Represents book
      (graph.ensure (.ingestedStub digest subjectID)) :=
    hrepresents.ensure fun _ => NodeKey.noConfusion
  rw [Materialized.ingestStub, if_pos ⟨hsubject, hpublisher⟩]
  constructor
  · intro logIndex other
    simpa using hensured.targets logIndex other
  · intro logIndex other
    simpa using hensured.published logIndex other
  · exact hensured.described
  · intro otherDigest otherSubject other
    rw [attributeTo_publishedBy, hensured.stubbed, NodeKey.ingestedStub.injEq,
      NodeKey.publisher.injEq, stubs_ingest, List.mem_append,
      List.mem_singleton, Stub.mk.injEq, and_assoc]
    exact or_comm

theorem lookup_properties (record : EvidenceRecord)
    (properties : String → Option PropertyValue) :
    ∀ property ∈ record.properties,
      assign record.properties properties property.1 = some property.2 := by
  intro property hmem
  simp only [EvidenceRecord.properties, List.mem_cons, List.not_mem_nil,
    or_false] at hmem
  rcases hmem with rfl | rfl | rfl | rfl | rfl <;> rfl

/-- The evidence node after its record is written. -/
theorem node_sealEvidence {record : EvidenceRecord} {logIndex : Int64}
    (hboth : graph.Holds (.subject record.subjectID) ∧
      graph.Holds (.publisher record.publisher)) :
    (graph.sealEvidence record).node (.evidence logIndex) =
      if logIndex = record.logIndex then
        some (assign record.properties
          ((graph.node (.evidence logIndex)).getD
            (NodeKey.evidence logIndex).pattern.node.properties))
      else graph.node (.evidence logIndex) := by
  rw [Materialized.sealEvidence, if_pos hboth]
  by_cases hsame : logIndex = record.logIndex
  · simp [hsame, Materialized.attributeTo, Materialized.ensure,
      KeyedGraph.connect, KeyedGraph.set, KeyedGraph.merge]
  · simp [hsame, Materialized.attributeTo, Materialized.ensure,
      KeyedGraph.connect, KeyedGraph.set, KeyedGraph.merge]

theorem exists_mem_append_singleton {α : Type*} {list : List α} {last : α}
    {condition : α → Prop} :
    (∃ item ∈ list ++ [last], condition item) ↔
      condition last ∨ ∃ item ∈ list, condition item := by
  simp only [List.mem_append, List.mem_singleton, or_and_right, exists_or,
    exists_eq_left]
  exact or_comm

theorem Represents.sealEvidence (hrepresents : Represents book graph)
    {record : EvidenceRecord}
    (hsubject : graph.Holds (.subject record.subjectID))
    (hpublisher : graph.Holds (.publisher record.publisher)) :
    Represents (book.seal record) (graph.sealEvidence record) := by
  have hboth := And.intro hsubject hpublisher
  have hlinks : graph.sealEvidence record = Materialized.attributeTo
      ((graph.ensure (.evidence record.logIndex)).set
        (.evidence record.logIndex) record.properties)
      (.evidence record.logIndex) record.subjectID record.publisher :=
    if_pos hboth
  constructor
  · intro logIndex subjectID
    have htargets := hrepresents.targets logIndex subjectID
    rw [hlinks, attributeTo_targets, records_seal,
      exists_mem_append_singleton, ← htargets, NodeKey.evidence.injEq,
      NodeKey.subject.injEq, eq_comm, @eq_comm _ subjectID]
    rfl
  · intro logIndex publisher
    have hpublished := hrepresents.published logIndex publisher
    rw [hlinks, attributeTo_publishedBy, records_seal,
      exists_mem_append_singleton, ← hpublished, NodeKey.evidence.injEq,
      NodeKey.publisher.injEq, eq_comm, @eq_comm _ publisher]
    rfl
  · intro earlier other later hsplit hlast
    rcases List.eq_nil_or_concat later with rfl | ⟨middle, final, rfl⟩
    · obtain ⟨_, hother⟩ := List.append_inj' hsplit rfl
      obtain rfl := List.singleton_inj.mp hother
      rw [node_sealEvidence hboth, if_pos rfl]
      exact ⟨_, rfl, lookup_properties record _⟩
    · rw [List.concat_eq_append] at hsplit hlast
      have hsame : book.records ++ [record] =
          (earlier ++ other :: middle) ++ [final] := by
        simpa using hsplit
      obtain ⟨hrecords, hfinal⟩ := List.append_inj' hsame rfl
      obtain rfl := List.singleton_inj.mp hfinal
      have hne : other.logIndex ≠ record.logIndex :=
        (hlast record (by simp)).symm
      rw [node_sealEvidence hboth, if_neg hne]
      apply hrepresents.described earlier other middle hrecords
      intro between hmem
      exact hlast between (List.mem_append_left _ hmem)
  · intro digest subjectID publisher
    have hstubbed := hrepresents.stubbed digest subjectID publisher
    rw [hlinks, attributeTo_publishedBy]
    simpa using hstubbed

end Entries

end ComplyTime.Graph
