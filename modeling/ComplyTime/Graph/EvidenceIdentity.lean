import ComplyTime.Graph.EvidenceQuery
import ComplyTime.Graph.LoaderRuns

/-!
# Evidence of several subjects

Every ledger numbers its entries from zero, and the loader keys evidence by
that number alone.  As long as the sealed events of different subjects carry
different log indices, the rows of a subject are its own sealed events, and
events of other subjects leave them alone.
-/

namespace ComplyTime.Graph

open Cypher Keyed RemoteStore TransitionSystem

/-! ## Rows of a book -/

def EvidenceRecord.item (record : EvidenceRecord) : EvidenceItem where
  logIndex := record.logIndex
  digest := record.digest
  artifactType := record.artifactType
  status := record.status
  sealed := record.sealed
  publisher := record.publisher

def subjectItems (records : List EvidenceRecord) (subjectID : String) :
    List EvidenceItem :=
  ((records.filter fun record => record.subjectID = subjectID).map
    EvidenceRecord.item).insertionSort
      fun left right => left.logIndex.toInt ≤ right.logIndex.toInt

theorem perm_subjectItems (records : List EvidenceRecord)
    (subjectID : String) :
    (subjectItems records subjectID).Perm
      ((records.filter fun record => record.subjectID = subjectID).map
        EvidenceRecord.item) :=
  List.perm_insertionSort _ _

theorem mem_subjectItems {records : List EvidenceRecord} {subjectID : String}
    {item : EvidenceItem} :
    item ∈ subjectItems records subjectID ↔ ∃ record ∈ records,
      record.subjectID = subjectID ∧ record.item = item := by
  rw [(perm_subjectItems records subjectID).mem_iff, List.mem_map]
  simp only [List.mem_filter, decide_eq_true_eq, and_assoc]

section Rows

variable {book : Book} {graph : Materialized} {record : EvidenceRecord}

/-- The records have log indices of their own. -/
def Book.Indexed (book : Book) : Prop :=
  (book.records.map EvidenceRecord.logIndex).Nodup

theorem isItem_of_record (hrepresents : Represents book graph)
    (hindexed : book.Indexed) (hmem : record ∈ book.records) :
    IsItem graph record.subjectID record.item := by
  obtain ⟨earlier, later, hsplit⟩ := List.append_of_mem hmem
  have hlast : ∀ other ∈ later, other.logIndex ≠ record.logIndex := by
    intro other hother hsame
    have hnodup := hindexed
    rw [Book.Indexed, hsplit, List.map_append, List.map_cons,
      List.nodup_append] at hnodup
    apply (List.nodup_cons.mp hnodup.2.1).1
    rw [← hsame]
    exact List.mem_map_of_mem hother
  obtain ⟨properties, hnode, hproperties⟩ :=
    hrepresents.described earlier record later hsplit hlast
  constructor
  · exact (hrepresents.targets _ _).mpr ⟨record, hmem, rfl, rfl⟩
  · exact (hrepresents.published _ _).mpr ⟨record, hmem, rfl, rfl⟩
  · refine ⟨properties, hnode, ?_, ?_, ?_, ?_⟩
    · exact hproperties ("digest", .text record.digest)
        (by simp [EvidenceRecord.properties])
    · exact hproperties ("artifactType", .text record.artifactType)
        (by simp [EvidenceRecord.properties])
    · exact hproperties ("status", .text record.status)
        (by simp [EvidenceRecord.properties])
    · exact hproperties ("sealed", .localDateTime record.sealed)
        (by simp [EvidenceRecord.properties])

theorem eq_of_logIndex (hindexed : book.Indexed) {left right : EvidenceRecord}
    (hleft : left ∈ book.records) (hright : right ∈ book.records)
    (hsame : left.logIndex = right.logIndex) : left = right :=
  List.inj_on_of_nodup_map hindexed hleft hright hsame

/-- An evidence node with a publisher is that of one record. -/
theorem record_of_links (hrepresents : Represents book graph)
    (hindexed : book.Indexed) {logIndex : Int64} {subjectID : String}
    {publisher : PublisherIdentity}
    (htargets : graph.link (.evidence logIndex) .targets (.subject subjectID))
    (hpublished : graph.link (.evidence logIndex) .publishedBy
      (.publisher publisher)) :
    ∃ record ∈ book.records, record.logIndex = logIndex ∧
      record.subjectID = subjectID ∧ record.publisher = publisher := by
  obtain ⟨record, hmem, hindex, hsubject⟩ :=
    (hrepresents.targets _ _).mp htargets
  obtain ⟨other, hother, hotherIndex, hpublisher⟩ :=
    (hrepresents.published _ _).mp hpublished
  obtain rfl := eq_of_logIndex hindexed hmem hother
    (hindex.trans hotherIndex.symm)
  exact ⟨record, hmem, hindex, hsubject, hpublisher⟩

theorem IsItem.eq {subjectID : String} {left right : EvidenceItem}
    (hleft : IsItem graph subjectID left)
    (hright : IsItem graph subjectID right)
    (hindex : left.logIndex = right.logIndex)
    (hpublisher : left.publisher = right.publisher) : left = right := by
  obtain ⟨properties, hnode, hdigest, htype, hstatus, hsealed⟩ :=
    hleft.described
  obtain ⟨others, hother, hdigest', htype', hstatus', hsealed'⟩ :=
    hright.described
  rw [hindex, hother] at hnode
  obtain rfl := Option.some.inj hnode
  rw [hdigest] at hdigest'
  rw [htype] at htype'
  rw [hstatus] at hstatus'
  rw [hsealed] at hsealed'
  cases left
  cases right
  simp_all

theorem lists_subjectItems (hrepresents : Represents book graph)
    (hindexed : book.Indexed) (subjectID : String) :
    Lists graph subjectID (subjectItems book.records subjectID) where
  mem_iff := by
    intro item
    rw [mem_subjectItems]
    constructor
    · rintro ⟨record, hmem, rfl, rfl⟩
      exact isItem_of_record hrepresents hindexed hmem
    · intro hitem
      obtain ⟨record, hmem, hindex, rfl, hpublisher⟩ := record_of_links
        hrepresents hindexed hitem.targets hitem.published
      have hrecord := isItem_of_record hrepresents hindexed hmem
      exact ⟨record, hmem, rfl, hrecord.eq hitem hindex hpublisher⟩
  ordered := by
    have hnodup : ((subjectItems book.records subjectID).map
        EvidenceItem.logIndex).Nodup := by
      rw [((perm_subjectItems book.records subjectID).map _).nodup_iff,
        List.map_map]
      exact hindexed.sublist (List.filter_sublist.map _)
    have hsorted : (subjectItems book.records subjectID).Pairwise
        fun left right => left.logIndex.toInt ≤ right.logIndex.toInt :=
      List.pairwise_insertionSort _ _
    apply (hsorted.and (List.pairwise_map.mp hnodup)).imp
    rintro left right ⟨hle, hne⟩
    exact lt_of_le_of_ne hle fun heq => hne (Int64.toInt_inj.mp heq)
  complete := by
    intro logIndex publisher htargets hpublished
    obtain ⟨record, hmem, hindex, hsubject, hpublisher⟩ :=
      record_of_links hrepresents hindexed htargets hpublished
    exact ⟨record.item, mem_subjectItems.mpr ⟨record, hmem, hsubject, rfl⟩,
      hindex, hpublisher⟩

end Rows

/-! ## Handled events -/

/-- What a row shows of a sealed event. -/
structure SealedEvidence where
  subjectID : String
  logIndex : Int64
  digest : String
  artifactType : String
  deriving DecidableEq, Repr

def EvidenceRecord.evidence (record : EvidenceRecord) : SealedEvidence where
  subjectID := record.subjectID
  logIndex := record.logIndex
  digest := record.digest
  artifactType := record.artifactType

def EvidenceItem.evidence (subjectID : String) (item : EvidenceItem) :
    SealedEvidence where
  subjectID := subjectID
  logIndex := item.logIndex
  digest := item.digest
  artifactType := item.artifactType

/-- The sealed event of a delivery whose receipt can be read. -/
def Delivery.evidence (loader : Loader) (delivery : Delivery) :
    Option SealedEvidence :=
  match delivery.message with
  | .ok (.sealed _ (.ok data)) =>
    (readReceipt loader delivery.surroundings data.storageRef).map
      fun unwrapped => ⟨data.subjectID, data.logIndex, data.contentDigest,
        inferArtifactType loader.library unwrapped.content⟩
  | _ => none

def sealedEvidence (loader : Loader) (history : List Handled) :
    List SealedEvidence :=
  history.filterMap fun handled => handled.delivery.evidence loader

/-- Every sealed event whose receipt can be read is handled to the end, and a
ledger gives no index twice. -/
structure HandlesLedgers (loader : Loader) (history : List Handled) :
    Prop where
  acked : ∀ handled ∈ history, handled.delivery.evidence loader ≠ none →
    handled.verdict = some .ack
  ledgers : (sealedEvidence loader history).Pairwise fun left right =>
    left.subjectID = right.subjectID → left.logIndex ≠ right.logIndex

/-- No log index is shared by sealed events of two subjects. -/
def IndicesDisjoint (loader : Loader) (history : List Handled) : Prop :=
  (sealedEvidence loader history).Pairwise fun left right =>
    left.subjectID ≠ right.subjectID → left.logIndex ≠ right.logIndex

section Events

variable {loader : Loader} {history : List Handled} {handled : Handled}
  {book next : Book}

theorem sealedEvidence_append :
    sealedEvidence loader (history ++ [handled]) =
      sealedEvidence loader history ++
        (handled.delivery.evidence loader).toList := by
  rw [sealedEvidence, List.filterMap_append]
  cases hevidence : handled.delivery.evidence loader <;>
    simp [sealedEvidence, hevidence]

theorem SealsAs.evidence {delivery : Delivery} {record : EvidenceRecord}
    (hseals : SealsAs loader book delivery record) :
    delivery.evidence loader = some record.evidence := by
  obtain ⟨time, data, unwrapped, publisher, hmessage, hreceipt, -, rfl⟩ :=
    hseals
  simp [Delivery.evidence, hmessage, hreceipt, evidenceRecord,
    EvidenceRecord.evidence]

theorem sealed_of_evidence {delivery : Delivery}
    (hevidence : delivery.evidence loader ≠ none) :
    ∃ time data, delivery.message = .ok (.sealed time (.ok data)) := by
  unfold Delivery.evidence at hevidence
  split at hevidence
  · rename_i time data hmessage
    exact ⟨time, data, hmessage⟩
  · exact absurd rfl hevidence

/-- A delivery adds the record of its sealed event. -/
theorem Enters.records (henters : Enters loader book handled next)
    (hacked : handled.delivery.evidence loader ≠ none →
      handled.verdict = some .ack) :
    next.records.map EvidenceRecord.evidence =
      book.records.map EvidenceRecord.evidence ++
        (handled.delivery.evidence loader).toList := by
  by_cases hevidence : handled.delivery.evidence loader = none
  · rw [hevidence]
    rcases henters.cases with ⟨data, -, rfl⟩ | ⟨record, hseals, rfl⟩ | rfl
    · simp
    · rw [hseals.evidence] at hevidence
      cases hevidence
    · simp
  · obtain ⟨time, data, hmessage⟩ := sealed_of_evidence hevidence
    obtain ⟨record, hseals, -, rfl⟩ :=
      henters.of_sealed hmessage (hacked hevidence)
    rw [hseals.evidence]
    simp

section

variable (hbook : BookOf loader history book)

include hbook

theorem records_of_bookOf
    (hacked : ∀ handled ∈ history, handled.delivery.evidence loader ≠ none →
      handled.verdict = some .ack) :
    book.records.map EvidenceRecord.evidence =
      sealedEvidence loader history := by
  induction hbook with
  | empty => rfl
  | @deliver history handled book next _ henters ih =>
    have hearlier := ih fun earlier hmem =>
      hacked earlier (List.mem_append_left _ hmem)
    rw [henters.records (hacked handled (by simp)), hearlier,
      sealedEvidence_append]

theorem indexed_of_bookOf (hhandles : HandlesLedgers loader history)
    (hdisjoint : IndicesDisjoint loader history) : book.Indexed := by
  have hnodup : ((sealedEvidence loader history).map
      SealedEvidence.logIndex).Nodup := by
    apply List.pairwise_map.mpr
    apply (hhandles.ledgers.and hdisjoint).imp
    rintro left right ⟨hsame, hother⟩
    by_cases hsubject : left.subjectID = right.subjectID
    · exact hsame hsubject
    · exact hother hsubject
  rw [← records_of_bookOf hbook hhandles.acked, List.map_map] at hnodup
  exact hnodup

theorem perm_evidence_subjectItems (hhandles : HandlesLedgers loader history)
    (subjectID : String) :
    ((subjectItems book.records subjectID).map
      (EvidenceItem.evidence subjectID)).Perm
        ((sealedEvidence loader history).filter fun evidence =>
          evidence.subjectID = subjectID) := by
  have hevidence : ((book.records.filter fun record =>
      record.subjectID = subjectID).map EvidenceRecord.item).map
        (EvidenceItem.evidence subjectID) =
      (sealedEvidence loader history).filter fun evidence =>
        evidence.subjectID = subjectID := by
    rw [← records_of_bookOf hbook hhandles.acked, List.filter_map, List.map_map]
    apply List.map_congr_left
    intro record hmem
    have hsubject : record.subjectID = subjectID := by
      simpa using (List.mem_filter.mp hmem).2
    rw [← hsubject]
    rfl
  rw [← hevidence]
  exact (perm_subjectItems book.records subjectID).map _

end

end Events

/-! ## The rows of a subject -/

/-- While log indices are not shared, the rows of every subject are its handled
sealed events, and handling a sealed event of one subject leaves the evidence
of every other as it was. -/
theorem rows_are_sealed_evidence {loader : Loader} {state : LoaderState}
    (hreach : Reaches (loaderStep loader) anyStep .initial state)
    (hhandles : HandlesLedgers loader state.history)
    (hdisjoint : IndicesDisjoint loader state.history) :
    (∀ subjectID, ∃ rows,
      (∀ collected, Keyset.Collects (fetchPage state.graph subjectID) none
        collected ↔ collected = rows) ∧
      (rows.map (EvidenceItem.evidence subjectID)).Perm
        ((sealedEvidence loader state.history).filter fun evidence =>
          evidence.subjectID = subjectID)) ∧
    ∀ delivery time data subjectID,
      delivery.message = .ok (.sealed time (.ok data)) →
      data.subjectID ≠ subjectID →
      HandlesLedgers loader (state.deliver loader delivery).history →
      IndicesDisjoint loader (state.deliver loader delivery).history →
        ∀ filter, evidence (state.deliver loader delivery).graph subjectID
          filter = evidence state.graph subjectID filter := by
  obtain ⟨book, hstands, hbook⟩ := bookOf_of_reaches hreach
  have hindexed := indexed_of_bookOf hbook hhandles hdisjoint
  obtain ⟨graph, hrefines, hrepresents⟩ := hstands
  constructor
  · intro subjectID
    have hcollects := collects_items hrefines
      (lists_subjectItems hrepresents hindexed subjectID)
    refine ⟨subjectItems book.records subjectID, ?_,
      perm_evidence_subjectItems hbook hhandles subjectID⟩
    intro collected
    constructor
    · exact fun hother => hother.unique hcollects
    · rintro rfl
      exact hcollects
  · intro delivery time data subjectID hmessage hother hhandles' hdisjoint'
    obtain ⟨later, verdict, hhistory, henters, graph', hrefines',
      hrepresents'⟩ := enters_deliver loader ⟨graph, hrefines, hrepresents⟩
        delivery
    rw [hhistory] at hhandles' hdisjoint'
    have hindexed' := indexed_of_bookOf (.deliver hbook henters) hhandles'
      hdisjoint'
    have hitems : subjectItems later.records subjectID =
        subjectItems book.records subjectID := by
      cases henters with
      | @entry event next hsealed hentry =>
        rw [hmessage] at hsealed
        obtain rfl := Except.ok.inj hsealed
        obtain ⟨unwrapped, publisher, -, -, rfl⟩ := hentry
        simp [subjectItems, evidenceRecord, hother]
      | nothing hunhandled => rfl
    intro filter
    have hlists' := lists_subjectItems hrepresents' hindexed' subjectID
    rw [hitems] at hlists'
    rw [evidence_eq hrefines' hlists', evidence_eq hrefines
      (lists_subjectItems hrepresents hindexed subjectID)]

/-! ## Two ledgers -/

def disjointRun : LoaderState :=
  runPlain [sealedDelivery "alpha" "digest-a" 0 builder,
    sealedDelivery "beta" "digest-b" 1 builder,
    sealedDelivery "alpha" "digest-c" 2 builder]

theorem disjointRun_rows :
    ∃ rows, Keyset.Collects (fetchPage disjointRun.graph "alpha") none rows ∧
      (rows.map (EvidenceItem.evidence "alpha")).Perm
        [⟨"alpha", 0, "digest-a", "unknown"⟩,
          ⟨"alpha", 2, "digest-c", "unknown"⟩] := by
  have hreach : Reaches (loaderStep plainLoader) anyStep .initial
      disjointRun := reaches_foldl plainLoader _ .refl
  have hhandles : HandlesLedgers plainLoader disjointRun.history :=
    ⟨by decide +kernel, by decide +kernel⟩
  have hdisjoint : IndicesDisjoint plainLoader disjointRun.history := by
    unfold IndicesDisjoint
    decide +kernel
  have hsealed : ((sealedEvidence plainLoader disjointRun.history).filter
      fun evidence => evidence.subjectID = "alpha") =
        [⟨"alpha", 0, "digest-a", "unknown"⟩,
          ⟨"alpha", 2, "digest-c", "unknown"⟩] := by
    decide +kernel
  obtain ⟨rows, hrows, hperm⟩ :=
    (rows_are_sealed_evidence hreach hhandles hdisjoint).1 "alpha"
  rw [hsealed] at hperm
  exact ⟨rows, (hrows rows).mpr rfl, hperm⟩

/-- The digests on the first page of a subject. -/
def shownDigests (graph : EvidenceGraph) (subjectID : String) :
    Option (List String) :=
  (evidence graph subjectID (unfiltered none)).toOption.map fun result =>
    result.evidence.map EvidenceItem.digest

/-- The first entries of two ledgers share an index: handling the one of `beta`
rewrites the row of `alpha`. -/
theorem first_entries_collide :
    let before := runPlain [sealedDelivery "alpha" "digest-a" 0 builder]
    let after := before.deliver plainLoader
      (sealedDelivery "beta" "digest-b" 0 builder)
    after.history.map Handled.verdict = [some .ack, some .ack] ∧
      shownDigests before.graph "alpha" = some ["digest-a"] ∧
      shownDigests after.graph "alpha" = some ["digest-b"] := by
  decide +kernel

end ComplyTime.Graph
