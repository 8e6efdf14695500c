import ComplyTime.Graph.LoaderRuns
import ComplyTime.Graph.SealedWrites

/-!
# Redelivered sealed events

The stream delivers a message again until it is acknowledged, so a sealed event
may be handled twice.  With the same receipt, the same answer of the publisher
lookup and the same sealed time, the second handling makes the same upserts and
changes nothing, on any graph.  An event without a time counts as sealed when
it is handled, and the producer sets none; a handling that comes to the evidence
at another time then changes it.
-/

namespace ComplyTime.Graph

open Cypher Keyed Merging RemoteStore

/-- The event `PublishEvidenceSealed` builds: `cloudevents.NewEvent` sets no
time attribute. -/
def publishEvidenceSealed (data : EvidenceSealedData) : Event :=
  .sealed 0 (.ok data)

/-- The graph after an event has been handled, every write performed. -/
def handled (loader : Loader) (surroundings : Surroundings) (event : Event)
    (graph : EvidenceGraph) : EvidenceGraph :=
  (handleMessage loader surroundings (.ok event) ⟨graph, []⟩).2.store

theorem handled_sealed (loader : Loader) (surroundings : Surroundings)
    (time : Time) (data : EvidenceSealedData) (graph : EvidenceGraph) :
    handled loader surroundings (.sealed time (.ok data)) graph =
      applyUpserts (sealedUpserts loader data
        (readReceipt loader surroundings data.storageRef)
        (sealedTime surroundings time) (lookupAnswer surroundings data graph))
        graph :=
  handleSealed_makes.completes graph

/-! ## The second handling -/

theorem readReceipt_congr {loader : Loader} {first second : Surroundings}
    (hlocker : second.respond = first.respond) (storageRef : String) :
    readReceipt loader second storageRef =
      readReceipt loader first storageRef := by
  simp only [readReceipt, fetchArtifact, requestArtifact, hlocker]

/-- The handling comes to the write of the evidence: the receipt is fetched and
unwrapped, and the publisher lookup does not panic. -/
def WritesEvidence (loader : Loader) (surroundings : Surroundings)
    (data : EvidenceSealedData) (graph : EvidenceGraph) : Prop :=
  (∃ receiptBytes unwrapped,
    fetchArtifact loader surroundings data.storageRef = .ok receiptBytes ∧
    Receipt.unwrapContent loader.library receiptBytes = .ok unwrapped) ∧
  ∀ text, lookupAnswer surroundings data graph ≠ .error (.panic text)

theorem writesEvidence_iff {loader : Loader} {surroundings : Surroundings}
    {data : EvidenceSealedData} {graph : EvidenceGraph} :
    WritesEvidence loader surroundings data graph ↔
      (∃ unwrapped, readReceipt loader surroundings data.storageRef =
        some unwrapped) ∧
      ∃ publisher, resolved (lookupAnswer surroundings data graph) =
        some publisher := by
  apply and_congr
  · unfold readReceipt
    cases fetchArtifact loader surroundings data.storageRef with
    | error failure => simp
    | ok receiptBytes =>
      cases hunwrap : Receipt.unwrapContent loader.library receiptBytes <;>
        simp [hunwrap, Except.toOption]
  · rcases lookupAnswer surroundings data graph with (_ | _) | _ <;>
      simp [resolved]

section Evidence

variable {loader : Loader} {data : EvidenceSealedData}
  {unwrapped : Receipt.UnwrapResult} {answer : Outcome PublisherIdentity}
  {content : GraphContent}

theorem sealedUpserts_congr {receipt : Option Receipt.UnwrapResult}
    (hnone : receipt = none ∨ resolved answer = none) (first second : Time) :
    sealedUpserts loader data receipt second answer =
      sealedUpserts loader data receipt first answer := by
  rcases hnone with rfl | hpanic
  · rfl
  · cases receipt with
    | none => rfl
    | some unwrapped =>
      simp only [sealedUpserts, hpanic]
      rfl

/-- The only node of an evidence key that the plan merges. -/
theorem evidence_mem_writesOf {receipt : Option Receipt.UnwrapResult}
    {sealed : Time} {logIndex : Int64}
    {assignments : List (String × PropertyValue)}
    (hmem : Write.node (.evidence logIndex) assignments ∈
      writesOf (sealedUpserts loader data receipt sealed answer)) :
    assignments.lookup "sealed" = some (.localDateTime sealed) := by
  obtain ⟨upsert, hupsert, hwrite⟩ := List.mem_flatMap.mp hmem
  obtain ⟨unwrapped, -, rfl | ⟨publisher, rfl | rfl | hartifact⟩⟩ :=
    mem_sealedUpserts hupsert
  · simp [Upsert.writes] at hwrite
  · simp [Upsert.writes] at hwrite
  · simp only [Upsert.writes, attributedWrites, List.mem_cons,
      List.not_mem_nil, or_false, Write.node.injEq, reduceCtorEq] at hwrite
    rw [hwrite.2]
    rfl
  · rw [artifactUpserts] at hartifact
    split at hartifact
    · cases hartifact
    rcases mem_upserts.mp hartifact with ⟨entity, -, rfl⟩ | ⟨edge, -, hedge⟩
    · simp [Upsert.writes] at hwrite
    · simp only [edgeUpserts, List.mem_cons, List.not_mem_nil, or_false]
        at hedge
      rcases hedge with rfl | rfl | rfl <;> simp [Upsert.writes] at hwrite

variable {publisher : PublisherIdentity}

/-- After the writes there is evidence with the log index, and whatever carries
it was sealed at the time of the plan. -/
theorem sealed_of_run (sealed : Time)
    (hresolved : resolved answer = some publisher) :
    Has (run schema (writesOf (sealedUpserts loader data (some unwrapped)
        sealed answer)) content) (.evidence data.logIndex) ∧
    ∀ node ∈ (run schema (writesOf (sealedUpserts loader data (some unwrapped)
        sealed answer)) content).nodes,
      (schema.pattern (.evidence data.logIndex)).fits node = true →
        node.properties "sealed" = some (.localDateTime sealed) := by
  let record := evidenceRecord data
    (inferArtifactType loader.library unwrapped.content) publisher sealed
  have hkeeps : ∀ write ∈ writesOf (sealedUpserts loader data (some unwrapped)
      sealed answer), write.KeepsKeys schema :=
    fun write => keepsKeys_writesOf fun _ => keepsKeys_sealedUpserts
  have hmem : Write.node (.evidence data.logIndex) record.properties ∈
      writesOf (sealedUpserts loader data (some unwrapped) sealed answer) := by
    apply List.mem_flatMap.mpr
    refine ⟨.evidence record, ?_, List.mem_cons_self⟩
    simp [sealedUpserts, hresolved, evidenceUpserts, record]
  refine ⟨ready_sealedUpserts.2.done hkeeps hmem, ?_⟩
  intro node hnode hfits
  rw [← reviseAll_of_mem_run hkeeps hnode, properties_reviseAll hkeeps,
    assigned_eq_some hmem hfits (evidence_mem_writesOf hmem)]
  · rfl
  · rintro other others hother hfitsOther found hfound
    obtain rfl := schema.separated hfitsOther hfits
    rw [evidence_mem_writesOf hother] at hfound
    exact (Option.some.inj hfound).symm

theorem exists_sealed {logIndex : Int64} {sealed : Time}
    (hsealed : Has content (.evidence logIndex) ∧ ∀ node ∈ content.nodes,
      (schema.pattern (.evidence logIndex)).fits node = true →
        node.properties "sealed" = some (.localDateTime sealed)) :
    ∃ node ∈ content.nodes,
      (schema.pattern (.evidence logIndex)).fits node = true ∧
        node.properties "sealed" = some (.localDateTime sealed) := by
  obtain ⟨hhas, hall⟩ := hsealed
  obtain ⟨node, hnode⟩ := List.exists_mem_of_ne_nil _
    (fun hnil => hhas (positions_eq_nil_iff.mpr hnil))
  obtain ⟨hmem, hfits⟩ := List.mem_filter.mp hnode
  exact ⟨node, hmem, hfits, hall node hmem hfits⟩

end Evidence

/-- Handling a sealed event again leaves every node, property and relationship
of any graph as it was, exactly if the event carries a time, the clock reads the
same, or the handling does not come to the evidence. -/
theorem redelivery_harmless_iff (loader : Loader) (graph : EvidenceGraph)
    (time : Time) (data : EvidenceSealedData) {first second : Surroundings}
    (hlocker : second.respond = first.respond)
    (hanswer : lookupAnswer second data
        (handled loader first (.sealed time (.ok data)) graph) =
      lookupAnswer first data graph) :
    contentOf (handled loader second (.sealed time (.ok data))
        (handled loader first (.sealed time (.ok data)) graph)) =
      contentOf (handled loader first (.sealed time (.ok data)) graph) ↔
    time ≠ 0 ∨ second.now = first.now ∨
      ¬ WritesEvidence loader first data graph := by
  let receipt := readReceipt loader first data.storageRef
  let answer := lookupAnswer first data graph
  have hfirst : contentOf (handled loader first (.sealed time (.ok data))
      graph) = run schema (writesOf (sealedUpserts loader data receipt
        (sealedTime first time) answer)) (contentOf graph) := by
    rw [handled_sealed, contentOf_sealedUpserts]
  have hsecond : contentOf (handled loader second (.sealed time (.ok data))
      (handled loader first (.sealed time (.ok data)) graph)) =
        run schema (writesOf (sealedUpserts loader data receipt
          (sealedTime second time) answer)) (contentOf (handled loader first
            (.sealed time (.ok data)) graph)) := by
    rw [handled_sealed loader second, readReceipt_congr hlocker, hanswer,
      contentOf_sealedUpserts]
  have hagain : sealedUpserts loader data receipt (sealedTime second time)
      answer = sealedUpserts loader data receipt (sealedTime first time)
        answer → contentOf (handled loader second (.sealed time (.ok data))
          (handled loader first (.sealed time (.ok data)) graph)) =
        contentOf (handled loader first (.sealed time (.ok data)) graph) := by
    intro hplan
    rw [hsecond, hplan, hfirst]
    exact run_run (fun write => keepsKeys_writesOf fun _ =>
      keepsKeys_sealedUpserts) ready_sealedUpserts.2
  rw [writesEvidence_iff]
  constructor
  · intro hsame
    by_contra hother
    simp only [not_or, not_not] at hother
    obtain ⟨htime, hnow, ⟨unwrapped, hreceipt⟩, publisher, hresolved⟩ := hother
    rw [show receipt = some unwrapped from hreceipt] at hfirst hsecond
    rw [hsame] at hsecond
    obtain ⟨node, hnode, hfits, hearly⟩ := exists_sealed
      (hfirst ▸ sealed_of_run (sealedTime first time) hresolved)
    have hlate := (sealed_of_run (sealedTime second time) hresolved).2 node
      (hsecond ▸ hnode) hfits
    rw [hearly, sealedTime, sealedTime, htime, if_pos rfl, if_pos rfl] at hlate
    exact hnow (by simpa using hlate.symm)
  · rintro (htime | hnow | hnothing)
    · apply hagain
      rw [sealedTime, sealedTime, if_neg htime, if_neg htime]
    · apply hagain
      rw [sealedTime, sealedTime, hnow]
    · apply hagain
      apply sealedUpserts_congr
      by_contra hboth
      simp only [not_or, ← ne_eq, Option.ne_none_iff_exists'] at hboth
      exact hnothing hboth

/-- The same locker and the same stubs at a given time. -/
def clockedAt (now : Time) : Surroundings :=
  { plainSurroundings builder (.ok 0) with now := now }

/-- The first entry of a ledger. -/
def firstEntry : EvidenceSealedData := sealedData "alpha" "digest-a" 0

/-- The graph after the first handling. -/
def handledOnce (event : Event) : EvidenceGraph :=
  handled plainLoader (clockedAt 1) event Graph.empty

/-- An event with a time may be handled again at any time. -/
theorem dated_event_redelivered :
    (clockedAt 1).now < (clockedAt 2).now ∧
      contentOf (handled plainLoader (clockedAt 2) (.sealed 1 (.ok firstEntry))
          (handledOnce (.sealed 1 (.ok firstEntry)))) =
        contentOf (handledOnce (.sealed 1 (.ok firstEntry))) := by
  have hlocker : (clockedAt 2).respond = (clockedAt 1).respond := rfl
  have hanswer : lookupAnswer (clockedAt 2) firstEntry
      (handledOnce (.sealed 1 (.ok firstEntry))) =
        lookupAnswer (clockedAt 1) firstEntry Graph.empty := by
    decide +kernel
  exact ⟨by decide, (redelivery_harmless_iff plainLoader Graph.empty 1
    firstEntry hlocker hanswer).mpr (.inl (by decide))⟩

/-- The event the producer builds has none: handled again a second later, the
evidence counts as sealed a second later. -/
theorem undated_event_redelivered :
    (clockedAt 1).now < (clockedAt 2).now ∧
      (clockedAt 2).respond = (clockedAt 1).respond ∧
      lookupAnswer (clockedAt 2) firstEntry
          (handledOnce (publishEvidenceSealed firstEntry)) =
        lookupAnswer (clockedAt 1) firstEntry Graph.empty ∧
      timeProperty (handledOnce (publishEvidenceSealed firstEntry)) 2
        "sealed" = some 1 ∧
      timeProperty (handled plainLoader (clockedAt 2)
        (publishEvidenceSealed firstEntry)
        (handledOnce (publishEvidenceSealed firstEntry))) 2 "sealed" =
          some 2 := by
  apply And.intro (by decide)
  apply And.intro rfl
  decide +kernel

end ComplyTime.Graph
