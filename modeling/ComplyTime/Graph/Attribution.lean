import ComplyTime.Graph.LoaderRuns

/-!
# Who published a piece of evidence

A sealed event does not name the publisher of its entry.  The loader looks for
a stub with the digest and the subject of the event, and falls back to a
placeholder when the lookup fails or the ingested event has not been handled
yet.  Links are only ever added, so an event that is handled more than once may
be linked both to the placeholder and to its publisher.
-/

namespace ComplyTime.Graph

open Cypher Keyed RemoteStore TransitionSystem

/-- The publishers an evidence node is linked to. -/
def linkedPublishers (graph : EvidenceGraph) (logIndex : Int64) :
    List PublisherIdentity :=
  (graph.query
    |>.matchNode (NodeKey.evidence logIndex).pattern
    |>.matchOutgoing (fun (_, evidence) => evidence) .publishedBy
      (anyOf .publisher)).rows.filterMap
    fun (_, publisher) => (publisherOf graph publisher).toOption

/-- A submission that the gateway has accepted: its publisher has a name. -/
structure Submission where
  subjectID : String
  digest : String
  publisher : PublisherIdentity
  named : publisher.issuer ≠ ""

/-- The events of a delivery stem from a submission.  The receipt behind a
sealed event records the publisher of the submission. -/
def Delivery.StemsFrom (loader : Loader) (submissions : Set Submission)
    (delivery : Delivery) : Prop :=
  match delivery.message with
  | .ok (.ingested (.ok data)) =>
    ∃ submission ∈ submissions, submission.subjectID = data.subjectID ∧
      submission.digest = data.contentDigest ∧
      submission.publisher = data.publisher
  | .ok (.sealed _ (.ok data)) =>
    ∀ unwrapped,
      readReceipt loader delivery.surroundings data.storageRef =
        some unwrapped →
      ∃ submission ∈ submissions, submission.subjectID = data.subjectID ∧
        submission.digest = data.contentDigest ∧
        submission.publisher = unwrapped.publisher
  | _ => True

def Submission.IsOf (submission : Submission) (subjectID digest : String) :
    Prop :=
  submission.subjectID = subjectID ∧ submission.digest = digest

/-- The content is submitted to the subject by one publisher only. -/
def OnePublisher (submissions : Set Submission) (subjectID digest : String) :
    Prop :=
  ∀ first ∈ submissions, ∀ second ∈ submissions,
    first.IsOf subjectID digest → second.IsOf subjectID digest →
      first.publisher = second.publisher

/-- Sealed deliveries with one log index deliver one event. -/
def OneEventPerIndex (history : List Handled) : Prop :=
  ∀ first ∈ history, ∀ second ∈ history, ∀ time data time' data',
    first.delivery.message = .ok (.sealed time (.ok data)) →
    second.delivery.message = .ok (.sealed time' (.ok data')) →
      data.logIndex = data'.logIndex → data = data'

/-- Whenever the event with the log index was handled, its submission was
known and the lookup did not fail. -/
def HandledInOrder (history : List Handled) (logIndex : Int64) : Prop :=
  ∀ earlier handled later time data,
    history = earlier ++ handled :: later →
    handled.delivery.message = .ok (.sealed time (.ok data)) →
    data.logIndex = logIndex →
      (∃ pick, handled.delivery.surroundings.lookup = .ok pick) ∧
      ∃ past ∈ earlier, ∃ ingested,
        past.delivery.message = .ok (.ingested (.ok ingested)) ∧
        past.verdict = some .ack ∧
        ingested.subjectID = data.subjectID ∧
        ingested.contentDigest = data.contentDigest

variable {publisher : PublisherIdentity} {unwrapped : Receipt.UnwrapResult}

/-! ## Links -/

section Links

variable {graph : EvidenceGraph} {materialized : Materialized}

theorem mem_linkedPublishers {logIndex : Int64}
    (hrefines : schema.Refines graph materialized) :
    publisher ∈ linkedPublishers graph logIndex ↔
      materialized.link (.evidence logIndex) .publishedBy
        (.publisher publisher) := by
  rw [linkedPublishers, List.mem_filterMap]
  constructor
  · rintro ⟨⟨row, index⟩, hmem, hpublisher⟩
    obtain ⟨identity, hat, hlink⟩ :=
      (exists_row_publisher hrefines).mp ⟨row, hmem⟩
    simp only [publisherOf_at hat] at hpublisher
    obtain rfl := Option.some.inj hpublisher
    exact hlink
  · intro hlink
    obtain ⟨index, hat⟩ := at_of_link hrefines hlink
    obtain ⟨row, hmem⟩ :=
      (exists_row_publisher hrefines).mpr ⟨publisher, hat, hlink⟩
    refine ⟨(row, index), hmem, ?_⟩
    simp only [publisherOf_at hat]
    rfl

end Links

/-! ## Attribution -/

section Attribution

variable {loader : Loader} {submissions : Set Submission}
  {history : List Handled} {book : Book} {delivery : Delivery}

/-- The submission behind a stub. -/
theorem submission_of_stub (hbook : BookOf loader history book)
    (hstems : ∀ handled ∈ history,
      handled.delivery.StemsFrom loader submissions)
    {stub : Stub} (hstub : stub ∈ book.stubs) :
    ∃ submission ∈ submissions, submission.subjectID = stub.subjectID ∧
      submission.digest = stub.digest ∧
      submission.publisher = stub.publisher := by
  obtain ⟨handled, hmem, data, hmessage, rfl⟩ := ingested_of_stub hbook hstub
  have hsubmission := hstems handled hmem
  rw [Delivery.StemsFrom, hmessage] at hsubmission
  exact hsubmission

variable {data : EvidenceSealedData}

/-- The submission behind a sealed event whose receipt can be read. -/
theorem submission_of_sealed (hstems : delivery.StemsFrom loader submissions)
    {time : Time}
    (hmessage : delivery.message = .ok (.sealed time (.ok data)))
    (hreceipt : readReceipt loader delivery.surroundings data.storageRef =
      some unwrapped) :
    ∃ submission ∈ submissions, submission.subjectID = data.subjectID ∧
      submission.digest = data.contentDigest ∧
      submission.publisher = unwrapped.publisher := by
  rw [Delivery.StemsFrom, hmessage] at hstems
  exact hstems unwrapped hreceipt

/-- A stub with the digest and the subject of a sealed event names the
publisher in its receipt. -/
theorem publisher_of_stub (hbook : BookOf loader history book)
    (hstems : ∀ handled ∈ history,
      handled.delivery.StemsFrom loader submissions)
    {subjectID digest : String}
    (hone : OnePublisher submissions subjectID digest)
    {submission : Submission} (hsubmission : submission ∈ submissions)
    (hof : submission.IsOf subjectID digest)
    (hstub : ⟨digest, subjectID, publisher⟩ ∈ book.stubs) :
    publisher = submission.publisher := by
  obtain ⟨other, hother, hsubject, hdigest, hpublisher⟩ :=
    submission_of_stub hbook hstems hstub
  rw [← hone other hother submission hsubmission ⟨hsubject, hdigest⟩ hof]
  exact hpublisher.symm

theorem orPlaceholder_submission (submission : Submission) :
    orPlaceholder (.ok submission.publisher) = submission.publisher :=
  if_neg submission.named

section

variable (hbook : BookOf loader history book) (hstems : ∀ handled ∈ history,
    handled.delivery.StemsFrom loader submissions)

include hbook hstems

/-- What a record of a submission's event is attributed to. -/
theorem publisher_of_resolves
    (hone : OnePublisher submissions data.subjectID data.contentDigest)
    {submission : Submission} (hsubmission : submission ∈ submissions)
    (hof : submission.IsOf data.subjectID data.contentDigest)
    {lookup : Except GoError ℕ}
    (hresolves : Resolves book.stubs data lookup publisher) :
    (publisher = placeholder ∨ publisher = submission.publisher) ∧
    ((∃ pick, lookup = .ok pick) →
      (∃ known, ⟨data.contentDigest, data.subjectID, known⟩ ∈ book.stubs) →
        publisher = submission.publisher) := by
  cases hresolves with
  | failed err =>
    refine ⟨.inl rfl, ?_⟩
    rintro ⟨pick, hpick⟩
    cases hpick
  | unknown pick hunknown =>
    refine ⟨.inl rfl, ?_⟩
    rintro - ⟨known, hstub⟩
    exact absurd hstub (hunknown known)
  | found pick found hstub =>
    have hfound := publisher_of_stub hbook hstems hone hsubmission hof hstub
    rw [hfound, orPlaceholder_submission]
    exact ⟨.inr rfl, fun _ _ => rfl⟩

/-- Every record of an event whose receipt can be read carries the placeholder
or the publisher in the receipt. -/
theorem publisher_of_record (hevents : OneEventPerIndex history)
    {handled : Handled} (hmem : handled ∈ history) {time : Time}
    (hone : OnePublisher submissions data.subjectID data.contentDigest)
    (hmessage : handled.delivery.message = .ok (.sealed time (.ok data)))
    (hreceipt : readReceipt loader handled.delivery.surroundings
      data.storageRef = some unwrapped) {record : EvidenceRecord}
    (hrecord : record ∈ book.records)
    (hindex : record.logIndex = data.logIndex) :
    (record.publisher = placeholder ∨ record.publisher = unwrapped.publisher) ∧
    (HandledInOrder history data.logIndex →
      record.publisher = unwrapped.publisher) := by
  obtain ⟨submission, hsubmission, hsubject, hdigest, hpublisher⟩ :=
    submission_of_sealed (hstems handled hmem) hmessage hreceipt
  obtain ⟨earlier, past, later, found, hsplit, hfound, hseals⟩ :=
    seals_of_record hbook hrecord
  obtain ⟨_, pastData, _, publisher, hpast, -, hresolves, rfl⟩ := hseals
  have hpastMem : past ∈ history := by
    rw [hsplit]
    simp
  obtain rfl := hevents past hpastMem handled hmem _ _ _ _ hpast hmessage
    hindex
  have hearlier : ∀ other ∈ earlier,
      other.delivery.StemsFrom loader submissions := by
    intro other hother
    apply hstems other
    rw [hsplit]
    exact List.mem_append_left _ hother
  obtain ⟨hweak, hstrong⟩ := publisher_of_resolves hfound hearlier hone
    hsubmission ⟨hsubject, hdigest⟩ hresolves
  rw [hpublisher] at hweak hstrong
  refine ⟨hweak, ?_⟩
  intro horder
  obtain ⟨hpick, known, hknown, ingested, hingested, hverdict, hsubject',
    hdigest'⟩ := horder earlier past later _ _ hsplit hpast rfl
  apply hstrong hpick
  have hstub := stub_of_ingested hfound hknown hingested hverdict
  rw [stubOf, hsubject', hdigest'] at hstub
  exact ⟨ingested.publisher, hstub⟩

end

end Attribution

/-- While the content of a handled event is submitted to its subject by one
publisher only, its evidence is linked to the publisher in its receipt or to the
placeholder and to no one else, and to the former alone if the event was always
handled after its submission was known. -/
theorem evidence_attributed {loader : Loader} {state : LoaderState}
    (hreach : Reaches (loaderStep loader) anyStep .initial state)
    (submissions : Set Submission)
    (hstems : ∀ handled ∈ state.history,
      handled.delivery.StemsFrom loader submissions)
    (hevents : OneEventPerIndex state.history)
    {handled : Handled} (hmem : handled ∈ state.history) {time : Time}
    {data : EvidenceSealedData}
    (hone : OnePublisher submissions data.subjectID data.contentDigest)
    (hmessage : handled.delivery.message = .ok (.sealed time (.ok data)))
    (hack : handled.verdict = some .ack) :
    ∃ unwrapped, readReceipt loader handled.delivery.surroundings
        data.storageRef = some unwrapped ∧
      linkedPublishers state.graph data.logIndex ≠ [] ∧
      (∀ publisher ∈ linkedPublishers state.graph data.logIndex,
        publisher = placeholder ∨ publisher = unwrapped.publisher) ∧
      (HandledInOrder state.history data.logIndex →
        ∀ publisher, publisher ∈ linkedPublishers state.graph data.logIndex ↔
          publisher = unwrapped.publisher) := by
  obtain ⟨book, ⟨graph, hrefines, hrepresents⟩, hbook⟩ :=
    bookOf_of_reaches hreach
  obtain ⟨⟨unwrapped, hreceipt⟩, entered, hentered, hindex⟩ :=
    record_of_sealed hbook hmem hmessage hack
  have hlinked : ∀ publisher,
      publisher ∈ linkedPublishers state.graph data.logIndex ↔
        ∃ record ∈ book.records, record.logIndex = data.logIndex ∧
          record.publisher = publisher := by
    intro publisher
    rw [mem_linkedPublishers hrefines]
    exact hrepresents.published _ _
  have hrecords : ∀ record ∈ book.records, record.logIndex = data.logIndex →
      (record.publisher = placeholder ∨
        record.publisher = unwrapped.publisher) ∧
      (HandledInOrder state.history data.logIndex →
        record.publisher = unwrapped.publisher) := by
    intro record hrecord hsame
    exact publisher_of_record hbook hstems hevents hmem hone hmessage hreceipt
      hrecord hsame
  have hentered' := (hlinked entered.publisher).mpr
    ⟨entered, hentered, hindex, rfl⟩
  refine ⟨unwrapped, hreceipt, List.ne_nil_of_mem hentered', ?_, ?_⟩
  · intro publisher hlink
    obtain ⟨record, hrecord, hsame, rfl⟩ := (hlinked publisher).mp hlink
    exact (hrecords record hrecord hsame).1
  · intro horder publisher
    constructor
    · intro hlink
      obtain ⟨record, hrecord, hsame, rfl⟩ := (hlinked publisher).mp hlink
      exact (hrecords record hrecord hsame).2 horder
    · rintro rfl
      rwa [(hrecords entered hentered hindex).2 horder] at hentered'

/-! ## One submission -/

def ingestedDelivery (subjectID digest : String)
    (publisher : PublisherIdentity) : Delivery where
  message := .ok (.ingested
    (.ok ⟨digest, "unknown", "", subjectID, publisher⟩))
  surroundings := plainSurroundings publisher (.ok 0)
  replies := []

def builderSubmission : Submission :=
  ⟨"alpha", "digest-a", builder, by decide⟩

/-- The events of the submission, handled in order. -/
def orderlyRun : LoaderState :=
  runPlain [ingestedDelivery "alpha" "digest-a" builder,
    sealedDelivery "alpha" "digest-a" 0 builder]

theorem history_orderlyRun :
    orderlyRun.history =
      [⟨ingestedDelivery "alpha" "digest-a" builder, some .ack⟩,
        ⟨sealedDelivery "alpha" "digest-a" 0 builder, some .ack⟩] :=
  history_runPlain
    (by decide +kernel : _ = [some Verdict.ack, some Verdict.ack])

theorem publisher_of_plain
    (hreceipt : readReceipt plainLoader (plainSurroundings builder (.ok 0))
      (sealedData "alpha" "digest-a" 0).storageRef = some unwrapped) :
    builder = unwrapped.publisher := by
  have hpublisher : (readReceipt plainLoader
      (plainSurroundings builder (.ok 0))
      (sealedData "alpha" "digest-a" 0).storageRef).map
        Receipt.UnwrapResult.publisher = some builder := by
    decide +kernel
  rw [hreceipt] at hpublisher
  exact (Option.some.inj hpublisher).symm

theorem stemsFrom_orderlyRun :
    ∀ handled ∈ orderlyRun.history,
      handled.delivery.StemsFrom plainLoader {builderSubmission} := by
  rw [history_orderlyRun]
  intro handled hmem
  simp only [List.mem_cons, List.not_mem_nil, or_false] at hmem
  rcases hmem with rfl | rfl
  · exact ⟨builderSubmission, rfl, rfl, rfl, rfl⟩
  · intro unwrapped hreceipt
    exact ⟨builderSubmission, rfl, rfl, rfl, publisher_of_plain hreceipt⟩

theorem oneEvent_orderlyRun : OneEventPerIndex orderlyRun.history := by
  rw [history_orderlyRun]
  intro first hfirst second hsecond time data time' data' hdata hdata' _
  simp only [List.mem_cons, List.not_mem_nil, or_false] at hfirst hsecond
  rcases hfirst with rfl | rfl
  · cases hdata
  rcases hsecond with rfl | rfl
  · cases hdata'
  cases hdata
  cases hdata'
  rfl

theorem inOrder_orderlyRun : HandledInOrder orderlyRun.history 0 := by
  rw [history_orderlyRun]
  intro earlier handled later time data hsplit hmessage _
  cases earlier with
  | nil =>
    obtain ⟨rfl, -⟩ := List.cons.inj hsplit
    cases hmessage
  | cons past earlier =>
    obtain ⟨rfl, hrest⟩ := List.cons.inj hsplit
    cases earlier with
    | nil =>
      obtain ⟨rfl, -⟩ := List.cons.inj hrest
      cases hmessage
      exact ⟨⟨0, rfl⟩, _, List.mem_singleton_self _, _, rfl, rfl, rfl, rfl⟩
    | cons other earlier =>
      obtain ⟨-, hnil⟩ := List.cons.inj hrest
      simp at hnil

theorem orderlyRun_attributed :
    {publisher | publisher ∈ linkedPublishers orderlyRun.graph 0} =
      {builder} := by
  have hreach : Reaches (loaderStep plainLoader) anyStep .initial
      orderlyRun := reaches_foldl plainLoader _ .refl
  have hone : OnePublisher {builderSubmission} "alpha" "digest-a" := by
    rintro first rfl second rfl _ _
    rfl
  have hmem : ⟨sealedDelivery "alpha" "digest-a" 0 builder, some .ack⟩ ∈
      orderlyRun.history := by
    rw [history_orderlyRun]
    simp
  obtain ⟨unwrapped, hreceipt, -, -, hattributed⟩ := evidence_attributed hreach
    {builderSubmission} stemsFrom_orderlyRun oneEvent_orderlyRun hmem hone rfl
    rfl
  rw [publisher_of_plain hreceipt]
  exact Set.ext (hattributed inOrder_orderlyRun)

/-- The publishers linked to the evidence at an index after the deliveries. -/
def attribution (deliveries : List Delivery) (logIndex : Int64) :
    List PublisherIdentity :=
  linkedPublishers (runPlain deliveries).graph logIndex

def rival : PublisherIdentity := ⟨"https://ci.example", "rival"⟩

/-- Handled before its submission is known, an event is attributed to the
placeholder, and to its publisher as well when it is handled again.  Of two
publishers of one content, one is credited with the evidence of both. -/
theorem evidence_misattributed :
    attribution [sealedDelivery "alpha" "digest-a" 0 builder] 0 =
      [placeholder] ∧
    attribution [sealedDelivery "alpha" "digest-a" 0 builder,
      ingestedDelivery "alpha" "digest-a" builder,
      sealedDelivery "alpha" "digest-a" 0 builder] 0 = [builder, placeholder] ∧
    attribution [ingestedDelivery "alpha" "digest-a" builder,
      ingestedDelivery "alpha" "digest-a" rival,
      sealedDelivery "alpha" "digest-a" 0 builder,
      sealedDelivery "alpha" "digest-a" 1 rival] 0 = [rival] := by
  decide +kernel

end ComplyTime.Graph
