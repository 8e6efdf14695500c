import ComplyTime.Gateway.RoundTrip
import ComplyTime.Pipeline.Conservation

/-!
# One entry for each submission

A submission that is answered with 202 has a job ID of its own, but the worker
recognizes a redelivered message by the bytes of its receipt.  Two submissions
share a receipt when content, publisher and artifact type agree and both arrive
in the same second.  Unless that happens, the acknowledged submissions of a
subject are at indices of their own.
-/

namespace ComplyTime.Pipeline

open TransitionSystem WorkQueue Subjects Ledgers Worker AdminSubscriber
open GatewayAdmin Trust Streams Receipt

/-- A request to `IngestArtifact`, what happens around it, and what it sends
out when it is answered with 202. -/
structure Submission where
  surroundings : Ingest.Surroundings
  request : Ingest.Request
  accepted : Ingest.Accepted

namespace Submission

def ref (submission : Submission) : IngestRef := submission.accepted.ref

/-- The handler answers with 202. -/
def Answered (library : Library) (compile : String → Ingest.Schema)
    (submission : Submission) : Prop :=
  Ingest.ingestArtifact library compile submission.surroundings
    submission.request = .ok submission.accepted

def publisher (submission : Submission) : PublisherIdentity :=
  ⟨submission.request.ctx.issuer, submission.request.ctx.sub⟩

/-- Same canonical content, publisher and type, in the same second: the texts
of the two arrival times have no finer resolution. -/
def Coincides (library : Library) (first second : Submission) : Prop :=
  library.transform (Ingest.readBody first.request) =
      library.transform (Ingest.readBody second.request) ∧
    first.publisher = second.publisher ∧
    first.ref.artifactType = second.ref.artifactType ∧
    first.surroundings.receivedAt = second.surroundings.receivedAt

end Submission

/-- Each submission has an entry with its receipt, and those of different jobs
for one subject are at different indices. -/
def OwnEntries (locker : Locker) (submissions : List Submission) : Prop :=
  ∃ index : Submission → ℕ,
    (∀ submission ∈ submissions, ∃ entry,
      (locker.entries submission.ref.subjectID)[index submission]? =
        some entry ∧ entry.data = submission.ref.receiptBytes) ∧
    ∀ first ∈ submissions, ∀ second ∈ submissions,
      first.ref.subjectID = second.ref.subjectID →
        first.ref.jobID ≠ second.ref.jobID → index first ≠ index second

section Entries

variable {library : Library} {compile : String → Ingest.Schema}

/-- The receipt of a submission and the type that it records. -/
theorem Submission.Answered.wrap {submission : Submission}
    (hanswered : submission.Answered library compile) :
    Receipt.wrap library (Ingest.readBody submission.request)
      submission.publisher submission.ref.subjectID
      submission.ref.artifactType submission.surroundings.receivedAt =
        .ok submission.ref.receiptBytes := by
  obtain ⟨artifactType, checked, -, hsubmitted⟩ :=
    Ingest.submit_of_ingestArtifact hanswered
  unfold Ingest.submit at hsubmitted
  simp only at hsubmitted
  split at hsubmitted
  · cases hsubmitted
  · rename_i receiptBytes hwrap
    split at hsubmitted
    · cases hsubmitted
    · have haccepted := Except.ok.inj hsubmitted
      rw [Submission.ref, ← haccepted]
      exact hwrap

/-- Submissions with one receipt coincide. -/
theorem Submission.Answered.coincides (hcanonicalizes : library.Canonicalizes)
    (hrenders : library.Renders) {first second : Submission}
    (hfirst : first.Answered library compile)
    (hsecond : second.Answered library compile)
    (hreceipts : first.ref.receiptBytes = second.ref.receiptBytes) :
    first.Coincides library second := by
  have hwrap := hfirst.wrap
  rw [hreceipts] at hwrap
  exact eq_of_wrap_eq_wrap hcanonicalizes hrenders hwrap hsecond.wrap

/-- Entries with different receipts are at different indices. -/
theorem ownEntries_of_sealed {locker : Locker} {submissions : List Submission}
    (hsealed : ∀ submission ∈ submissions, ReceiptSealed locker submission.ref)
    (hdiffer : ∀ first ∈ submissions, ∀ second ∈ submissions,
      first.ref.jobID ≠ second.ref.jobID →
        first.ref.subjectID = second.ref.subjectID →
          first.ref.receiptBytes ≠ second.ref.receiptBytes) :
    OwnEntries locker submissions := by
  have hindex : ∀ submission, ∃ index : ℕ, submission ∈ submissions →
      ∃ entry : Entry, (locker.entries submission.ref.subjectID)[index]? =
        some entry ∧ entry.data = submission.ref.receiptBytes := by
    intro submission
    by_cases hmem : submission ∈ submissions
    · obtain ⟨entry, hentry, hdata⟩ := hsealed submission hmem
      obtain ⟨index, hindex⟩ := List.getElem?_of_mem hentry
      exact ⟨index, fun _ => ⟨entry, hindex, hdata⟩⟩
    · exact ⟨0, fun hmem' => absurd hmem' hmem⟩
  choose index hentries using hindex
  refine ⟨index, hentries, ?_⟩
  intro first hfirst second hsecond hsubject hjobs hsame
  obtain ⟨entry, hentry, hdata⟩ := hentries first hfirst
  obtain ⟨other, hother, hotherData⟩ := hentries second hsecond
  rw [hsubject, hsame, hother, Option.some.injEq] at hentry
  apply hdiffer first hfirst second hsecond hjobs hsubject
  rw [← hdata, ← hotherData, hentry]

/-- Whatever fails in the run: the acknowledged submissions have entries of
their own unless two of different jobs for one subject coincide. -/
theorem acked_submissions_own_entries {env : Environment} {system : System}
    (hcanonicalizes : library.Canonicalizes) (hrenders : library.Renders)
    (hreach : Reaches (step env) anyStep initial system)
    {submissions : List Submission}
    (hcollision : ∀ submission ∈ submissions,
      ∀ entry ∈ system.locker.entries submission.ref.subjectID,
        env.sha256Hex entry.data = env.sha256Hex submission.ref.receiptBytes →
          entry.data = submission.ref.receiptBytes)
    (hanswered : ∀ submission ∈ submissions,
      submission.Answered library compile)
    (hacked : ∀ submission ∈ submissions, submission.ref ∈ system.acked)
    (hdistinct : ∀ first ∈ submissions, ∀ second ∈ submissions,
      first.ref.jobID ≠ second.ref.jobID →
        first.ref.subjectID = second.ref.subjectID →
          ¬ first.Coincides library second) :
    OwnEntries system.locker submissions := by
  have hconsistent := consistent_of_reaches hreach
  apply ownEntries_of_sealed
  · intro submission hmem
    obtain ⟨entry, hentry, hdigest⟩ :=
      hconsistent.acked submission.ref (hacked submission hmem)
    exact ⟨entry, hentry, hcollision submission hmem entry hentry hdigest⟩
  · intro first hfirst second hsecond hjobs hsubject hreceipts
    exact hdistinct first hfirst second hsecond hjobs hsubject
      ((hanswered first hfirst).coincides hcanonicalizes hrenders
        (hanswered second hsecond) hreceipts)

end Entries

/-! ## Serving a message -/

section Serving

variable {env : Environment} {system : System} {ref : IngestRef}
  {publisher : PublisherIdentity} {ledger : Ledger}

/-- The message is accepted, delivered, sealed and acknowledged. -/
def sealActions (publisher : PublisherIdentity) (ref : IngestRef)
    (sequence : ℕ) : List Action :=
  [.ingest (some ref) publisher, .deliver sequence, .worker (.lookup true),
    .worker .verify, .worker (.add none), .worker .index,
    .worker (.publish none), .worker (.ack true)]

/-- The message is accepted, delivered, found sealed and acknowledged. -/
def skipActions (publisher : PublisherIdentity) (ref : IngestRef)
    (sequence : ℕ) : List Action :=
  [.ingest (some ref) publisher, .deliver sequence, .worker (.lookup true),
    .worker .verify, .worker (.ack true)]

section

variable (hidle : system.worker = .idle)
  (hadmitted : env.authorizes ref.subjectID
    (storedTrustList trustCodec system.store ref.subjectID) publisher = true)
  (hledger : system.locker.ledgers ref.subjectID = some ledger)

include hidle hadmitted hledger

theorem run_sealActions
    (hunknown : ledger.verifyDigest (env.sha256Hex ref.receiptBytes) = none) :
    ∃ next, run (step env) system
        (sealActions publisher ref system.queue.length) = some next ∧
      next.worker = .idle ∧ next.store = system.store ∧
      next.queue.length = system.queue.length + 1 ∧
      next.acked = system.acked ++ [ref] ∧
      next.locker = (system.locker.add ref.subjectID
        ⟨ref.receiptBytes, .worker⟩).record ref.subjectID
          (env.sha256Hex ref.receiptBytes)
          (system.locker.entries ref.subjectID).length ∧
      next.events = system.events ++ [sealedEvent env.sha256Hex ref
        (system.locker.entries ref.subjectID).length] := by
  simp [sealActions, run, step, ingestStep, hadmitted, deliverStep, hidle,
    deliver, publish, Message.redeliverable, ingestConsumerConfig, workerStep,
    System.workerLookup, findLedger, Locker.getLedger, hledger,
    System.workerVerify, hunknown, System.workerAdd, System.workerIndex,
    System.workerPublish, System.workerAck, answer, settle]

theorem run_skipActions {index : ℕ}
    (hknown : ledger.verifyDigest (env.sha256Hex ref.receiptBytes) =
      some index) :
    ∃ next, run (step env) system
        (skipActions publisher ref system.queue.length) = some next ∧
      next.acked = system.acked ++ [ref] ∧ next.locker = system.locker := by
  simp [skipActions, run, step, ingestStep, hadmitted, deliverStep, hidle,
    deliver, publish, Message.redeliverable, ingestConsumerConfig, workerStep,
    System.workerLookup, findLedger, Locker.getLedger, hledger,
    System.workerVerify, hknown, System.workerAck, answer, settle]

end

end Serving

/-! ## Two submissions of one envelope -/

section Twice

open Ingest JsonText

def twiceRequest : Ingest.Request where
  ctx := ⟨samplePublisher.issuer, samplePublisher.sub, true, [], [], "alpha"⟩
  body := textBytes sortedEnvelope
  readFails := false
  subjectID := "alpha"
  contentType := contentTypeDSSE

def twiceReceipt (receivedAt : String) : Bytes :=
  textBytes (Json.canonical (.obj (receiptStatement plainLibrary
    (textBytes sortedEnvelope.canonical) samplePublisher "alpha" "dsse"
    receivedAt).members))

/-- The envelope, submitted at a time under a job ID. -/
def twiceSubmission (receivedAt jobID : String) : Submission where
  surroundings := ⟨receivedAt, jobID, none⟩
  request := twiceRequest
  accepted :=
    { ref := ⟨jobID, "alpha",
        hexString (plainLibrary.sha256 (readBody twiceRequest)), "dsse",
        twiceReceipt receivedAt⟩
      ingested := ⟨hexString (plainLibrary.sha256 (readBody twiceRequest)),
        "dsse", "", "alpha", samplePublisher⟩
      checkedSchema := none }

theorem answered_twiceSubmission (receivedAt jobID : String) :
    (twiceSubmission receivedAt jobID).Answered plainLibrary
      envelopeSchemas := by
  have hbody : readBody twiceRequest = textBytes sortedEnvelope :=
    readBody_eq_body (by decide)
  have hplain : plain sortedEnvelope = true := by decide
  have hnonempty := textBytes_ne_nil hplain
  have hwrap := wrap_plainLibrary (textBytes sortedEnvelope) samplePublisher
    "alpha" "dsse" receivedAt
  rw [wrapPlain, parse_textBytes hplain] at hwrap
  rw [← hbody] at hnonempty hwrap
  have hissuer : samplePublisher.issuer ≠ "" := by decide
  have hsub : samplePublisher.sub ≠ "" := by decide
  have hsubject : ValidSubjectID "alpha" := by decide
  exact ingestArtifact_classified hissuer hsub rfl hnonempty hsubject
    (classify_envelope rfl) rfl hwrap

theorem twiceReceipt_ne (receivedAt : String) :
    twiceReceipt receivedAt ≠ [0] := by
  intro hsame
  have hbrace := head?_textBytes_obj (Json.canonicalObject (receiptStatement
    plainLibrary (textBytes sortedEnvelope.canonical) samplePublisher "alpha"
    "dsse" receivedAt).members)
  rw [← Json.canonical_obj, ← twiceReceipt, hsame] at hbrace
  exact absurd hbrace (by decide)

/-- A state in which `alpha` is registered and the worker is idle. -/
structure AlphaServed (system : System) (acked : List IngestRef)
    (log : List Entry) (digestIndex : DigestIndex.Index String) : Prop where
  reached : Reaches (step sampleEnvironment) anyStep initial system
  idle : system.worker = .idle
  acked : system.acked = acked
  admitted : sampleEnvironment.authorizes "alpha"
    (storedTrustList trustCodec system.store "alpha") samplePublisher = true
  entries : system.locker.entries "alpha" = log
  ledger : system.locker.ledgers "alpha" = some ⟨digestIndex⟩

theorem exists_registered :
    ∃ system, run (step sampleEnvironment) initial sampleRegistration =
        some system ∧
      AlphaServed system [] [⟨[0], .admin 0⟩]
        (DigestIndex.record DigestIndex.empty (sampleDigest [0]) 0) := by
  obtain ⟨system, hrun, hfacts⟩ : ∃ system,
      run (step sampleEnvironment) initial sampleRegistration = some system ∧
      system.worker = .idle ∧ system.acked = [] ∧
      sampleEnvironment.authorizes "alpha"
        (storedTrustList trustCodec system.store "alpha") samplePublisher =
          true ∧
      system.locker.entries "alpha" = [⟨[0], .admin 0⟩] ∧
      system.locker.ledgers "alpha" = some ⟨DigestIndex.record
        DigestIndex.empty (sampleDigest [0]) 0⟩ :=
    ⟨_, rfl, rfl, rfl, rfl, rfl, rfl⟩
  obtain ⟨hidle, hacked, hadmitted, hentries, hledger⟩ := hfacts
  exact ⟨system, hrun, reaches_of_run hrun, hidle, hacked, hadmitted,
    hentries, hledger⟩

section Served

variable {system : System} {acked : List IngestRef} {log : List Entry}
  {digestIndex : DigestIndex.Index String}

section

variable {ref : IngestRef} (hserved : AlphaServed system acked log digestIndex)
  (hsubject : ref.subjectID = "alpha")

include hserved hsubject

/-- A new receipt is appended. -/
theorem AlphaServed.sealed
    (hunknown : digestIndex (sampleDigest ref.receiptBytes) = none) :
    ∃ next, AlphaServed next (acked ++ [ref])
      (log ++ [⟨ref.receiptBytes, .worker⟩])
      (DigestIndex.record digestIndex (sampleDigest ref.receiptBytes)
        log.length) := by
  have hadmitted := hserved.admitted
  have hledger := hserved.ledger
  rw [← hsubject] at hadmitted hledger
  obtain ⟨next, hnext, hidle, hstore, -, hacked, hlocker, -⟩ :=
    run_sealActions hserved.idle hadmitted hledger hunknown
  rw [hsubject, hserved.entries] at hlocker
  refine ⟨next, hserved.reached.trans (reaches_of_run hnext), hidle, ?_, ?_, ?_,
    ?_⟩
  · rw [hacked, hserved.acked]
  · rw [hstore]
    exact hserved.admitted
  · rw [hlocker, entries_record, entries_add_self, hserved.entries]
  · rw [hlocker]
    simp [Locker.record, hserved.ledger]
    rfl

/-- A known receipt is acknowledged and nothing else happens. -/
theorem AlphaServed.skipped {index : ℕ}
    (hknown : digestIndex (sampleDigest ref.receiptBytes) = some index) :
    ∃ next, Reaches (step sampleEnvironment) anyStep initial next ∧
      next.acked = acked ++ [ref] ∧ next.locker.entries "alpha" = log := by
  have hadmitted := hserved.admitted
  have hledger := hserved.ledger
  rw [← hsubject] at hadmitted hledger
  obtain ⟨next, hnext, hacked, hlocker⟩ :=
    run_skipActions hserved.idle hadmitted hledger hknown
  refine ⟨next, hserved.reached.trans (reaches_of_run hnext), ?_, ?_⟩
  · rw [hacked, hserved.acked]
  · rw [hlocker, hserved.entries]

end

end Served

theorem sampleDigest_ne {first second : Bytes} (hne : first ≠ second) :
    sampleDigest first ≠ sampleDigest second :=
  fun hsame => hne (sha256Hex_sampleEnvironment_injective hsame)

theorem exists_first_sealed (receivedAt jobID : String) :
    ∃ system, AlphaServed system [(twiceSubmission receivedAt jobID).ref]
      [⟨[0], .admin 0⟩, ⟨twiceReceipt receivedAt, .worker⟩]
      (DigestIndex.record (DigestIndex.record DigestIndex.empty
        (sampleDigest [0]) 0) (sampleDigest (twiceReceipt receivedAt)) 1) := by
  obtain ⟨system, -, hserved⟩ := exists_registered
  apply hserved.sealed rfl
  exact DigestIndex.record_of_ne DigestIndex.empty 0
    (sampleDigest_ne (twiceReceipt_ne receivedAt))

/-- A minute later the envelope gets an entry of its own. -/
theorem envelope_sealed_twice :
    ∃ system, Reaches (step sampleEnvironment) anyStep initial system ∧
      OwnEntries system.locker
        [twiceSubmission "2026-01-01T00:00:00Z" "job-1",
          twiceSubmission "2026-01-01T00:01:00Z" "job-2"] := by
  have hfirst := answered_twiceSubmission "2026-01-01T00:00:00Z" "job-1"
  have hsecond := answered_twiceSubmission "2026-01-01T00:01:00Z" "job-2"
  have htimes : ("2026-01-01T00:00:00Z" : String) ≠ "2026-01-01T00:01:00Z" := by
    decide
  have hdistinct : ¬ (twiceSubmission "2026-01-01T00:00:00Z" "job-1").Coincides
      plainLibrary (twiceSubmission "2026-01-01T00:01:00Z" "job-2") :=
    fun hsame => htimes hsame.2.2.2
  have hreceipts : twiceReceipt "2026-01-01T00:01:00Z" ≠
      twiceReceipt "2026-01-01T00:00:00Z" := fun hsame =>
    hdistinct (hfirst.coincides canonicalizes_plainLibrary renders_plainLibrary
      hsecond hsame.symm)
  obtain ⟨system, hserved⟩ := exists_first_sealed "2026-01-01T00:00:00Z" "job-1"
  have hunknown : DigestIndex.record (DigestIndex.record DigestIndex.empty
      (sampleDigest [0]) 0) (sampleDigest (twiceReceipt "2026-01-01T00:00:00Z"))
      1 (sampleDigest (twiceReceipt "2026-01-01T00:01:00Z")) = none := by
    rw [DigestIndex.record_of_ne _ 1 (sampleDigest_ne hreceipts),
      DigestIndex.record_of_ne _ 0 (sampleDigest_ne (twiceReceipt_ne _))]
    rfl
  obtain ⟨next, hnext⟩ : ∃ next, AlphaServed next
      [(twiceSubmission "2026-01-01T00:00:00Z" "job-1").ref,
        (twiceSubmission "2026-01-01T00:01:00Z" "job-2").ref] _ _ :=
    hserved.sealed rfl hunknown
  refine ⟨next, hnext.reached, ?_⟩
  apply acked_submissions_own_entries canonicalizes_plainLibrary
    renders_plainLibrary hnext.reached
  · intro submission _ entry _ hdigest
    exact sha256Hex_sampleEnvironment_injective hdigest
  · intro submission hmem
    simp only [List.mem_cons, List.not_mem_nil, or_false] at hmem
    rcases hmem with rfl | rfl
    · exact hfirst
    · exact hsecond
  · intro submission hmem
    rw [hnext.acked]
    exact List.mem_map_of_mem hmem
  · intro first hfirstMem second hsecondMem hjobs _ hcoincides
    simp only [List.mem_cons, List.not_mem_nil, or_false] at hfirstMem
    simp only [List.mem_cons, List.not_mem_nil, or_false] at hsecondMem
    rcases hfirstMem with rfl | rfl <;> rcases hsecondMem with rfl | rfl
    · exact hjobs rfl
    · exact hdistinct hcoincides
    · exact htimes hcoincides.2.2.2.symm
    · exact hjobs rfl

/-- In the same second the second job shares the entry of the first. -/
theorem envelope_sealed_once :
    ∃ system, Reaches (step sampleEnvironment) anyStep initial system ∧
      (twiceSubmission "2026-01-01T00:00:00Z" "job-1").Answered plainLibrary
        envelopeSchemas ∧
      (twiceSubmission "2026-01-01T00:00:00Z" "job-2").Answered plainLibrary
        envelopeSchemas ∧
      system.acked = [(twiceSubmission "2026-01-01T00:00:00Z" "job-1").ref,
        (twiceSubmission "2026-01-01T00:00:00Z" "job-2").ref] ∧
      ¬ OwnEntries system.locker
        [twiceSubmission "2026-01-01T00:00:00Z" "job-1",
          twiceSubmission "2026-01-01T00:00:00Z" "job-2"] := by
  obtain ⟨system, hserved⟩ := exists_first_sealed "2026-01-01T00:00:00Z" "job-1"
  have hknown := DigestIndex.record_self (DigestIndex.record DigestIndex.empty
    (sampleDigest [0]) 0) (sampleDigest (twiceReceipt "2026-01-01T00:00:00Z")) 1
  obtain ⟨next, hreach, hacked, hentries⟩ :
      ∃ next, Reaches (step sampleEnvironment) anyStep initial next ∧
        next.acked = [(twiceSubmission "2026-01-01T00:00:00Z" "job-1").ref,
          (twiceSubmission "2026-01-01T00:00:00Z" "job-2").ref] ∧
        next.locker.entries "alpha" = [⟨[0], .admin 0⟩,
          ⟨twiceReceipt "2026-01-01T00:00:00Z", .worker⟩] :=
    hserved.skipped rfl hknown
  refine ⟨next, hreach, answered_twiceSubmission _ _,
    answered_twiceSubmission _ _, hacked, ?_⟩
  intro hown
  obtain ⟨index, hindices, hdiffer⟩ := hown
  have honly : ∀ submission, submission.ref.subjectID = "alpha" →
      submission.ref.receiptBytes = twiceReceipt "2026-01-01T00:00:00Z" →
      (∃ entry, (next.locker.entries submission.ref.subjectID)[
        index submission]? = some entry ∧
          entry.data = submission.ref.receiptBytes) →
      index submission = 1 := by
    intro submission hsubject hreceipt hfound
    obtain ⟨entry, hentry, hdata⟩ := hfound
    rw [hsubject, hentries] at hentry
    match hposition : index submission with
    | 0 =>
      rw [hposition] at hentry
      obtain rfl := Option.some.inj hentry
      rw [hreceipt] at hdata
      exact absurd hdata.symm (twiceReceipt_ne _)
    | 1 => rfl
    | position + 2 =>
      rw [hposition] at hentry
      cases hentry
  have hfirst := honly _ rfl rfl (hindices
    (twiceSubmission "2026-01-01T00:00:00Z" "job-1") (by simp))
  have hsecond := honly _ rfl rfl (hindices
    (twiceSubmission "2026-01-01T00:00:00Z" "job-2") (by simp))
  have hjobs : "job-1" ≠ "job-2" := by decide
  exact hdiffer (twiceSubmission "2026-01-01T00:00:00Z" "job-1") (by simp)
    (twiceSubmission "2026-01-01T00:00:00Z" "job-2") (by simp) rfl hjobs
    (hfirst.trans hsecond.symm)

end Twice

end ComplyTime.Pipeline
