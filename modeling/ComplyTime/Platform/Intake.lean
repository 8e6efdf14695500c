import ComplyTime.Pipeline.OneEntryEach
import ComplyTime.Pipeline.TrustWrites

/-!
# What the gateway has taken in

A run of the pipeline is recorded together with its intakes: each work item
that went into the stream, the publisher it came from and the trust list that
was stored at that moment.  Stream, ledgers and sealed events hold nothing
else, whatever fails, is lost or crashes.
-/

namespace ComplyTime.Platform

open Pipeline Receipt Subjects TransitionSystem WorkQueue Worker

structure Intake where
  ref : IngestRef
  publisher : PublisherIdentity
  /-- The list stored for the subject when the item was taken in. -/
  trusted : Option (List TrustEntry)

def intakes (system : System) (action : Action) (_ : System) : List Intake :=
  match action with
  | .ingest (some ref) publisher =>
    [⟨ref, publisher, system.trustList ref.subjectID⟩]
  | _ => []

/-- Work items come from `IngestArtifact`. -/
def Submits (library : Library) (compile : String → Ingest.Schema) :
    Action → Prop
  | .ingest (some ref) publisher => ∃ submission : Submission,
      submission.Answered library compile ∧ submission.ref = ref ∧
        submission.publisher = publisher
  | _ => True

/-- The publisher was authorized under the list, and the receipt names it. -/
structure Intake.Genuine (env : Environment) (library : Library)
    (intake : Intake) : Prop where
  authorized : env.authorizes intake.ref.subjectID intake.trusted
    intake.publisher = true
  subjectID : ValidSubjectID intake.ref.subjectID
  authored : ∃ content, unwrapContent library intake.ref.receiptBytes =
    .ok ⟨content, intake.publisher, receiptType⟩

/-- The receipt of the intake is the entry at the index of its ledger. -/
def Intake.SealedAt (system : System) (intake : Intake) (index : ℕ) : Prop :=
  (system.locker.entries intake.ref.subjectID)[index]? =
    some ⟨intake.ref.receiptBytes, .worker⟩

/-- Everything on its way through the pipeline has been taken in. -/
structure Traced (env : Environment) (library : Library)
    (recorded : System × List Intake) : Prop where
  genuine : ∀ intake ∈ recorded.2, intake.Genuine env library
  queued : ∀ ref, some ref ∈ payloads recorded.1.queue →
    ∃ intake ∈ recorded.2, intake.ref = ref
  entries : ∀ subjectID receipt,
    ⟨receipt, .worker⟩ ∈ recorded.1.locker.entries subjectID →
      ∃ intake ∈ recorded.2, intake.ref.subjectID = subjectID ∧
        intake.ref.receiptBytes = receipt
  events : ∀ data ∈ recorded.1.events, ∃ intake ∈ recorded.2, ∃ index,
    intake.SealedAt recorded.1 index ∧
      data = sealedEvent env.sha256Hex intake.ref index

/-- What a step adds to the stream and to the sealed events. -/
inductive Sends (env : Environment) (system : System) (action : Action)
    (next : System) : Prop
  | nothing (hqueue : payloads next.queue = payloads system.queue)
      (hevents : next.events = system.events)
  | item {payload : Option IngestRef} {publisher : PublisherIdentity}
      (haction : action = .ingest payload publisher)
      (hqueue : payloads next.queue = payloads system.queue ++ [payload])
      (hevents : next.events = system.events)
  | event {sequence index : ℕ} {ref : IngestRef}
      (hworker : system.worker = .publishing sequence ref index)
      (hqueue : payloads next.queue = payloads system.queue)
      (hevents : next.events =
        system.events ++ [sealedEvent env.sha256Hex ref index])

section Steps

variable {env : Environment} {system next : System} {action : Action}
  {library : Library} {compile : String → Ingest.Schema}

theorem sends_of_step (hstep : step env system action = some next) :
    Sends env system action next := by
  cases step_cases hstep with
  | ingested => exact .item rfl (payloads_publish _ _ _) rfl
  | delivered _ hmessage => exact .nothing (payloads_deliver hmessage) rfl
  | worker htransition =>
    cases htransition with
    | malformed => exact .nothing (payloads_of_reaches _ _ _ _) rfl
    | missing => exact .nothing (payloads_of_reaches _ _ _ _) rfl
    | addFailed =>
      exact .nothing (by rw [System.reject, payloads_of_reaches]) rfl
    | acked => exact .nothing (payloads_of_reaches _ _ _ _) rfl
    | @published sequence ref index fault hworker =>
      cases fault with
      | none => exact .event hworker rfl rfl
      | some err => exact .nothing rfl rfl
    | _ => exact .nothing rfl rfl
  | gateway _ htransition =>
    obtain ⟨store, requests, rfl⟩ := htransition.frame
    exact .nothing rfl rfl
  | admin _ htransition =>
    obtain ⟨locker, stage, rfl⟩ := htransition.frame
    exact .nothing rfl rfl
  | expired => exact .nothing (payloads_settle _ _ _) rfl
  | _ => exact .nothing rfl rfl

/-- What the handler answers with 202 names a valid subject, and the event it
announces repeats the work item. -/
theorem sent_of_answered {submission : Submission}
    (hanswered : submission.Answered library compile) :
    ValidSubjectID submission.ref.subjectID ∧
      submission.accepted.ingested = ⟨submission.ref.contentDigest,
        submission.ref.artifactType, "", submission.ref.subjectID,
        submission.publisher⟩ := by
  unfold Submission.Answered Ingest.ingestArtifact Ingest.submit at hanswered
  simp only at hanswered
  repeat' split at hanswered
  all_goals try cases hanswered
  rename_i hvalid _ _ _ _ _ _ _ _ _
  rw [Submission.ref, ← Except.ok.inj hanswered]
  exact ⟨hvalid, rfl⟩

/-- What is taken in is authorized under the list that is stored. -/
theorem genuine_of_step (hcanonicalizes : library.Canonicalizes)
    (hrenders : library.Renders) (hsubmits : Submits library compile action)
    (hstep : step env system action = some next) {intake : Intake}
    (hintake : intake ∈ intakes system action next) :
    intake.Genuine env library := by
  unfold intakes at hintake
  split at hintake
  · obtain rfl := List.mem_singleton.mp hintake
    obtain ⟨submission, hanswered, rfl, rfl⟩ := hsubmits
    refine ⟨?_, (sent_of_answered hanswered).1, ?_⟩
    · by_contra hrefused
      rw [System.trustList] at hrefused
      simp [step, ingestStep, hrefused] at hstep
    · obtain ⟨content, -, hunwrap⟩ :=
        unwrapContent_wrap hcanonicalizes hrenders hanswered.wrap
      exact ⟨content, hunwrap⟩
  · cases hintake

theorem getElem?_of_step (hstep : step env system action = some next)
    {subjectID : SubjectID} {index : ℕ} {entry : Ledgers.Entry}
    (hentry : (system.locker.entries subjectID)[index]? = some entry) :
    (next.locker.entries subjectID)[index]? = some entry := by
  have hlog := logStep_of_step hstep subjectID
  generalize next.locker.entries subjectID = entries at hlog ⊢
  cases hlog with
  | kept => exact hentry
  | _ =>
    rw [List.getElem?_append_left (List.getElem?_eq_some_iff.mp hentry).1]
    exact hentry

/-- An item that the worker holds has been taken in. -/
theorem Traced.held {notes : List Intake} {sequence : ℕ} {ref : IngestRef}
    (hinv : Traced env library (system, notes))
    (hconsistent : Consistent env system)
    (hsequence : system.worker.sequence? = some sequence)
    (href : system.worker.ref? = some (sequence, ref)) :
    ∃ intake ∈ notes, intake.ref = ref := by
  obtain ⟨message, hmessage, -, hpayload⟩ := hconsistent.held sequence hsequence
  apply hinv.queued ref
  rw [← hpayload ref href]
  exact mem_payloads hmessage

theorem traced_step (hcanonicalizes : library.Canonicalizes)
    (hrenders : library.Renders) {notes : List Intake}
    (hconsistent : Consistent env system)
    (hinv : Traced env library (system, notes))
    (hsubmits : Submits library compile action)
    (hstep : step env system action = some next) :
    Traced env library (next, notes ++ intakes system action next) := by
  have hkept : ∀ {condition : Intake → Prop},
      (∃ intake ∈ notes, condition intake) →
        ∃ intake ∈ notes ++ intakes system action next, condition intake :=
    fun ⟨intake, hintake, hcondition⟩ =>
      ⟨intake, List.mem_append_left _ hintake, hcondition⟩
  constructor
  · intro intake hintake
    rcases List.mem_append.mp hintake with hearlier | hnew
    · exact hinv.genuine intake hearlier
    · exact genuine_of_step hcanonicalizes hrenders hsubmits hstep hnew
  · intro ref hmem
    cases sends_of_step hstep with
    | nothing hqueue _ => exact hkept (hinv.queued ref (hqueue ▸ hmem))
    | event _ hqueue _ => exact hkept (hinv.queued ref (hqueue ▸ hmem))
    | item haction hqueue _ =>
      change some ref ∈ payloads next.queue at hmem
      rw [hqueue, List.mem_append, List.mem_singleton] at hmem
      rcases hmem with hearlier | rfl
      · exact hkept (hinv.queued ref hearlier)
      · subst haction
        exact ⟨_, List.mem_append_right _ (List.mem_singleton_self _), rfl⟩
  · intro subjectID receipt hmem
    have hlog := logStep_of_step hstep subjectID
    change _ ∈ next.locker.entries subjectID at hmem
    generalize next.locker.entries subjectID = entries at hlog hmem
    cases hlog with
    | kept => exact hkept (hinv.entries subjectID receipt hmem)
    | adminSealed _ _ _ _ =>
      rcases List.mem_append.mp hmem with hearlier | hnew
      · exact hkept (hinv.entries subjectID receipt hearlier)
      · cases List.mem_singleton.mp hnew
    | workerSealed _ hworker hsubject =>
      rcases List.mem_append.mp hmem with hearlier | hnew
      · exact hkept (hinv.entries subjectID receipt hearlier)
      · cases List.mem_singleton.mp hnew
        obtain ⟨intake, hintake, rfl⟩ := hinv.held hconsistent
          (by rw [hworker]; rfl) (by rw [hworker]; rfl)
        exact hkept ⟨intake, hintake, hsubject, rfl⟩
  · intro data hmem
    have hearlier : data ∈ system.events →
        ∃ intake ∈ notes, ∃ index, intake.SealedAt next index ∧
          data = sealedEvent env.sha256Hex intake.ref index := by
      intro hdata
      obtain ⟨intake, hintake, index, hsealed, heq⟩ := hinv.events data hdata
      exact ⟨intake, hintake, index, getElem?_of_step hstep hsealed, heq⟩
    cases sends_of_step hstep with
    | nothing _ hevents => exact hkept (hearlier (hevents ▸ hmem))
    | item _ _ hevents => exact hkept (hearlier (hevents ▸ hmem))
    | @event sequence index ref hworker _ hevents =>
      change data ∈ next.events at hmem
      rw [hevents, List.mem_append, List.mem_singleton] at hmem
      rcases hmem with hdata | rfl
      · exact hkept (hearlier hdata)
      · have hsealed := hconsistent.appended sequence ref index (.inr hworker)
        obtain ⟨intake, hintake, rfl⟩ := hinv.held hconsistent
          (by rw [hworker]; rfl) (by rw [hworker]; rfl)
        exact hkept ⟨intake, hintake, index,
          getElem?_of_step hstep hsealed, rfl⟩

end Steps

/-- In every run whose work items come from `IngestArtifact`. -/
theorem traced_of_reaches {env : Environment} {library : Library}
    {compile : String → Ingest.Schema} {recorded : System × List Intake}
    (hcanonicalizes : library.Canonicalizes) (hrenders : library.Renders)
    (hreach : Reaches (recording (step env) intakes)
      (fun _ => Submits library compile) (initial, []) recorded) :
    Traced env library recorded := by
  suffices hinv : Consistent env recorded.1 ∧ Traced env library recorded from
    hinv.2
  apply hreach.invariant
  · exact ⟨consistent_initial env, by constructor <;> simp [initial, payloads]⟩
  · rintro before action after ⟨hconsistent, hinv⟩ hsubmits hstep
    obtain ⟨hnext, hnotes⟩ := recording_eq_some hstep
    have htraced := traced_step hcanonicalizes hrenders hconsistent hinv
      hsubmits hnext
    rw [← hnotes] at htraced
    exact ⟨consistent_step hconsistent hnext, htraced⟩

/-- Whatever the worker has sealed was submitted for that subject by a
publisher whom the list stored at that moment authorized, and its receipt names
the publisher. -/
theorem sealed_entry_accounted {env : Environment} {library : Library}
    {compile : String → Ingest.Schema} {recorded : System × List Intake}
    (hcanonicalizes : library.Canonicalizes) (hrenders : library.Renders)
    (hreach : Reaches (recording (step env) intakes)
      (fun _ => Submits library compile) (initial, []) recorded)
    {subjectID : SubjectID} {receipt : Bytes}
    (hentry : ⟨receipt, .worker⟩ ∈ recorded.1.locker.entries subjectID) :
    ∃ intake ∈ recorded.2, intake.Genuine env library ∧
      intake.ref.subjectID = subjectID ∧ intake.ref.receiptBytes = receipt := by
  have htraced := traced_of_reaches hcanonicalizes hrenders hreach
  obtain ⟨intake, hintake, hsealed⟩ := htraced.entries subjectID receipt hentry
  exact ⟨intake, hintake, htraced.genuine intake hintake, hsealed⟩

def envelope : Submission := twiceSubmission "2026-01-01T00:00:00Z" "job-1"

theorem submits_envelope (sequence : ℕ) :
    ∀ action ∈ sampleRegistration ++
        sealActions samplePublisher envelope.ref sequence,
      Submits plainLibrary Ingest.envelopeSchemas action := by
  intro action haction
  unfold Submits
  split
  · simp [sampleRegistration, sealActions] at haction
    obtain ⟨rfl, rfl⟩ := haction
    exact ⟨envelope, answered_twiceSubmission "2026-01-01T00:00:00Z" "job-1",
      rfl, rfl⟩
  · trivial

/-- `alpha` is registered, and a new receipt is sealed for it. -/
theorem exists_sealed_run {ref : IngestRef} (hsubject : ref.subjectID = "alpha")
    (hnew : ref.receiptBytes ≠ [0]) :
    ∃ system next, run (step sampleEnvironment) initial sampleRegistration =
        some system ∧
      run (step sampleEnvironment) system
        (sealActions samplePublisher ref system.queue.length) = some next ∧
      ⟨ref.receiptBytes, .worker⟩ ∈ next.locker.entries "alpha" ∧
      sealedEvent sampleDigest ref 1 ∈ next.events := by
  obtain ⟨system, hrun, hserved⟩ := exists_registered
  have hadmitted := hserved.admitted
  have hledger := hserved.ledger
  rw [← hsubject] at hadmitted hledger
  have hunknown : DigestIndex.record DigestIndex.empty (sampleDigest [0]) 0
      (sampleDigest ref.receiptBytes) = none :=
    DigestIndex.record_of_ne DigestIndex.empty 0 (sampleDigest_ne hnew)
  obtain ⟨next, hnext, -, -, -, -, hlocker, hevents⟩ :=
    run_sealActions hserved.idle hadmitted hledger hunknown
  rw [hsubject, hserved.entries] at hlocker hevents
  refine ⟨system, next, hrun, hnext, ?_, ?_⟩
  · rw [hlocker, Ledgers.entries_record, Ledgers.entries_add_self]
    simp
  · rw [hevents]
    exact List.mem_append_right _ (List.mem_singleton_self _)

theorem exists_envelope_run :
    ∃ recorded, Reaches (recording (step sampleEnvironment) intakes)
        (fun _ => Submits plainLibrary Ingest.envelopeSchemas) (initial, [])
        recorded ∧
      ⟨envelope.ref.receiptBytes, .worker⟩ ∈
        recorded.1.locker.entries "alpha" ∧
      sealedEvent sampleDigest envelope.ref 1 ∈ recorded.1.events := by
  have hsubject : envelope.ref.subjectID = "alpha" := rfl
  obtain ⟨system, next, hrun, hnext, hentry, hevent⟩ :=
    exists_sealed_run hsubject (twiceReceipt_ne "2026-01-01T00:00:00Z")
  have hreach : Reaches (step sampleEnvironment)
      (fun _ => Submits plainLibrary Ingest.envelopeSchemas) initial next := by
    refine (reaches_of_run_all (fun _ action hmem => ?_) hrun).trans
      (reaches_of_run_all (fun _ action hmem => ?_) hnext)
    · exact submits_envelope 0 action (List.mem_append_left _ hmem)
    · exact submits_envelope _ action (List.mem_append_right _ hmem)
  obtain ⟨notes, hrecorded⟩ := hreach.record intakes
  exact ⟨(next, notes), hrecorded, hentry, hevent⟩

theorem sealed_envelope_accounted :
    ∃ recorded : System × List Intake, ∃ intake ∈ recorded.2,
      intake.Genuine sampleEnvironment plainLibrary ∧
        intake.ref.subjectID = "alpha" ∧
        intake.ref.receiptBytes = envelope.ref.receiptBytes := by
  obtain ⟨recorded, hreach, hentry, -⟩ := exists_envelope_run
  exact ⟨recorded, sealed_entry_accounted canonicalizes_plainLibrary
    renders_plainLibrary hreach hentry⟩

/-! ## Lists and receipts in later states -/

section Later

variable {env : Environment} {guard : System → Action → Prop}
  {system later : System} {subjectID : SubjectID}

/-- The list under which a publisher is authorized is that of an admin request
for the subject, whichever replies and writes were lost. -/
theorem stored_list_requested
    (hreach : Reaches (step env) guard initial system)
    {trusted : List TrustEntry}
    (hstored : system.trustList subjectID = some trusted) :
    ∃ id request, system.requests id = some request ∧
      request.call.subjectID = subjectID ∧
      request.call.trustedPublishers = trusted := by
  induction hreach generalizing trusted with
  | refl => cases hstored
  | tail _ _ hstep ih =>
    rcases trustList_of_step hstep subjectID with hsame |
      ⟨id, _, request, _, -, hrequest, hsubject, -, hwritten⟩
    · rw [hsame] at hstored
      obtain ⟨id, request, hrequest, hcall⟩ := ih hstored
      obtain ⟨after, hafter, hsame, -⟩ := exists_request_of_step hstep hrequest
      exact ⟨id, after, hafter, hsame ▸ hcall⟩
    · rw [hwritten] at hstored
      obtain ⟨after, hafter, hsame, -⟩ := exists_request_of_step hstep hrequest
      exact ⟨id, after, hafter, hsame ▸ ⟨hsubject, Option.some.inj hstored⟩⟩

theorem alpha_list_requested :
    ∃ (system : System) (id : ℕ) (request : Request),
      system.requests id = some request ∧
        system.trustList "alpha" = some request.call.trustedPublishers := by
  obtain ⟨system, hrun, trusted, hstored⟩ : ∃ system,
      run (step sampleEnvironment) initial sampleRegistration = some system ∧
        ∃ trusted, system.trustList "alpha" = some trusted :=
    ⟨_, rfl, _, rfl⟩
  obtain ⟨id, request, hrequest, -, rfl⟩ :=
    stored_list_requested (reaches_of_run hrun) hstored
  exact ⟨system, id, request, hrequest, hstored⟩

/-- What `VerifyDigest` has found stays where it is, also when the ledger is
reopened with a partial index or not at all, and a later answer for the digest
points at bytes of that digest again. -/
theorem verified_receipt_permanent
    (hreach : Reaches (step env) guard initial system)
    (hlater : Reaches (step env) guard system later)
    {ledger : Ledgers.Ledger} {digest : String} {index : ℕ}
    (hledger : system.locker.ledgers subjectID = some ledger)
    (hfound : ledger.verifyDigest digest = some index) :
    (∃ entry, (later.locker.entries subjectID)[index]? = some entry ∧
      env.sha256Hex entry.data = digest) ∧
    ∀ reopened other, later.locker.ledgers subjectID = some reopened →
      reopened.verifyDigest digest = some other →
        ∃ entry, (later.locker.entries subjectID)[other]? = some entry ∧
          env.sha256Hex entry.data = digest := by
  obtain ⟨entry, hentry, hdigest⟩ := (consistent_of_reaches hreach).indexSound
    subjectID ledger digest index hledger hfound
  refine ⟨⟨entry, ?_, hdigest⟩, fun reopened other =>
    (consistent_of_reaches (hreach.trans hlater)).indexSound subjectID reopened
      digest other⟩
  apply hlater.invariant hentry
  intro before action after hbefore _ hstep
  exact getElem?_of_step hstep hbefore

/-- A restart fails to open the ledger, whose log is kept. -/
theorem registration_permanent :
    ∃ later : System, later.locker.ledgers "alpha" = none ∧
      ∃ entry, (later.locker.entries "alpha")[0]? = some entry ∧
        sampleDigest entry.data = sampleDigest [0] := by
  obtain ⟨system, later, hrun, hlater, ⟨ledger, hledger, hfound⟩, hclosed⟩ :
    ∃ system later,
      run (step sampleEnvironment) initial sampleRegistration = some system ∧
      run (step sampleEnvironment) system
        [.restart fun _ => .failed .canceled false] = some later ∧
      (∃ ledger, system.locker.ledgers "alpha" = some ledger ∧
        ledger.verifyDigest (sampleDigest [0]) = some 0) ∧
      later.locker.ledgers "alpha" = none :=
    ⟨_, _, rfl, rfl, ⟨_, rfl, rfl⟩, rfl⟩
  exact ⟨later, hclosed, (verified_receipt_permanent (reaches_of_run hrun)
    (reaches_of_run hlater) hledger hfound).1⟩

end Later

end ComplyTime.Platform
