import ComplyTime.Pipeline.Consistency

/-!
# Conservation of accepted evidence

A submission is answered with 202 once its message is in the stream.  From then
on the message should stay deliverable until its receipt is sealed or a
permanent error terminates it.  The consumer gives up after `MaxDeliver`
deliveries, whatever made them fail, so the invariant needs the last permitted
delivery of an unsealed message to survive.
-/

namespace ComplyTime.Pipeline

open TransitionSystem WorkQueue Subjects Ledgers Worker AdminSubscriber
open GatewayAdmin Trust Streams

/-- The stream still has the message, and the worker either may be given it
again or is holding it. -/
def Deliverable (system : System) (sequence : ℕ)
    (message : Message (Option IngestRef)) : Prop :=
  message.disposition = .stored ∧
    (message.deliveries < ingestConsumerConfig.maxDeliver ∨
      system.worker.sequence? = some sequence)

/-- The receipt is in the subject's ledger. -/
def ReceiptSealed (locker : Locker) (ref : IngestRef) : Prop :=
  ∃ entry ∈ locker.entries ref.subjectID, entry.data = ref.receiptBytes

/-- The worker terminated the message because of a permanent error. -/
def TerminatedPermanently (system : System) (sequence : ℕ) : Prop :=
  ∃ letter ∈ system.deadLetters, letter.sequence = sequence ∧
    isPermanent letter.cause = true

def Expired (system : System) (message : Message (Option IngestRef)) : Prop :=
  message.publishedAt + ingestStreamConfig.maxAge ≤ system.now

/-- Nothing more has to happen to the message. -/
def Concluded (system : System) (sequence : ℕ)
    (message : Message (Option IngestRef)) (ref : IngestRef) : Prop :=
  Expired system message ∨ ReceiptSealed system.locker ref ∨
    TerminatedPermanently system sequence

/-- The message the worker holds while its receipt is not appended. -/
def unsealedSequence : WorkerState → Option ℕ
  | .received sequence => some sequence
  | .verifying sequence _ => some sequence
  | .sealing sequence _ => some sequence
  | _ => none

/-- No failed append and no crash hits the last permitted delivery of a message
whose receipt the worker has not appended. -/
def SparesLastDelivery (system : System) : Action → Prop
  | .worker (.add (some _)) => ∀ sequence message,
      unsealedSequence system.worker = some sequence →
        system.queue[sequence]? = some message →
          message.deliveries < ingestConsumerConfig.maxDeliver
  | .restart _ => ∀ sequence message,
      unsealedSequence system.worker = some sequence →
        system.queue[sequence]? = some message →
          message.deliveries < ingestConsumerConfig.maxDeliver
  | _ => True

def Conserved (system : System) : Prop :=
  ∀ sequence message ref, system.queue[sequence]? = some message →
    message.payload = some ref →
      Deliverable system sequence message ∨
        Concluded system sequence message ref

section Steps

variable {env : Environment} {system next : System}

theorem ReceiptSealed.mono {locker later : Locker} {ref : IngestRef}
    (hsealed : ReceiptSealed locker ref) (hgrows : ∀ subjectID,
      locker.entries subjectID <+: later.entries subjectID) :
    ReceiptSealed later ref := by
  obtain ⟨entry, hentry, hdata⟩ := hsealed
  exact ⟨entry, (hgrows ref.subjectID).subset hentry, hdata⟩

theorem receiptSealed_of_sealed (hsha : Function.Injective env.sha256Hex)
    {locker : Locker} {ref : IngestRef} (hsealed : Sealed env locker ref) :
    ReceiptSealed locker ref := by
  obtain ⟨entry, hentry, hdigest⟩ := hsealed
  exact ⟨entry, hentry, hsha hdigest⟩

/-- What no step takes back. -/
structure Accumulates (system next : System) : Prop where
  now : system.now ≤ next.now
  entries : ∀ subjectID,
    system.locker.entries subjectID <+: next.locker.entries subjectID
  deadLetters : system.deadLetters ⊆ next.deadLetters

theorem Concluded.mono {sequence : ℕ} {message : Message (Option IngestRef)}
    {ref : IngestRef} (hconcluded : Concluded system sequence message ref)
    (hmore : Accumulates system next) :
    Concluded next sequence message ref := by
  rcases hconcluded with hexpired | hsealed | ⟨letter, hletter, hcause⟩
  · exact .inl (Nat.le_trans hexpired hmore.now)
  · exact .inr (.inl (hsealed.mono hmore.entries))
  · exact .inr (.inr ⟨letter, hmore.deadLetters hletter, hcause⟩)

section

variable (hinv : Conserved system) (hmore : Accumulates system next)

include hinv hmore

/-- A step that leaves the queue alone.  A message the worker lets go of must
have a delivery left or be concluded. -/
theorem Conserved.frame (hqueue : next.queue = system.queue)
    (hrelease : ∀ sequence, system.worker.sequence? = some sequence →
      next.worker.sequence? ≠ some sequence →
        ∀ message ref, system.queue[sequence]? = some message →
          message.payload = some ref →
            message.deliveries < ingestConsumerConfig.maxDeliver ∨
              Concluded next sequence message ref) : Conserved next := by
  intro sequence message ref hmessage hpayload
  rw [hqueue] at hmessage
  rcases hinv sequence message ref hmessage hpayload with
    ⟨hstored, hless | hheld⟩ | hconcluded
  · exact .inl ⟨hstored, .inl hless⟩
  · by_cases hkept : next.worker.sequence? = some sequence
    · exact .inl ⟨hstored, .inr hkept⟩
    · rcases hrelease sequence hheld hkept message ref hmessage hpayload with
        hless | hconcluded
      · exact .inl ⟨hstored, .inl hless⟩
      · exact .inr hconcluded
  · exact .inr (hconcluded.mono hmore)

/-- A step that settles one message, which must be concluded. -/
theorem Conserved.settled {sequence : ℕ} {disposition : Disposition}
    (hqueue : next.queue = settle system.queue sequence disposition)
    (hworker : ∀ other, system.worker.sequence? = some other →
      other ≠ sequence → next.worker.sequence? = some other)
    (hconcluded : ∀ message ref, system.queue[sequence]? = some message →
      message.payload = some ref → Concluded next sequence message ref) :
    Conserved next := by
  intro other message ref hmessage hpayload
  rw [hqueue] at hmessage
  by_cases heq : other = sequence
  · subst heq
    right
    rcases getElem?_settle hmessage with hsame | ⟨-, old, hold, -, rfl⟩
    · exact hconcluded message ref hsame hpayload
    · exact hconcluded old ref hold hpayload
  · rcases getElem?_settle hmessage with hsame | ⟨habsurd, -⟩
    · rcases hinv other message ref hsame hpayload with
        ⟨hstored, hless | hheld⟩ | hbefore
      · exact .inl ⟨hstored, .inl hless⟩
      · exact .inl ⟨hstored, .inr (hworker other hheld heq)⟩
      · exact .inr (hbefore.mono hmore)
    · exact absurd habsurd heq

/-- The worker lets go of a concluded message, whether or not its answer
reaches the stream. -/
theorem Conserved.answered {sequence : ℕ} {verdict : Verdict} {reaches : Bool}
    (hqueue : next.queue = if reaches then
      answer system.queue sequence verdict else system.queue)
    (hheld : system.worker.sequence? = some sequence)
    (hconcluded : ∀ message ref, system.queue[sequence]? = some message →
      message.payload = some ref → Concluded next sequence message ref) :
    Conserved next := by
  have hkept : next.queue = system.queue → Conserved next := by
    intro hsame
    refine hinv.frame hmore hsame ?_
    intro other hother _ message ref hmessage hpayload
    obtain rfl : sequence = other := by simpa [hheld] using hother
    exact .inr (hconcluded message ref hmessage hpayload)
  have hgone : ∀ other, system.worker.sequence? = some other →
      other ≠ sequence → next.worker.sequence? = some other := by
    intro other hother hne
    rw [hheld, Option.some.injEq] at hother
    exact absurd hother.symm hne
  cases reaches with
  | false => exact hkept hqueue
  | true =>
    cases verdict with
    | ack => exact hinv.settled hmore hqueue hgone hconcluded
    | term => exact hinv.settled hmore hqueue hgone hconcluded
    | nak => exact hkept hqueue

end

theorem accumulates_of_eq (hnow : next.now = system.now)
    (hlocker : next.locker = system.locker)
    (hletters : next.deadLetters = system.deadLetters) :
    Accumulates system next :=
  ⟨Nat.le_of_eq hnow.symm, fun _ => hlocker ▸ List.prefix_refl _,
    hletters ▸ List.Subset.refl _⟩

theorem Conserved.advance (hinv : Conserved system)
    (hmore : Accumulates system next) (hqueue : next.queue = system.queue)
    (hworker : next.worker.sequence? = system.worker.sequence?) :
    Conserved next := by
  refine hinv.frame hmore hqueue ?_
  intro sequence hheld hreleased
  rw [hworker] at hreleased
  exact absurd hheld hreleased

theorem conserved_worker (hsha : Function.Injective env.sha256Hex)
    {event : WorkerEvent} (hinv : Conserved system)
    (hknown : Consistent env system)
    (hguard : SparesLastDelivery system (.worker event))
    (htransition : WorkerTransition env system event next) :
    Conserved next := by
  cases htransition with
  | malformed hworker hmessage hpayload =>
    refine hinv.answered (accumulates_of_eq rfl rfl rfl) rfl
      (by rw [hworker]; rfl) ?_
    intro message ref hsame hsome
    obtain rfl := Option.mem_unique hmessage hsame
    simp [hpayload] at hsome
  | @missing sequence delivered ref reaches hworker hmessage hpayload hledger =>
    refine hinv.answered ⟨Nat.le_refl _, fun _ => List.prefix_refl _, ?_⟩ rfl
      (by rw [hworker]; rfl) ?_
    · simp [System.reject]
    · intro message held hsame hsome
      refine .inr (.inr ⟨⟨sequence, ref, .ledgerNotFound ref.subjectID,
        decide (Registered system.store ref.subjectID)⟩, ?_, rfl, rfl⟩)
      simp [System.reject]
  | found hworker hmessage hpayload hledger =>
    exact hinv.advance (accumulates_of_eq rfl rfl rfl) rfl
      (by rw [hworker]; rfl)
  | known hworker hledger hfound =>
    exact hinv.advance (accumulates_of_eq rfl rfl rfl) rfl
      (by rw [hworker]; rfl)
  | unknown hworker hunknown =>
    exact hinv.advance (accumulates_of_eq rfl rfl rfl) rfl
      (by rw [hworker]; rfl)
  | @addFailed sequence ref err hworker =>
    refine hinv.frame (accumulates_of_eq rfl rfl (by simp [System.reject]))
      (by simp [System.reject, answer]) ?_
    intro other hheld _ message held hmessage _
    left
    refine hguard other message ?_ hmessage
    rw [hworker] at hheld ⊢
    exact hheld
  | added hworker =>
    exact hinv.advance ⟨Nat.le_refl _, (grows_add _ _ _).entries,
      List.Subset.refl _⟩ rfl (by rw [hworker]; rfl)
  | indexed hworker =>
    exact hinv.advance ⟨Nat.le_refl _, (grows_record _ _ _ _).entries,
      List.Subset.refl _⟩ rfl (by rw [hworker]; rfl)
  | published hworker =>
    exact hinv.advance (accumulates_of_eq rfl rfl rfl) rfl
      (by rw [hworker]; rfl)
  | @acked sequence ref reaches hworker =>
    refine hinv.answered (accumulates_of_eq rfl rfl rfl) rfl
      (by rw [hworker]; rfl) ?_
    intro message held hmessage hpayload
    obtain ⟨delivered, hdelivered, -, hcarries⟩ :=
      hknown.held sequence (by rw [hworker]; rfl)
    obtain rfl := Option.mem_unique hmessage hdelivered
    have hsame : ref = held := by
      have hcarried := hcarries ref (by rw [hworker]; rfl)
      exact Option.mem_unique hcarried hpayload
    subst hsame
    exact .inr (.inl (receiptSealed_of_sealed hsha
      (hknown.sealedBeforeAck sequence ref hworker)))

theorem receiptSealed_of_held (hsha : Function.Injective env.sha256Hex)
    (hknown : Consistent env system) {sequence : ℕ} {ref : IngestRef}
    (href : system.worker.ref? = some (sequence, ref))
    (hpast : unsealedSequence system.worker = none) :
    ReceiptSealed system.locker ref := by
  cases hworker : system.worker with
  | indexing other held index =>
    obtain ⟨-, rfl⟩ : other = sequence ∧ held = ref := by
      simpa [hworker, WorkerState.ref?] using href
    have hentry := hknown.appended other held index (.inl hworker)
    exact ⟨_, List.mem_of_getElem? hentry, rfl⟩
  | publishing other held index =>
    obtain ⟨-, rfl⟩ : other = sequence ∧ held = ref := by
      simpa [hworker, WorkerState.ref?] using href
    have hentry := hknown.appended other held index (.inr hworker)
    exact ⟨_, List.mem_of_getElem? hentry, rfl⟩
  | acking other held =>
    obtain ⟨-, rfl⟩ : other = sequence ∧ held = ref := by
      simpa [hworker, WorkerState.ref?] using href
    exact receiptSealed_of_sealed hsha
      (hknown.sealedBeforeAck other held hworker)
  | _ => simp [hworker, WorkerState.ref?, unsealedSequence] at href hpast

theorem sequence?_eq_of_unsealed {worker : WorkerState} {sequence : ℕ}
    (hheld : worker.sequence? = some sequence) :
    unsealedSequence worker = some sequence ∨
      (unsealedSequence worker = none ∧
        ∃ ref, worker.ref? = some (sequence, ref)) := by
  cases worker <;>
    simp_all [WorkerState.sequence?, unsealedSequence, WorkerState.ref?]

theorem conserved_restart (hsha : Function.Injective env.sha256Hex)
    (hinv : Conserved system) (hknown : Consistent env system)
    {opening : SubjectID → Opening}
    (hguard : SparesLastDelivery system (.restart opening)) :
    Conserved (restartStep env system opening) := by
  refine hinv.frame ⟨Nat.le_refl _, fun _ => List.prefix_refl _,
    List.Subset.refl _⟩ rfl ?_
  intro sequence hheld _ message ref hmessage hpayload
  rcases sequence?_eq_of_unsealed hheld with hunsealed | ⟨hpast, held, hheldRef⟩
  · exact .inl (hguard sequence message hunsealed hmessage)
  · obtain ⟨delivered, hdelivered, -, hcarries⟩ := hknown.held sequence hheld
    obtain rfl := Option.mem_unique hmessage hdelivered
    obtain rfl : held = ref :=
      Option.some.inj ((hcarries held hheldRef).symm.trans hpayload)
    exact .inr (.inr (.inl (receiptSealed_of_held hsha hknown hheldRef hpast)))

theorem accumulates_admin {id : ℕ} {event : AdminEvent} {request : Request}
    (htransition : AdminTransition env system id request event next) :
    Accumulates system next ∧ next.queue = system.queue ∧
      next.worker = system.worker := by
  have hgrows := htransition.grows
  obtain ⟨locker, stage, rfl⟩ := htransition.frame
  exact ⟨⟨Nat.le_refl _, hgrows.entries, List.Subset.refl _⟩, rfl, rfl⟩

theorem conserved_ingest (hinv : Conserved system)
    {payload : Option IngestRef} {publisher : PublisherIdentity}
    (hstep : ingestStep env system payload publisher = some next) :
    Conserved next := by
  obtain rfl := ingestStep_eq_some hstep
  intro sequence message ref hmessage hpayload
  rcases getElem?_publish hmessage with hold | ⟨-, rfl⟩
  · exact hinv sequence message ref hold hpayload
  · have hfresh : 0 < ingestConsumerConfig.maxDeliver := by decide
    exact .inl ⟨rfl, .inl hfresh⟩

theorem conserved_deliver (hinv : Conserved system) {sequence : ℕ}
    (hstep : deliverStep system sequence = some next) : Conserved next := by
  obtain ⟨delivered, hworker, hdelivered, hstored, -, rfl⟩ :=
    deliverStep_eq_some hstep
  intro other message ref hmessage hpayload
  rcases getElem?_set_of_some hdelivered hmessage with
    ⟨rfl, rfl⟩ | ⟨hne, hold⟩
  · exact .inl ⟨hstored, .inr rfl⟩
  · rcases hinv other message ref hold hpayload with
      ⟨hkept, hless | hheld⟩ | hconcluded
    · exact .inl ⟨hkept, .inl hless⟩
    · simp [hworker, WorkerState.sequence?] at hheld
    · exact .inr hconcluded

theorem conserved_expire (hinv : Conserved system) {sequence : ℕ}
    {old : Message (Option IngestRef)}
    (hold : system.queue[sequence]? = some old)
    (hage : old.publishedAt + ingestStreamConfig.maxAge ≤ system.now) :
    Conserved
      { system with queue := settle system.queue sequence .expired } := by
  refine hinv.settled (accumulates_of_eq rfl rfl rfl) rfl
    (fun _ hheld _ => hheld) ?_
  intro message ref hmessage _
  obtain rfl := Option.mem_unique hold hmessage
  exact .inl hage

theorem conserved_step (hsha : Function.Injective env.sha256Hex)
    {action : Action} (hknown : Consistent env system)
    (hinv : Conserved system) (hguard : SparesLastDelivery system action)
    (hstep : step env system action = some next) : Conserved next := by
  cases step_cases hstep with
  | ingested => exact conserved_ingest hinv hstep
  | delivered => exact conserved_deliver hinv hstep
  | worker htransition =>
    exact conserved_worker hsha hinv hknown hguard htransition
  | called => exact hinv.advance (accumulates_of_eq rfl rfl rfl) rfl rfl
  | gateway _ htransition =>
    obtain ⟨store, requests, rfl⟩ := htransition.frame
    exact hinv.advance (accumulates_of_eq rfl rfl rfl) rfl rfl
  | admin _ htransition =>
    obtain ⟨hmore, hqueue, hworker⟩ := accumulates_admin htransition
    exact hinv.advance hmore hqueue (by rw [hworker])
  | restarted => exact conserved_restart hsha hinv hknown hguard
  | ticked =>
    exact hinv.advance ⟨Nat.le_add_right _ _, fun _ => List.prefix_refl _,
      List.Subset.refl _⟩ rfl rfl
  | expired hmessage hage => exact conserved_expire hinv hmessage hage

end Steps

theorem conserved_of_reaches {env : Environment}
    (hsha : Function.Injective env.sha256Hex) {system : System}
    (hreach : Reaches (step env) SparesLastDelivery initial system) :
    Conserved system :=
  hreach.invariant_with (fun _ => consistent_of_reaches)
    (by
      intro sequence message ref hmessage
      simp [initial] at hmessage)
    fun _ _ _ hknown hinv hguard hstep =>
      conserved_step hsha hknown hinv hguard hstep

/-- In every run in which no failed append and no crash hits the last permitted
delivery of an unsealed message, each work item younger than `MaxAge` is still
deliverable, or its receipt is in the subject's ledger, or it was terminated
because of a permanent error. -/
theorem accepted_evidence_conserved (env : Environment)
    (hsha : Function.Injective env.sha256Hex) {system : System}
    (hreach : Reaches (step env) SparesLastDelivery initial system)
    {sequence : ℕ} {message : Message (Option IngestRef)} {ref : IngestRef}
    (hmessage : system.queue[sequence]? = some message)
    (hpayload : message.payload = some ref)
    (hage : system.now < message.publishedAt + ingestStreamConfig.maxAge) :
    Deliverable system sequence message ∨ ReceiptSealed system.locker ref ∨
      TerminatedPermanently system sequence := by
  rcases conserved_of_reaches hsha hreach sequence message ref hmessage
    hpayload with hdeliverable | hexpired | hconcluded
  · exact .inl hdeliverable
  · exact absurd hexpired (Nat.not_le_of_lt hage)
  · exact .inr hconcluded

/-- One delivery whose append fails. -/
def sampleFailure : List Action :=
  [.deliver 0, .worker (.lookup true), .worker .verify,
    .worker (.add (some (.message "disk full")))]

/-- The condition on a run, as a computation. -/
def lastDeliveryCheck (system : System) : Action → Bool
  | .worker (.add (some _)) =>
    match unsealedSequence system.worker with
    | none => true
    | some sequence => (system.queue[sequence]?).all fun message =>
      decide (message.deliveries < ingestConsumerConfig.maxDeliver)
  | .restart _ => false
  | _ => true

theorem sparesLastDelivery_of_check {system : System} {action : Action}
    (hcheck : lastDeliveryCheck system action = true) :
    SparesLastDelivery system action := by
  cases action with
  | restart opening => simp [lastDeliveryCheck] at hcheck
  | worker event =>
    cases event with
    | add fault =>
      cases fault with
      | none => trivial
      | some err =>
        intro sequence message hunsealed hmessage
        simpa [lastDeliveryCheck, hunsealed, hmessage] using hcheck
    | _ => trivial
  | _ => trivial

/-- After four failed deliveries the sample message is still deliverable. -/
theorem sample_conserved_after_four_failures :
    ∃ system message, Reaches (step sampleEnvironment) SparesLastDelivery
        initial system ∧ system.queue[0]? = some message ∧
      (Deliverable system 0 message ∨ ReceiptSealed system.locker sampleRef ∨
        TerminatedPermanently system 0) := by
  have hfinal : ((run (checked (step sampleEnvironment) lastDeliveryCheck)
      initial (sampleRegistration ++
        [.ingest (some sampleRef) samplePublisher] ++ sampleFailure ++
        sampleFailure ++ sampleFailure ++ sampleFailure)).map fun system =>
          (system.now, system.queue[0]?.map fun message =>
            (message.payload, message.publishedAt))) =
      some (0, some (some sampleRef, 0)) := by decide
  obtain ⟨system, hrun, hvalues⟩ := Option.map_eq_some_iff.mp hfinal
  obtain ⟨hnow, hqueue⟩ := Prod.mk.inj hvalues
  obtain ⟨message, hmessage, hfields⟩ := Option.map_eq_some_iff.mp hqueue
  obtain ⟨hpayload, hpublished⟩ := Prod.mk.inj hfields
  have hreach : Reaches (step sampleEnvironment) SparesLastDelivery initial
      system := by
    refine Reaches.run_checked .refl (fun before action _ hcheck => ?_) hrun
    exact sparesLastDelivery_of_check hcheck
  exact ⟨system, message, hreach, hmessage, accepted_evidence_conserved _
    sha256Hex_sampleEnvironment_injective hreach hmessage hpayload
    (by rw [hnow, hpublished]; decide)⟩

/-- An accepted submission and five failed deliveries of it. -/
def sampleExhausted : List Action :=
  sampleRegistration ++ [.ingest (some sampleRef) samplePublisher] ++
    sampleFailure ++ sampleFailure ++ sampleFailure ++ sampleFailure ++
    sampleFailure

/-- Five failed appends use up the deliveries: the message is neither
deliverable, nor sealed, nor terminated. -/
theorem sample_lost_after_five_failures :
    ∃ system message, Reaches (step sampleEnvironment) anyStep initial
        system ∧ system.queue[0]? = some message ∧
      message.payload = some sampleRef ∧
      system.now < message.publishedAt + ingestStreamConfig.maxAge ∧
      ¬ (Deliverable system 0 message ∨
        ReceiptSealed system.locker sampleRef ∨
        TerminatedPermanently system 0) := by
  have hqueue : ((run (step sampleEnvironment) initial sampleExhausted).map
      fun system => (system.now, system.queue[0]?.map fun message =>
        (message.payload, message.publishedAt, message.deliveries))) =
      some (0, some (some sampleRef, 0, 5)) := by decide
  have hlocker : ((run (step sampleEnvironment) initial sampleExhausted).map
      fun system => (system.worker, system.deadLetters,
        system.locker.entries "alpha")) =
      some (.idle, [], [⟨[0], .admin 0⟩]) := by decide
  obtain ⟨system, hrun, hvalues⟩ := Option.map_eq_some_iff.mp hqueue
  obtain ⟨hnow, hfirst⟩ := Prod.mk.inj hvalues
  obtain ⟨message, hmessage, hfields⟩ := Option.map_eq_some_iff.mp hfirst
  obtain ⟨hpayload, hpublished, hcount⟩ : message.payload = some sampleRef ∧
      message.publishedAt = 0 ∧ message.deliveries = 5 := by
    simpa using hfields
  obtain ⟨hworker, hletters, hentries⟩ : system.worker = .idle ∧
      system.deadLetters = [] ∧
        system.locker.entries "alpha" = [⟨[0], .admin 0⟩] := by
    simpa [hrun] using hlocker
  refine ⟨system, message, reaches_of_run hrun, hmessage, hpayload,
    by rw [hnow, hpublished]; decide, ?_⟩
  rintro (⟨-, hless | hheld⟩ | ⟨entry, hentry, hdata⟩ | ⟨letter, hletter, -⟩)
  · rw [hcount] at hless
    exact absurd hless (by decide)
  · simp [hworker, WorkerState.sequence?] at hheld
  · have hadmin : entry = ⟨[0], .admin 0⟩ := by
      simpa [sampleRef, hentries] using hentry
    rw [hadmin] at hdata
    exact absurd hdata (by decide)
  · simp [hletters] at hletter

end ComplyTime.Pipeline
