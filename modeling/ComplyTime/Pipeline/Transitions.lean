import ComplyTime.Pipeline.System

/-!
# What one step can do

Every invariant of the pipeline is proved from the inversion lemmas of this
file, never by unfolding a step function: for each party, the transitions it
can take, with the facts its code has checked when it takes them.
-/

namespace ComplyTime.Pipeline

open WorkQueue Subjects Ledgers Worker AdminSubscriber GatewayAdmin Trust

variable {env : Environment} {system next : System}

@[simp]
theorem requests_setRequest_self (system : System) (id : ℕ)
    (request : Request) :
    (system.setRequest id request).requests id = some request :=
  Function.update_self ..

variable {id : ℕ} {event : AdminEvent} {request : Request} {action : Action}

theorem eq_of_setRequest {request found : Request}
    (hfound : (system.setRequest id request).requests id = some found) :
    request = found :=
  Option.some.inj ((requests_setRequest_self system id request).symm.trans
    hfound)

/-! ## The worker -/

/-- The transitions of the ingest worker. -/
inductive WorkerTransition (env : Environment) (system : System) :
    WorkerEvent → System → Prop
  | malformed {sequence : ℕ} {message : Message (Option IngestRef)}
      {reaches : Bool} (hworker : system.worker = .received sequence)
      (hmessage : system.queue[sequence]? = some message)
      (hpayload : message.payload = none) :
      WorkerTransition env system (.lookup reaches) { system with
        worker := .idle
        queue := if reaches then answer system.queue sequence .term
          else system.queue }
  | missing {sequence : ℕ} {message : Message (Option IngestRef)}
      {ref : IngestRef} {reaches : Bool}
      (hworker : system.worker = .received sequence)
      (hmessage : system.queue[sequence]? = some message)
      (hpayload : message.payload = some ref)
      (hledger : system.locker.ledgers ref.subjectID = none) :
      WorkerTransition env system (.lookup reaches)
        (system.reject sequence ref (.ledgerNotFound ref.subjectID) reaches)
  | found {sequence : ℕ} {message : Message (Option IngestRef)}
      {ref : IngestRef} {reaches : Bool}
      (hworker : system.worker = .received sequence)
      (hmessage : system.queue[sequence]? = some message)
      (hpayload : message.payload = some ref)
      (hledger : (system.locker.ledgers ref.subjectID).isSome) :
      WorkerTransition env system (.lookup reaches)
        { system with worker := .verifying sequence ref }
  | known {sequence : ℕ} {ref : IngestRef} {ledger : Ledger} {index : ℕ}
      (hworker : system.worker = .verifying sequence ref)
      (hledger : system.locker.ledgers ref.subjectID = some ledger)
      (hfound : ledger.verifyDigest (env.sha256Hex ref.receiptBytes) =
        some index) :
      WorkerTransition env system .verify
        { system with worker := .acking sequence ref }
  | unknown {sequence : ℕ} {ref : IngestRef}
      (hworker : system.worker = .verifying sequence ref)
      (hunknown : ∀ ledger,
        system.locker.ledgers ref.subjectID = some ledger →
          ledger.verifyDigest (env.sha256Hex ref.receiptBytes) = none) :
      WorkerTransition env system .verify
        { system with worker := .sealing sequence ref }
  | addFailed {sequence : ℕ} {ref : IngestRef} {err : GoError}
      (hworker : system.worker = .sealing sequence ref) :
      WorkerTransition env system (.add (some err))
        (system.reject sequence ref (sealError err) true)
  | added {sequence : ℕ} {ref : IngestRef}
      (hworker : system.worker = .sealing sequence ref) :
      WorkerTransition env system (.add none)
        (system.workerAdd sequence ref none)
  | indexed {sequence : ℕ} {ref : IngestRef} {index : ℕ}
      (hworker : system.worker = .indexing sequence ref index) :
      WorkerTransition env system .index
        (system.workerIndex env sequence ref index)
  | published {sequence : ℕ} {ref : IngestRef} {index : ℕ}
      {fault : Option GoError}
      (hworker : system.worker = .publishing sequence ref index) :
      WorkerTransition env system (.publish fault)
        (system.workerPublish env sequence ref index fault)
  | acked {sequence : ℕ} {ref : IngestRef} {reaches : Bool}
      (hworker : system.worker = .acking sequence ref) :
      WorkerTransition env system (.ack reaches)
        (system.workerAck sequence ref reaches)

private theorem workerTransition_lookup {sequence : ℕ} {reaches : Bool}
    (hworker : system.worker = .received sequence)
    (hlookup : system.workerLookup sequence reaches = some next) :
    WorkerTransition env system (.lookup reaches) next := by
  unfold System.workerLookup at hlookup
  cases hmessage : system.queue[sequence]? with
  | none => simp [hmessage] at hlookup
  | some message =>
    simp only [hmessage] at hlookup
    cases hpayload : message.payload with
    | none =>
      simp only [hpayload, Option.some.injEq] at hlookup
      subst hlookup
      exact .malformed hworker hmessage hpayload
    | some ref =>
      simp only [hpayload] at hlookup
      cases hfind : findLedger system.locker ref with
      | ok ledger =>
        simp only [hfind, Option.some.injEq] at hlookup
        subst hlookup
        have hledger := findLedger_eq_ok hfind
        exact .found hworker hmessage hpayload (by simp [hledger])
      | error err =>
        simp only [hfind, Option.some.injEq] at hlookup
        subst hlookup
        obtain ⟨hledger, rfl⟩ := findLedger_eq_error hfind
        exact .missing hworker hmessage hpayload hledger

private theorem workerTransition_verify {sequence : ℕ} {ref : IngestRef}
    (hworker : system.worker = .verifying sequence ref) :
    WorkerTransition env system .verify
      (system.workerVerify env sequence ref) := by
  unfold System.workerVerify Locker.getLedger
  cases hledger : system.locker.ledgers ref.subjectID with
  | none =>
    exact .unknown hworker fun ledger hsome => by simp [hledger] at hsome
  | some ledger =>
    cases hfound : ledger.verifyDigest (env.sha256Hex ref.receiptBytes) with
    | some index =>
      simp only [Option.bind_some, hfound]
      exact .known hworker hledger hfound
    | none =>
      simp only [Option.bind_some, hfound]
      refine .unknown hworker fun other hother => ?_
      obtain rfl : ledger = other := by simpa [hledger] using hother
      exact hfound

theorem workerStep_cases {event : WorkerEvent}
    (hstep : workerStep env system event = some next) :
    WorkerTransition env system event next := by
  unfold workerStep at hstep
  split at hstep
  · exact workerTransition_lookup ‹_› hstep
  · obtain rfl := Option.some.inj hstep
    exact workerTransition_verify ‹_›
  · obtain rfl := Option.some.inj hstep
    rename_i fault hworker
    cases fault with
    | some err => exact .addFailed hworker
    | none => exact .added hworker
  · obtain rfl := Option.some.inj hstep
    exact .indexed ‹_›
  · obtain rfl := Option.some.inj hstep
    exact .published ‹_›
  · obtain rfl := Option.some.inj hstep
    exact .acked ‹_›
  · simp at hstep

/-! ## The admin subscriber -/

theorem natsRequest_subjectID (call : AdminCall) :
    (natsRequest call).subjectID = call.subjectID := by
  cases call <;> rfl

/-- The receipt is what `receipt.Wrap` makes of the request at an instant. -/
def Wrapped (env : Environment) (now : ℕ) (message : AdminRequest)
    (receipt : Bytes) : Prop :=
  env.wrap now (env.marshal message.data) message.publisher message.subjectID
    message.artifactType = .ok receipt

/-- The transitions of the admin subscriber on request `id`. -/
inductive AdminTransition (env : Environment) (system : System) (id : ℕ)
    (request : Request) : AdminEvent → System → Prop
  | received (hstage : request.locker = .inFlight) :
      AdminTransition env system id request .receive
        (system.setRequest id { request with locker := .started })
  | lost (hstage : request.locker = .inFlight) :
      AdminTransition env system id request .lose
        (system.setRequest id { request with locker := .dropped })
  | acquired {opening : Opening} {locker : Locker} {stage : AdminStage}
      (hstage : request.locker = .started)
      (hlocker : locker = system.locker ∨
        (system.locker.ledgers (natsRequest request.call).subjectID = none ∧
          locker = system.locker.openLedger env.sha256Hex
            (natsRequest request.call).subjectID opening))
      (houtcome : (∃ error, error ≠ "" ∧ stage = .replied error ∧
          ((natsRequest request.call).acquireLedger env.sha256Hex
              system.locker opening = (locker, .ok ()) →
            ∀ receipt, ¬ Wrapped env system.now (natsRequest request.call)
              receipt)) ∨
        (∃ receipt, stage = .sealing receipt ∧
          Wrapped env system.now (natsRequest request.call) receipt ∧
          (natsRequest request.call).acquireLedger env.sha256Hex system.locker
            opening = (locker, .ok ()))) :
      AdminTransition env system id request (.acquire opening)
        ({ system with locker := locker }.setRequest id
          { request with locker := stage })
  | addFailed {receipt : Bytes} {err : GoError}
      (hstage : request.locker = .sealing receipt) :
      AdminTransition env system id request (.add (some err))
        (system.adminAdd id request receipt (some err))
  | added {receipt : Bytes} (hstage : request.locker = .sealing receipt) :
      AdminTransition env system id request (.add none)
        (system.adminAdd id request receipt none)
  | indexed {receipt : Bytes} {index : ℕ}
      (hstage : request.locker = .indexing receipt index) :
      AdminTransition env system id request .index
        (system.adminIndex env id request receipt index)
  | announced (hstage : request.locker = .announcing) :
      AdminTransition env system id request .announce
        (system.setRequest id { request with locker := .replied "" })

private theorem adminTransition_acquire {id : ℕ} {request : Request}
    (hstage : request.locker = .started) (opening : Opening) :
    AdminTransition env system id request (.acquire opening)
      (system.adminAcquire env id request opening) := by
  have hlocker := acquireLedger_locker env.sha256Hex system.locker opening
    (natsRequest request.call)
  unfold System.adminAcquire
  cases hacquire : (natsRequest request.call).acquireLedger env.sha256Hex
      system.locker opening with
  | mk locker outcome =>
    simp only [hacquire] at hlocker ⊢
    cases outcome with
    | error err =>
      exact .acquired hstage hlocker
        (.inl ⟨err, ne_empty_of_acquireLedger hacquire, rfl,
          fun hok => by simp [hacquire] at hok⟩)
    | ok acquired =>
      cases acquired
      simp only
      split
      · rename_i err hfailed
        refine .acquired hstage hlocker (.inl ⟨_, by simp, rfl, ?_⟩)
        intro _ receipt hwrapped
        rw [Wrapped, hfailed] at hwrapped
        cases hwrapped
      · rename_i receipt hwrapped
        exact .acquired hstage hlocker
          (.inr ⟨receipt, rfl, hwrapped, hacquire⟩)

theorem adminStep_cases (hstep : adminStep env system id event = some next) :
    ∃ request, system.requests id = some request ∧
      AdminTransition env system id request event next := by
  unfold adminStep at hstep
  cases hrequest : system.requests id with
  | none => simp [hrequest] at hstep
  | some request =>
    refine ⟨request, rfl, ?_⟩
    simp only [hrequest] at hstep
    split at hstep
    · obtain rfl := Option.some.inj hstep
      exact .received ‹_›
    · obtain rfl := Option.some.inj hstep
      exact .lost ‹_›
    · obtain rfl := Option.some.inj hstep
      exact adminTransition_acquire ‹_› _
    · obtain rfl := Option.some.inj hstep
      rename_i fault hstage
      cases fault with
      | some err => exact .addFailed hstage
      | none => exact .added hstage
    · obtain rfl := Option.some.inj hstep
      exact .indexed ‹_›
    · obtain rfl := Option.some.inj hstep
      exact .announced ‹_›
    · simp at hstep

section Acquired

variable {locker later : Locker} {sha256Hex : Bytes → String}
  {subjectID : SubjectID} {opening : Opening} {closed : Prop}

section

variable (hlocker : later = locker ∨
    (closed ∧ later = locker.openLedger sha256Hex subjectID opening))

include hlocker

theorem entries_of_acquired (other : SubjectID) :
    later.entries other = locker.entries other := by
  rcases hlocker with rfl | ⟨-, rfl⟩
  · rfl
  · exact entries_openLedger _ _ _ _ _

theorem grows_of_acquired :
    Grows locker later := by
  rcases hlocker with rfl | ⟨-, rfl⟩
  · exact .refl _
  · exact grows_openLedger _ _ _ _

end

end Acquired

section

variable (htransition : AdminTransition env system id request event next)

include htransition

theorem AdminTransition.sent :
    request.locker ≠ .unsent := by
  intro hunsent
  cases htransition <;> simp_all

theorem AdminTransition.grows :
    Grows system.locker next.locker := by
  cases htransition with
  | acquired hstage hlocker houtcome => exact grows_of_acquired hlocker
  | added hstage => exact grows_add _ _ _
  | indexed hstage => exact grows_record _ _ _ _
  | _ => exact .refl _

/-- The admin subscriber writes the locker and its side of the request, nothing
else. -/
theorem AdminTransition.frame :
    ∃ locker stage, next = { system with locker := locker }.setRequest id
      { request with locker := stage } := by
  cases htransition <;> exact ⟨_, _, rfl⟩

end

/-! ## The gateway -/

/-- The transitions of the gateway on request `id`. -/
inductive GatewayTransition (env : Environment) (system : System) (id : ℕ)
    (request : Request) : GatewayEvent → System → Prop
  | advanced {fault : Option GoError} {store : TrustStore (List TrustEntry)}
      {stage : GatewayStage}
      (hadvance : request.call.advance trustCodec system.store fault
        env.validators request.gateway = some (store, stage)) :
      GatewayTransition env system id request (.advance fault)
        ({ system with store := store }.setRequest id
          ⟨request.call, stage, lockerAfter stage request.locker⟩)
  | unanswered {err : GoError} {store : TrustStore (List TrustEntry)}
      {stage : GatewayStage}
      (hunanswered : request.call.unanswered trustCodec system.store err
        env.validators request.gateway = some (store, stage)) :
      GatewayTransition env system id request (.unanswered err)
        ({ system with store := store }.setRequest id
          ⟨request.call, stage, lockerAfter stage request.locker⟩)
  | heard {hearing : Hearing} (hstage : request.gateway = .requesting)
      (hheard : heardFrom request.locker hearing = true) :
      GatewayTransition env system id request (.hear hearing)
        (system.setRequest id
          { request with gateway := request.call.hear hearing })

theorem replied_of_heardFrom {stage : AdminStage} {error : String}
    (hheard : heardFrom stage (.reply error) = true) :
    stage = .replied error := by
  simpa [heardFrom] using hheard

theorem gatewayStep_cases {event : GatewayEvent}
    (hstep : gatewayStep env system id event = some next) :
    ∃ request, system.requests id = some request ∧
      GatewayTransition env system id request event next := by
  unfold gatewayStep at hstep
  cases hrequest : system.requests id with
  | none => simp [hrequest] at hstep
  | some request =>
    refine ⟨request, rfl, ?_⟩
    simp only [hrequest] at hstep
    cases event with
    | advance fault =>
      simp only at hstep
      split at hstep
      · simp at hstep
      · obtain rfl := Option.some.inj hstep
        exact .advanced ‹_›
    | unanswered err =>
      simp only at hstep
      split at hstep
      · simp at hstep
      · obtain rfl := Option.some.inj hstep
        exact .unanswered ‹_›
    | hear hearing =>
      simp only at hstep
      split at hstep
      · obtain rfl := Option.some.inj hstep
        rename_i hguard
        exact .heard hguard.1 hguard.2
      · simp at hstep

/-- A gateway step is a request to the trust store, answered or not, or the end
of the wait for the locker. -/
theorem GatewayTransition.outcome {event : GatewayEvent}
    (htransition : GatewayTransition env system id request event next) :
    (∃ store stage,
      Outcome trustCodec request.call system.store request.gateway store
        stage ∧
      next = { system with store := store }.setRequest id
        ⟨request.call, stage, lockerAfter stage request.locker⟩) ∨
    ∃ hearing, event = .hear hearing ∧ request.gateway = .requesting ∧
      heardFrom request.locker hearing = true ∧
      next = system.setRequest id
        { request with gateway := request.call.hear hearing } := by
  cases htransition with
  | advanced hadvance => exact .inl ⟨_, _, outcome_of_advance hadvance, rfl⟩
  | unanswered hunanswered =>
    exact .inl ⟨_, _, outcome_of_unanswered hunanswered, rfl⟩
  | heard hstage hheard => exact .inr ⟨_, rfl, hstage, hheard, rfl⟩

/-- The gateway writes the trust store and its own requests, nothing else. -/
theorem GatewayTransition.frame {event : GatewayEvent}
    (htransition : GatewayTransition env system id request event next) :
    ∃ store requests, next =
      { system with store := store, requests := requests } := by
  cases htransition with
  | advanced hadvance => exact ⟨_, _, rfl⟩
  | unanswered hunanswered => exact ⟨_, _, rfl⟩
  | heard hstage hheard => exact ⟨_, _, rfl⟩

/-! ## Clients and the stream -/

/-- A new admin request changes nothing but the table of requests. -/
theorem callStep_eq_some {call : AdminCall}
    (hstep : callStep env system id call = some next) :
    system.requests id = none ∧
      next = system.setRequest id ⟨call, call.begin env.validators,
        lockerAfter (call.begin env.validators) .unsent⟩ := by
  unfold callStep at hstep
  cases hrequest : system.requests id with
  | some request => simp [hrequest] at hstep
  | none => exact ⟨rfl, by simpa [hrequest] using hstep.symm⟩

theorem ingestStep_eq_some {payload : Option IngestRef}
    {publisher : PublisherIdentity}
    (hstep : ingestStep env system payload publisher = some next) :
    next = { system with
      queue := publish system.queue payload system.now } := by
  unfold ingestStep at hstep
  simp only at hstep
  split at hstep <;> split at hstep
  all_goals first
    | exact (Option.some.inj hstep).symm
    | simp at hstep

theorem deliverStep_eq_some {sequence : ℕ}
    (hstep : deliverStep system sequence = some next) :
    ∃ message, system.worker = .idle ∧
      system.queue[sequence]? = some message ∧
      message.disposition = .stored ∧
      message.deliveries < Streams.ingestConsumerConfig.maxDeliver ∧
      next = { system with
        queue := system.queue.set sequence
          { message with deliveries := message.deliveries + 1 }
        worker := .received sequence } := by
  unfold deliverStep at hstep
  cases hworker : system.worker with
  | idle =>
    simp only [hworker, Option.map_eq_some_iff] at hstep
    obtain ⟨queue, hdeliver, rfl⟩ := hstep
    obtain ⟨message, hmessage, hstored, hcount, rfl⟩ := deliver_eq_some hdeliver
    exact ⟨message, rfl, hmessage, hstored, hcount, rfl⟩
  | _ => simp [hworker] at hstep

/-! ## The whole system -/

/-- The transitions of the system. -/
inductive Transition (env : Environment) (system : System) :
    Action → System → Prop
  | ingested {payload : Option IngestRef} {publisher : PublisherIdentity} :
      Transition env system (.ingest payload publisher)
        { system with queue := publish system.queue payload system.now }
  | delivered {sequence : ℕ} {message : Message (Option IngestRef)}
      (hworker : system.worker = .idle)
      (hmessage : system.queue[sequence]? = some message)
      (hstored : message.disposition = .stored)
      (hcount : message.deliveries <
        Streams.ingestConsumerConfig.maxDeliver) :
      Transition env system (.deliver sequence) { system with
        queue := system.queue.set sequence
          { message with deliveries := message.deliveries + 1 }
        worker := .received sequence }
  | worker {event : WorkerEvent} {next : System}
      (htransition : WorkerTransition env system event next) :
      Transition env system (.worker event) next
  | called {id : ℕ} {call : AdminCall} (hfresh : system.requests id = none) :
      Transition env system (.call id call) (system.setRequest id
        ⟨call, call.begin env.validators,
          lockerAfter (call.begin env.validators) .unsent⟩)
  | gateway {id : ℕ} {event : GatewayEvent} {request : Request}
      {next : System} (hrequest : system.requests id = some request)
      (htransition : GatewayTransition env system id request event next) :
      Transition env system (.gateway id event) next
  | admin {id : ℕ} {event : AdminEvent} {request : Request} {next : System}
      (hrequest : system.requests id = some request)
      (htransition : AdminTransition env system id request event next) :
      Transition env system (.admin id event) next
  | restarted {opening : SubjectID → Opening} :
      Transition env system (.restart opening) (restartStep env system opening)
  | ticked {elapsed : ℕ} :
      Transition env system (.tick elapsed)
        { system with now := system.now + elapsed }
  | expired {sequence : ℕ} {message : Message (Option IngestRef)}
      (hmessage : system.queue[sequence]? = some message)
      (hage : message.publishedAt + Streams.ingestStreamConfig.maxAge ≤
        system.now) :
      Transition env system (.expire sequence)
        { system with queue := settle system.queue sequence .expired }

theorem step_cases (hstep : step env system action = some next) :
    Transition env system action next := by
  cases action with
  | ingest payload publisher =>
    obtain rfl := ingestStep_eq_some hstep
    exact .ingested
  | deliver sequence =>
    obtain ⟨message, hworker, hmessage, hstored, hcount, rfl⟩ :=
      deliverStep_eq_some hstep
    exact .delivered hworker hmessage hstored hcount
  | worker event => exact .worker (workerStep_cases hstep)
  | call id call =>
    obtain ⟨hfresh, rfl⟩ := callStep_eq_some hstep
    exact .called hfresh
  | gateway id event =>
    obtain ⟨request, hrequest, htransition⟩ := gatewayStep_cases hstep
    exact .gateway hrequest htransition
  | admin id event =>
    obtain ⟨request, hrequest, htransition⟩ := adminStep_cases hstep
    exact .admin hrequest htransition
  | restart opening =>
    obtain rfl := Option.some.inj hstep
    exact .restarted
  | tick elapsed =>
    obtain rfl := Option.some.inj hstep
    exact .ticked
  | expire sequence =>
    obtain ⟨queue, hexpire, rfl⟩ := Option.map_eq_some_iff.mp hstep
    obtain ⟨message, hmessage, hage, rfl⟩ := expire_eq_some hexpire
    exact .expired hmessage hage

/-! ## The table of requests -/

/-- What a step can do to the request with a number: nothing, the call that
makes it, a step of its handler or of the locker on it, or a restart. -/
inductive RequestStep (env : Environment) (system next : System) (id : ℕ) :
    Action → Prop
  | untouched {action : Action}
      (hsame : next.requests id = system.requests id) :
      RequestStep env system next id action
  | called {call : AdminCall} (hfresh : system.requests id = none)
      (hnext : next.requests id = some ⟨call, call.begin env.validators,
        lockerAfter (call.begin env.validators) .unsent⟩) :
      RequestStep env system next id (.call id call)
  | gateway {event : GatewayEvent} {request : Request}
      (hrequest : system.requests id = some request)
      (htransition : GatewayTransition env system id request event next) :
      RequestStep env system next id (.gateway id event)
  | admin {event : AdminEvent} {request : Request}
      (hrequest : system.requests id = some request)
      (htransition : AdminTransition env system id request event next) :
      RequestStep env system next id (.admin id event)
  | restarted {opening : SubjectID → Opening}
      (hnext : next.requests id = (system.requests id).map fun request =>
        { request with locker := request.locker.crash }) :
      RequestStep env system next id (.restart opening)

theorem requests_setRequest_of_ne (system : System) {id other : ℕ}
    (request : Request) (hne : id ≠ other) :
    (system.setRequest other request).requests id = system.requests id :=
  Function.update_of_ne hne _ _

theorem requestStep_of_step (hstep : step env system action = some next)
    (id : ℕ) :
    RequestStep env system next id action := by
  cases step_cases hstep with
  | worker htransition =>
    refine .untouched ?_
    cases htransition <;> rfl
  | @called other call hfresh =>
    by_cases heq : id = other
    · subst heq
      exact .called hfresh (requests_setRequest_self _ _ _)
    · exact .untouched (requests_setRequest_of_ne _ _ heq)
  | @gateway other event request next hrequest htransition =>
    by_cases heq : id = other
    · subst heq
      exact .gateway hrequest htransition
    · refine .untouched ?_
      cases htransition <;> exact requests_setRequest_of_ne _ _ heq
  | @admin other event request next hrequest htransition =>
    by_cases heq : id = other
    · subst heq
      exact .admin hrequest htransition
    · obtain ⟨locker, stage, rfl⟩ := htransition.frame
      exact .untouched (requests_setRequest_of_ne _ _ heq)
  | restarted => exact .restarted rfl
  | _ => exact .untouched rfl

/-- The same call, and no response is taken back. -/
structure Descends (before after : Request) : Prop where
  call : after.call = before.call
  responded : ∀ response, before.gateway = .responded response →
    after.gateway = .responded response

theorem Descends.refl (request : Request) : Descends request request :=
  ⟨rfl, fun _ hresponded => hresponded⟩

theorem descends_of_gateway {event : GatewayEvent}
    (htransition : GatewayTransition env system id request event next) :
    ∃ after, next.requests id = some after ∧ Descends request after := by
  rcases htransition.outcome with
    ⟨store, stage, houtcome, rfl⟩ | ⟨hearing, -, hstage, -, rfl⟩
  · refine ⟨_, requests_setRequest_self _ _ _, rfl,
      fun response hresponded => ?_⟩
    exact absurd hresponded ((not_waiting_of_outcome houtcome).2 response)
  · refine ⟨_, requests_setRequest_self _ _ _, rfl,
      fun response hresponded => ?_⟩
    rw [hstage] at hresponded
    cases hresponded

theorem exists_request_of_step {before : Request}
    (hstep : step env system action = some next)
    (hbefore : system.requests id = some before) :
    ∃ after, next.requests id = some after ∧ Descends before after := by
  cases requestStep_of_step hstep id with
  | untouched hsame => exact ⟨before, hsame.trans hbefore, .refl before⟩
  | called hfresh _ =>
    rw [hfresh] at hbefore
    cases hbefore
  | gateway hrequest htransition =>
    obtain rfl := Option.mem_unique hbefore hrequest
    exact descends_of_gateway htransition
  | admin hrequest htransition =>
    obtain rfl := Option.mem_unique hbefore hrequest
    obtain ⟨locker, stage, rfl⟩ := htransition.frame
    exact ⟨_, requests_setRequest_self _ _ _, rfl,
      fun _ hresponded => hresponded⟩
  | restarted hnext =>
    rw [hbefore, Option.map_some] at hnext
    exact ⟨_, hnext, rfl, fun _ hresponded => hresponded⟩

theorem request_of_step {after : Request}
    (hstep : step env system action = some next)
    (hafter : next.requests id = some after) :
    (system.requests id = none ∧ action = .call id after.call) ∨
      ∃ before, system.requests id = some before ∧ Descends before after := by
  cases hbefore : system.requests id with
  | some before =>
    obtain ⟨found, hfound, hdescends⟩ := exists_request_of_step hstep hbefore
    obtain rfl := Option.mem_unique hafter hfound
    exact .inr ⟨before, rfl, hdescends⟩
  | none =>
    left
    cases requestStep_of_step hstep id with
    | untouched hsame =>
      rw [hafter, hbefore] at hsame
      cases hsame
    | called _ hnext =>
      obtain rfl := Option.mem_unique hafter hnext
      exact ⟨rfl, rfl⟩
    | gateway hrequest _ =>
      rw [hbefore] at hrequest
      cases hrequest
    | admin hrequest _ =>
      rw [hbefore] at hrequest
      cases hrequest
    | restarted hnext =>
      rw [hafter, hbefore] at hnext
      cases hnext

def RequestsBelow (bound : ℕ) (system : System) : Prop :=
  ∀ id ≥ bound, system.requests id = none

/-- The requests of a run carry the numbers its calls have used. -/
theorem requestsBelow_of_reaches {guard : System → Action → Prop}
    {start : System} {bound : ℕ}
    (hreach : TransitionSystem.Reaches (step env) guard start system)
    (hcalls : ∀ before id call, guard before (.call id call) → id < bound)
    (hstart : RequestsBelow bound start) : RequestsBelow bound system := by
  refine hreach.invariant hstart fun before action after hinv hguard hnext => ?_
  intro id hid
  cases hafter : after.requests id with
  | none => rfl
  | some request =>
    rcases request_of_step hnext hafter with ⟨-, rfl⟩ | ⟨earlier, hsome, -⟩
    · exact absurd (hcalls _ _ _ hguard) (by omega)
    · rw [hinv id hid] at hsome
      cases hsome

/-- The check holds of every request with a number below the bound. -/
def everyRequest (bound : ℕ) (check : Request → Bool) (system : System) :
    Bool :=
  (List.range bound).all fun id => (system.requests id).all check

theorem of_everyRequest {bound : ℕ} {check : Request → Bool}
    (hbelow : RequestsBelow bound system)
    (hevery : everyRequest bound check system = true)
    (hrequest : system.requests id = some request) :
    check request = true := by
  have hlt : id < bound := by
    rw [← Nat.not_le]
    intro hge
    rw [hbelow id hge] at hrequest
    cases hrequest
  have hid := List.all_eq_true.mp hevery id (List.mem_range.mpr hlt)
  simpa [hrequest] using hid

/-! ## The logs -/

/-- What a step can do to the log of a subject. -/
inductive LogStep (system : System) (action : Action)
    (subjectID : SubjectID) : List Entry → Prop
  | kept : LogStep system action subjectID (system.locker.entries subjectID)
  | workerSealed {sequence : ℕ} {ref : IngestRef}
      (haction : action = .worker (.add none))
      (hworker : system.worker = .sealing sequence ref)
      (hsubject : ref.subjectID = subjectID) :
      LogStep system action subjectID (system.locker.entries subjectID ++
        [⟨ref.receiptBytes, .worker⟩])
  | adminSealed {id : ℕ} {request : Request} {receipt : Bytes}
      (haction : action = .admin id (.add none))
      (hrequest : system.requests id = some request)
      (hsubject : request.call.subjectID = subjectID)
      (hstage : request.locker = .sealing receipt) :
      LogStep system action subjectID (system.locker.entries subjectID ++
        [⟨receipt, .admin id⟩])

theorem logStep_of_worker {event : WorkerEvent}
    (htransition : WorkerTransition env system event next)
    (subjectID : SubjectID) :
    LogStep system (.worker event) subjectID
      (next.locker.entries subjectID) := by
  cases htransition with
  | @added sequence ref hworker =>
    change LogStep _ _ _ ((system.locker.add ref.subjectID
      ⟨ref.receiptBytes, .worker⟩).entries subjectID)
    by_cases hsubject : ref.subjectID = subjectID
    · subst hsubject
      rw [entries_add_self]
      exact .workerSealed rfl hworker rfl
    · rw [entries_add_of_ne _ _ (Ne.symm hsubject)]
      exact .kept
  | _ => exact .kept

theorem logStep_of_admin (hrequest : system.requests id = some request)
    (htransition : AdminTransition env system id request event next)
    (subjectID : SubjectID) :
    LogStep system (.admin id event) subjectID
      (next.locker.entries subjectID) := by
  cases htransition with
  | @acquired opening locker stage hstage hlocker houtcome =>
    change LogStep _ _ _ (locker.entries subjectID)
    rw [entries_of_acquired hlocker]
    exact .kept
  | @added receipt hstage =>
    change LogStep _ _ _ ((system.locker.add
      (natsRequest request.call).subjectID
      ⟨receipt, .admin id⟩).entries subjectID)
    rw [natsRequest_subjectID]
    by_cases hsubject : request.call.subjectID = subjectID
    · subst hsubject
      rw [entries_add_self]
      exact .adminSealed rfl hrequest rfl hstage
    · rw [entries_add_of_ne _ _ (Ne.symm hsubject)]
      exact .kept
  | _ => exact .kept

theorem logStep_of_step (hstep : step env system action = some next)
    (subjectID : SubjectID) :
    LogStep system action subjectID (next.locker.entries subjectID) := by
  cases step_cases hstep with
  | worker htransition => exact logStep_of_worker htransition subjectID
  | gateway _ htransition =>
    obtain ⟨store, requests, rfl⟩ := htransition.frame
    exact .kept
  | admin hrequest htransition =>
    exact logStep_of_admin hrequest htransition subjectID
  | _ => exact .kept

/-! ## Answers to the stream -/

section

variable (queue : Queue (Option IngestRef)) (sequence : ℕ) (verdict : Verdict)

theorem extends_answer (reaches : Bool) :
    Extends queue (if reaches then answer queue sequence verdict
      else queue) := by
  cases reaches with
  | false => exact .refl queue
  | true =>
    cases verdict with
    | ack => exact extends_settle _ _ _
    | nak => exact .refl queue
    | term => exact extends_settle _ _ _

@[simp]
theorem payloads_answer :
    payloads (answer queue sequence verdict) = payloads queue := by
  cases verdict with
  | ack => exact payloads_settle _ _ _
  | nak => rfl
  | term => exact payloads_settle _ _ _

theorem payloads_of_reaches (reaches : Bool) :
    payloads (if reaches then answer queue sequence verdict else queue) =
      payloads queue := by
  cases reaches with
  | false => rfl
  | true => exact payloads_answer queue sequence verdict

end

theorem extends_reject (system : System) (sequence : ℕ) (ref : IngestRef)
    (err : GoError) (reaches : Bool) :
    Extends system.queue
      (system.reject sequence ref err reaches).queue :=
  extends_answer system.queue sequence (verdictOf err) reaches

end ComplyTime.Pipeline
