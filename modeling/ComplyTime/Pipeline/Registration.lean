import ComplyTime.Pipeline.Transitions

/-!
# Registering a subject again

`RegisterSubject` writes four stores in two services and rolls nothing back.
This file follows one registration that meets no failure from an arbitrary
state: it succeeds exactly when the locker has no open ledger for the subject,
because `CreateLedger` refuses a second one.  An earlier attempt that got past
`CreateLedger` and failed later therefore cannot be repeated.
-/

namespace ComplyTime.Pipeline

open TransitionSystem Subjects Ledgers AdminSubscriber GatewayAdmin Trust
open KeyValue

/-- The next action of a request when nothing fails. -/
def nextAction (id fetched : ℕ) (request : Request) : Option Action :=
  match request.gateway, request.locker with
  | .responded _, _ => none
  | .requesting, .inFlight => some (.admin id .receive)
  | .requesting, .started => some (.admin id (.acquire (.opened fetched)))
  | .requesting, .sealing _ => some (.admin id (.add none))
  | .requesting, .indexing _ _ => some (.admin id .index)
  | .requesting, .announcing => some (.admin id .announce)
  | .requesting, .replied error => some (.gateway id (.hear (.reply error)))
  | .requesting, _ => none
  | _, _ => some (.gateway id (.advance none))

/-- Serve a request without failures until it is answered. -/
def serve (env : Environment) (id fetched : ℕ) : ℕ → System → Option System
  | 0, system => some system
  | fuel + 1, system =>
    match (system.requests id).bind (nextAction id fetched) with
    | none => some system
    | some action => (step env system action).bind (serve env id fetched fuel)

/-- A registration takes at most this many steps after its call. -/
def registrationSteps : ℕ := 10

/-- One call of `RegisterSubject` that meets no failure. -/
def registerWithoutFailure (env : Environment) (system : System)
    (id fetched : ℕ) (body : RegisterBody) (operator : PublisherIdentity) :
    Option System :=
  (step env system (.call id (.registerSubject (some body) operator))).bind
    (serve env id fetched registrationSteps)

/-- The request passes every check of the handler, and the key it asks to store
can be stored. -/
structure ValidRegistration (env : Environment) (body : RegisterBody) :
    Prop where
  accepted : validateRegistration env.validators (some body) = .ok body
  storable : body.scannerJWK.isSome →
    validKey (scannerIssuerID body.trustedPublishers) = true

def responseOf (system : System) (id : ℕ) : Option GatewayStage :=
  (system.requests id).map Request.gateway

/-- Answered with 201, registered, and trusted as requested. -/
structure RegistrationSucceeded (system : System) (id : ℕ)
    (body : RegisterBody) : Prop where
  response : responseOf system id =
    some (.responded ⟨201, subjectBody body.subjectID⟩)
  registered : Registered system.store body.subjectID
  trusted : storedTrustList trustCodec system.store body.subjectID =
    some body.trustedPublishers

variable {receipt : Bytes}

/-! ## One step at a time -/

section Serve

variable (env : Environment) (system : System) (id fetched fuel : ℕ)

/-- The state in which request `id` stands at `request`. -/
def System.atRequest (locker : Locker) (store : TrustStore (List TrustEntry))
    (request : Request) : System :=
  { system with
    locker := locker
    store := store
    requests := Function.update system.requests id (some request) }

variable (locker : Locker) (store : TrustStore (List TrustEntry))

@[simp]
theorem requests_atRequest (request : Request) :
    (system.atRequest id locker store request).requests id = some request := by
  simp [System.atRequest]

@[simp]
theorem setRequest_atRequest (before after : Request) :
    (system.atRequest id locker store before).setRequest id after =
      system.atRequest id locker store after := by
  simp [System.atRequest, System.setRequest]

variable {request : Request}

theorem serve_succ {action : Action} {next : System}
    (haction : nextAction id fetched request = some action)
    (hstep : step env (system.atRequest id locker store request) action =
      some next) :
    serve env id fetched (fuel + 1)
        (system.atRequest id locker store request) =
      serve env id fetched fuel next := by
  simp [serve, haction, hstep]

theorem serve_responded (request : Request) {response : Response}
    (hresponse : request.gateway = .responded response) :
    serve env id fetched fuel (system.atRequest id locker store request) =
      some (system.atRequest id locker store request) := by
  cases fuel with
  | zero => rfl
  | succ fuel => simp [serve, nextAction, hresponse]

variable (body : RegisterBody) (operator : PublisherIdentity)

/-- Request `id` is the registration, at the given stages. -/
def System.atRegistration (gateway : GatewayStage) (stage : AdminStage) :
    System :=
  system.atRequest id locker store
    ⟨.registerSubject (some body) operator, gateway, stage⟩

theorem serve_receive :
    serve env id fetched (fuel + 1) (system.atRegistration id locker store body
        operator .requesting .inFlight) =
      serve env id fetched fuel (system.atRegistration id locker store body
        operator .requesting .started) := by
  refine serve_succ env system id fetched fuel locker store rfl ?_
  simp [step, adminStep, System.atRegistration]

/-- The registration request as the locker receives it. -/
def registerRequest : RegisterRequest :=
  ⟨body.subjectID, operator.issuer, operator.sub⟩

/-- `receipt.Wrap` of the registration data succeeds. -/
def Wraps (receipt : Bytes) : Prop :=
  env.wrap system.now
    (env.marshal (registrationData (registerRequest body operator))) operator
    body.subjectID "subject-registration" = .ok receipt

/-- The locker refuses the request with the error of `acquireLedger`. -/
theorem step_acquire_error {opening : Opening} {next : Locker} {err : String}
    (hstage : request.locker = .started)
    (hacquire : (natsRequest request.call).acquireLedger env.sha256Hex locker
      opening = (next, .error err)) :
    step env (system.atRequest id locker store request)
        (.admin id (.acquire opening)) =
      some (system.atRequest id next store
        { request with locker := .replied err }) := by
  simp [step, adminStep, hstage, System.adminAcquire, hacquire,
    System.atRequest, System.setRequest]

/-- The locker has the ledger and the wrapped receipt. -/
theorem step_acquire_ok {opening : Opening} {next : Locker}
    (hstage : request.locker = .started)
    (hacquire : (natsRequest request.call).acquireLedger env.sha256Hex locker
      opening = (next, .ok ())) (hwrap : env.wrap system.now
      (env.marshal (natsRequest request.call).data)
      (natsRequest request.call).publisher
      (natsRequest request.call).subjectID
      (natsRequest request.call).artifactType = .ok receipt) :
    step env (system.atRequest id locker store request)
        (.admin id (.acquire opening)) =
      some (system.atRequest id next store
        { request with locker := .sealing receipt }) := by
  simp [step, adminStep, hstage, System.adminAcquire, hacquire, hwrap,
    System.atRequest, System.setRequest]

/-- `CreateLedger` opens a ledger that the locker does not have. -/
theorem serve_acquire (hvalid : ValidSubjectID body.subjectID)
    (hclosed : locker.ledgers body.subjectID = none)
    (hwrap : Wraps env system body operator receipt) :
    serve env id fetched (fuel + 1) (system.atRegistration id locker store body
        operator .requesting .started) =
      serve env id fetched fuel (system.atRegistration id
        (locker.openLedger env.sha256Hex body.subjectID (.opened fetched))
        store body operator .requesting (.sealing receipt)) := by
  have hchecked : validateSubjectID body.subjectID = .ok () := hvalid
  have hacquire : (AdminRequest.register
      (registerRequest body operator)).acquireLedger env.sha256Hex locker
        (.opened fetched) =
          (locker.openLedger env.sha256Hex body.subjectID (.opened fetched),
            .ok ()) := by
    simp [AdminRequest.acquireLedger, registerRequest, Locker.createLedger,
      hchecked, hclosed]
  exact serve_succ env system id fetched fuel locker store rfl
    (step_acquire_ok env system id locker store rfl hacquire hwrap)

theorem creatingLedger_ledgerExists (subjectID : SubjectID) :
    "creating ledger: " ++
        (GoError.wrap "" .ledgerExists (": " ++ subjectID)).error =
      "creating ledger: ledger already exists: " ++ subjectID := by
  have herror : (GoError.wrap "" .ledgerExists (": " ++ subjectID)).error =
      "ledger already exists" ++ (": " ++ subjectID) := by
    show "" ++ "ledger already exists" ++ (": " ++ subjectID) = _
    rw [String.empty_append]
  have hliteral : "creating ledger: ledger already exists: " =
      "creating ledger: " ++ ("ledger already exists" ++ ": ") := by decide
  rw [herror, hliteral, String.append_assoc, String.append_assoc]

/-- `CreateLedger` refuses a subject whose ledger is open. -/
theorem serve_acquire_refused (hvalid : ValidSubjectID body.subjectID)
    (hopen : (locker.ledgers body.subjectID).isSome) :
    serve env id fetched (fuel + 1) (system.atRegistration id locker store body
        operator .requesting .started) =
      serve env id fetched fuel (system.atRegistration id locker store body
        operator .requesting (.replied
          ("creating ledger: ledger already exists: " ++ body.subjectID))) := by
  have hchecked : validateSubjectID body.subjectID = .ok () := hvalid
  have hacquire : (AdminRequest.register
      (registerRequest body operator)).acquireLedger env.sha256Hex locker
        (.opened fetched) = (locker, .error
          ("creating ledger: ledger already exists: " ++ body.subjectID)) := by
    rw [← creatingLedger_ledgerExists]
    simp [AdminRequest.acquireLedger, registerRequest, Locker.createLedger,
      hchecked, hopen]
  exact serve_succ env system id fetched fuel locker store rfl
    (step_acquire_error env system id locker store rfl hacquire)

theorem serve_add (receipt : Bytes) :
    serve env id fetched (fuel + 1) (system.atRegistration id locker store body
        operator .requesting (.sealing receipt)) =
      serve env id fetched fuel (system.atRegistration id
        (locker.add body.subjectID ⟨receipt, .admin id⟩) store body operator
        .requesting (.indexing receipt
          (locker.entries body.subjectID).length)) := by
  refine serve_succ env system id fetched fuel locker store rfl ?_
  simp [step, adminStep, System.adminAdd, System.atRegistration,
    System.atRequest, System.setRequest, natsRequest, AdminCall.subjectID,
    AdminRequest.subjectID]

theorem serve_index (receipt : Bytes) (index : ℕ) :
    serve env id fetched (fuel + 1) (system.atRegistration id locker store body
        operator .requesting (.indexing receipt index)) =
      serve env id fetched fuel (system.atRegistration id
        (locker.record body.subjectID (env.sha256Hex receipt) index) store body
        operator .requesting .announcing) := by
  refine serve_succ env system id fetched fuel locker store rfl ?_
  simp [step, adminStep, System.adminIndex, System.atRegistration,
    System.atRequest, System.setRequest, natsRequest, AdminCall.subjectID,
    AdminRequest.subjectID, AdminRequest.afterSeal]

theorem serve_announce :
    serve env id fetched (fuel + 1) (system.atRegistration id locker store body
        operator .requesting .announcing) =
      serve env id fetched fuel (system.atRegistration id locker store body
        operator .requesting (.replied "")) := by
  refine serve_succ env system id fetched fuel locker store rfl ?_
  simp [step, adminStep, System.atRegistration]

theorem serve_hear (error : String) :
    serve env id fetched (fuel + 1) (system.atRegistration id locker store body
        operator .requesting (.replied error)) =
      serve env id fetched fuel (system.atRegistration id locker store body
        operator ((AdminCall.registerSubject (some body) operator).hear
          (.reply error)) (.replied error)) := by
  refine serve_succ env system id fetched fuel locker store rfl ?_
  simp [step, gatewayStep, heardFrom, System.atRegistration]

/-- One request to the trust store. -/
theorem serve_advance {gateway after : GatewayStage}
    {next : TrustStore (List TrustEntry)} (stage : AdminStage)
    (haction : nextAction id fetched
      ⟨.registerSubject (some body) operator, gateway, stage⟩ =
        some (.gateway id (.advance none)))
    (hadvance : (AdminCall.registerSubject (some body) operator).advance
      trustCodec store none env.validators gateway = some (next, after))
    (hafter : after ≠ .requesting) :
    serve env id fetched (fuel + 1) (system.atRegistration id locker store body
        operator gateway stage) =
      serve env id fetched fuel (system.atRegistration id locker next body
        operator after stage) := by
  refine serve_succ env system id fetched fuel locker store haction ?_
  simp [step, gatewayStep, hadvance, lockerAfter, hafter,
    System.atRegistration, System.atRequest, System.setRequest]

end Serve

/-! ## The whole registration -/

section Registration

variable {env : Environment} {system : System} (id fetched : ℕ)
variable {body : RegisterBody} (operator : PublisherIdentity)

/-- The call itself: the request passes validation and is sent. -/
theorem registerWithoutFailure_eq (hfresh : system.requests id = none)
    (hvalid : ValidRegistration env body) :
    registerWithoutFailure env system id fetched body operator =
      serve env id fetched registrationSteps
        (system.atRegistration id system.locker system.store body operator
          .requesting .inFlight) := by
  have hbegin : (AdminCall.registerSubject (some body) operator).begin
      env.validators = .requesting := by
    simp [AdminCall.begin, hvalid.accepted]
  simp [registerWithoutFailure, step, callStep, hfresh, hbegin, lockerAfter,
    System.atRegistration, System.atRequest, System.setRequest]

/-- The store after `SetPublisherTrust`. -/
def trustedStore (store : TrustStore (List TrustEntry))
    (body : RegisterBody) : TrustStore (List TrustEntry) :=
  { store with
    publisherKV := store.publisherKV.write (subjectKey body.subjectID)
      body.trustedPublishers }

/-- The store after `RegisterSubject`. -/
def registeredStore (store : TrustStore (List TrustEntry))
    (body : RegisterBody) : TrustStore (List TrustEntry) :=
  { trustedStore store body with
    subjectKV := store.subjectKV.write body.subjectID () }

/-- The store after the scanner key, if there is one, was stored. -/
def completedStore (store : TrustStore (List TrustEntry))
    (body : RegisterBody) : TrustStore (List TrustEntry) :=
  match body.scannerJWK with
  | none => registeredStore store body
  | some scanner => { registeredStore store body with
      jwkKV := store.jwkKV.write (scannerIssuerID body.trustedPublishers)
        ⟨scanner.jwk, scanner.notAfter⟩ }

omit id fetched operator in
theorem registered_completedStore (store : TrustStore (List TrustEntry))
    (body : RegisterBody) :
    Registered (completedStore store body) body.subjectID := by
  unfold Registered completedStore
  split <;> simp [registeredStore]

omit id fetched operator in
theorem storedTrustList_completedStore (store : TrustStore (List TrustEntry))
    (body : RegisterBody) :
    storedTrustList trustCodec (completedStore store body) body.subjectID =
      some body.trustedPublishers := by
  unfold storedTrustList completedStore
  split <;> simp [registeredStore, trustedStore, trustCodec, Except.toOption]

/-- The revision `SetPublisherTrust` writes over. -/
def trustRevision (store : TrustStore (List TrustEntry))
    (subjectID : SubjectID) : Option ℕ :=
  (store.publisherKV.entries (subjectKey subjectID)).map
    KeyValue.Revisioned.revision

theorem advance_readingTrust (store : TrustStore (List TrustEntry))
    (hsubject : ValidSubjectID body.subjectID) :
    (AdminCall.registerSubject (some body) operator).advance trustCodec store
        none env.validators .readingTrust =
      some (store, .writingTrust (trustRevision store body.subjectID)) := by
  simp [AdminCall.advance, AdminCall.readTrust, AdminCall.subjectID,
    readTrustRevision_ok store hsubject, trustRevision, unlessFailed]

theorem advance_writingTrust (store : TrustStore (List TrustEntry))
    (hsubject : ValidSubjectID body.subjectID) :
    (AdminCall.registerSubject (some body) operator).advance trustCodec store
        none env.validators
        (.writingTrust (trustRevision store body.subjectID)) =
      some (trustedStore store body, .registering) := by
  have hwrite := writeTrust_ok trustCodec store body.trustedPublishers hsubject
  simp only [AdminCall.advance, AdminCall.writeTrust, AdminCall.subjectID,
    AdminCall.trustedPublishers, trustRevision, hwrite, AdminCall.afterTrust,
    unlessFailed]
  rfl

theorem advance_registering (store : TrustStore (List TrustEntry))
    (hsubject : ValidSubjectID body.subjectID) :
    (AdminCall.registerSubject (some body) operator).advance trustCodec
        (trustedStore store body) none env.validators .registering =
      some (registeredStore store body, afterRegistration body) := by
  have hwrite := registerSubject_ok (trustedStore store body) hsubject
  simp only [AdminCall.advance, RegisterBody.register, hwrite, unlessFailed]
  rfl

theorem advance_storingJWK (store : TrustStore (List TrustEntry))
    {scanner : ScannerJWK} (hscanner : body.scannerJWK = some scanner)
    (hkey : KeyValue.validKey (scannerIssuerID body.trustedPublishers) = true) :
    (AdminCall.registerSubject (some body) operator).advance trustCodec
        (registeredStore store body) none env.validators .storingJWK =
      some (completedStore store body,
        .responded ⟨201, subjectBody body.subjectID⟩) := by
  have hwrite := storeJWK_ok (registeredStore store body) scanner.jwk
    scanner.notAfter hkey
  simp only [AdminCall.advance, hscanner, Option.map_some,
    RegisterBody.storeKey, hwrite, completedStore, unlessFailed]
  rfl

/-- The gateway's part after a good reply. -/
theorem serve_store (locker : Locker) (store : TrustStore (List TrustEntry))
    (hvalid : ValidRegistration env body) :
    serve env id fetched 4 (system.atRegistration id locker store body operator
        .readingTrust (.replied "")) =
      some (system.atRegistration id locker (completedStore store body) body
        operator (.responded ⟨201, subjectBody body.subjectID⟩)
        (.replied "")) := by
  obtain ⟨-, hsubject⟩ := validSubjectID_of_validateRegistration hvalid.accepted
  have hregistered : serve env id fetched 4 (system.atRegistration id locker
      store body operator .readingTrust (.replied "")) =
        serve env id fetched 1 (system.atRegistration id locker
          (registeredStore store body) body operator (afterRegistration body)
          (.replied "")) := by
    rw [serve_advance env system id fetched 3 locker store body operator _ rfl
        (advance_readingTrust operator store hsubject) (by simp),
      serve_advance env system id fetched 2 locker store body operator _ rfl
        (advance_writingTrust operator store hsubject) (by simp),
      serve_advance env system id fetched 1 locker _ body operator _ rfl
        (advance_registering operator store hsubject)
        (by unfold afterRegistration; split <;> simp)]
  rw [hregistered]
  cases hscanner : body.scannerJWK with
  | none =>
    simp only [afterRegistration, completedStore, hscanner]
    exact serve_responded env system id fetched 1 locker _ _ rfl
  | some scanner =>
    have hkey := hvalid.storable (by simp [hscanner])
    simp only [afterRegistration, hscanner]
    rw [serve_advance env system id fetched 0 locker _ body operator _ rfl
      (advance_storingJWK operator store hscanner hkey) (by simp)]
    exact serve_responded env system id fetched 0 locker _ _ rfl

/-- The locker's part without an open ledger: the ledger is created and the
registration receipt is its next entry. -/
theorem serve_locker (hsubject : ValidSubjectID body.subjectID)
    (hclosed : system.locker.ledgers body.subjectID = none)
    (hwrap : Wraps env system body operator receipt) :
    ∃ locker, serve env id fetched registrationSteps
        (system.atRegistration id system.locker system.store body operator
          .requesting .inFlight) =
      serve env id fetched 4 (system.atRegistration id locker system.store
        body operator .readingTrust (.replied "")) := by
  rw [registrationSteps, serve_receive,
    serve_acquire _ _ _ _ _ _ _ _ _ hsubject hclosed hwrap, serve_add,
    serve_index, serve_announce, serve_hear]
  exact ⟨_, rfl⟩

/-- The locker's part with an open ledger: the request is refused. -/
theorem serve_refused (hsubject : ValidSubjectID body.subjectID)
    (hopen : (system.locker.ledgers body.subjectID).isSome) :
    serve env id fetched registrationSteps
        (system.atRegistration id system.locker system.store body operator
          .requesting .inFlight) =
      some (system.atRegistration id system.locker system.store body operator
        (.responded ⟨500, "registration failed: " ++
          ("creating ledger: ledger already exists: " ++ body.subjectID)⟩)
        (.replied ("creating ledger: ledger already exists: " ++
          body.subjectID))) := by
  rw [registrationSteps, serve_receive,
    serve_acquire_refused _ _ _ _ _ _ _ _ _ hsubject hopen, serve_hear]
  have hstage : (AdminCall.registerSubject (some body) operator).hear
      (.reply ("creating ledger: ledger already exists: " ++
        body.subjectID)) =
      .responded ⟨500, "registration failed: " ++
        ("creating ledger: ledger already exists: " ++ body.subjectID)⟩ := by
    simp [AdminCall.hear, internalError]
  rw [hstage]
  exact serve_responded env system id fetched 7 _ _ _ rfl

end Registration

/-- A valid registration that meets no failure is answered with 201 and leaves
the subject registered with the requested trust list exactly when the locker
has no open ledger for it.  With an open ledger, which is what an earlier
attempt that failed after `CreateLedger` leaves behind, it is answered with 500
and the subject stays unregistered. -/
theorem registration_succeeds_iff_no_open_ledger (env : Environment)
    (system : System) (id fetched : ℕ) (body : RegisterBody)
    (operator : PublisherIdentity) (hfresh : system.requests id = none)
    (hunregistered : ¬ Registered system.store body.subjectID)
    (hvalid : ValidRegistration env body)
    (hwrap : ∃ receipt, Wraps env system body operator receipt) :
    ∃ final,
      registerWithoutFailure env system id fetched body operator =
          some final ∧
        (RegistrationSucceeded final id body ↔
          system.locker.ledgers body.subjectID = none) ∧
        ((system.locker.ledgers body.subjectID).isSome →
          responseOf final id = some (.responded
              ⟨500, "registration failed: " ++
                ("creating ledger: ledger already exists: " ++
                  body.subjectID)⟩) ∧
            ¬ Registered final.store body.subjectID) := by
  obtain ⟨receipt, hwrap⟩ := hwrap
  obtain ⟨-, hsubject⟩ := validSubjectID_of_validateRegistration hvalid.accepted
  rw [registerWithoutFailure_eq id fetched operator hfresh hvalid]
  cases hledger : system.locker.ledgers body.subjectID with
  | none =>
    obtain ⟨locker, hlocker⟩ := serve_locker id fetched operator hsubject
      hledger hwrap
    rw [hlocker, serve_store id fetched operator locker system.store hvalid]
    refine ⟨_, rfl, ⟨fun _ => rfl, fun _ => ⟨?_, ?_, ?_⟩⟩, by simp⟩
    · simp [responseOf, System.atRegistration]
    · exact registered_completedStore system.store body
    · exact storedTrustList_completedStore system.store body
  | some ledger =>
    rw [serve_refused id fetched operator hsubject (by simp [hledger])]
    have hresponse : responseOf (system.atRegistration id system.locker
        system.store body operator (.responded ⟨500,
          "registration failed: " ++
            ("creating ledger: ledger already exists: " ++
              body.subjectID)⟩)
        (.replied ("creating ledger: ledger already exists: " ++
          body.subjectID))) id = some (.responded ⟨500,
            "registration failed: " ++
              ("creating ledger: ledger already exists: " ++
                body.subjectID)⟩) := by
      simp [responseOf, System.atRegistration]
    refine ⟨_, rfl, ⟨fun hsucceeded => ?_, by simp⟩, fun _ =>
      ⟨hresponse, hunregistered⟩⟩
    have hcontradiction := hsucceeded.response.symm.trans hresponse
    simp at hcontradiction

def sampleBody : RegisterBody :=
  ⟨"alpha", [workload "scanner"], none⟩

theorem validRegistration_sampleBody :
    ValidRegistration sampleEnvironment sampleBody :=
  ⟨by decide, by decide⟩

/-- The locker could not open the ledger, and the gateway has answered the
request with its error. -/
def sampleFailedOpening : List Action :=
  [.call 0 sampleCall, .admin 0 .receive,
    .admin 0 (.acquire (.failed (.message "disk full") true)),
    .gateway 0 (.hear (.failed (.message "nats: timeout")))]

/-- After the actions, the registration of `alpha` succeeds. -/
def SucceedsAfter (actions : List Action) : Prop :=
  ∃ system final,
    run (step sampleEnvironment) initial actions = some system ∧
    registerWithoutFailure sampleEnvironment system 1 0 sampleBody
      samplePublisher = some final ∧
    RegistrationSucceeded final 1 sampleBody

/-- A registration of a fresh deployment, and one after a failed attempt. -/
theorem sample_registration_succeeds :
    SucceedsAfter [] ∧ SucceedsAfter sampleFailedOpening := by
  suffices hboth : ∀ actions ∈ [[], sampleFailedOpening],
      SucceedsAfter actions by
    exact ⟨hboth _ (by simp), hboth _ (by simp)⟩
  intro actions hactions
  have hstate : ((run (step sampleEnvironment) initial actions).map
      fun system => (decide (Registered system.store sampleBody.subjectID),
        (system.requests 1).isNone,
        (system.locker.ledgers sampleBody.subjectID).isNone)) =
      some (false, true, true) := by
    revert actions
    decide
  obtain ⟨system, hrun, hvalues⟩ := Option.map_eq_some_iff.mp hstate
  simp only [Prod.mk.injEq, decide_eq_false_iff_not, Option.isNone_iff_eq_none]
    at hvalues
  obtain ⟨hunregistered, hfresh, hclosed⟩ := hvalues
  obtain ⟨final, hfinal, hsucceeds, -⟩ :=
    registration_succeeds_iff_no_open_ledger sampleEnvironment system 1 0
      sampleBody samplePublisher hfresh hunregistered
      validRegistration_sampleBody ⟨_, rfl⟩
  exact ⟨system, final, hrun, hfinal, hsucceeds.mpr hclosed⟩

/-- The locker has created the ledger and replied, but the reply is lost. -/
def sampleLostReply : List Action :=
  [.call 0 sampleCall, .admin 0 .receive, .admin 0 (.acquire (.opened 0)),
    .admin 0 (.add none), .admin 0 .index, .admin 0 .announce,
    .gateway 0 (.hear (.failed (.message "nats: timeout")))]

/-- After a lost reply the same registration is refused for ever. -/
theorem sample_registration_not_retried :
    ∃ system final, Reaches (step sampleEnvironment) anyStep initial system ∧
      ¬ Registered system.store sampleBody.subjectID ∧
      system.requests 1 = none ∧
      ValidRegistration sampleEnvironment sampleBody ∧
      registerWithoutFailure sampleEnvironment system 1 1 sampleBody
          samplePublisher = some final ∧
      ¬ RegistrationSucceeded final 1 sampleBody ∧
      ¬ Registered final.store sampleBody.subjectID := by
  have hbefore : ((run (step sampleEnvironment) initial sampleLostReply).map
      fun system => (decide (Registered system.store sampleBody.subjectID),
        (system.requests 1).isNone)) = some (false, true) := by decide
  have hafter : (((run (step sampleEnvironment) initial sampleLostReply).bind
      fun system => registerWithoutFailure sampleEnvironment system 1 1
        sampleBody samplePublisher).map fun final =>
          (decide (Registered final.store sampleBody.subjectID),
            responseOf final 1)) =
      some (false, some (.responded ⟨500, "registration failed: " ++
        "creating ledger: ledger already exists: alpha"⟩)) := by decide
  obtain ⟨system, hrun, hstate⟩ := Option.map_eq_some_iff.mp hbefore
  obtain ⟨hunregistered, hfresh⟩ := Prod.mk.inj hstate
  rw [hrun, Option.bind_some] at hafter
  obtain ⟨final, hfinal, hvalues⟩ := Option.map_eq_some_iff.mp hafter
  obtain ⟨hstill, hresponse⟩ := Prod.mk.inj hvalues
  refine ⟨system, final, reaches_of_run hrun,
    of_decide_eq_false hunregistered, Option.isNone_iff_eq_none.mp hfresh,
    validRegistration_sampleBody, hfinal, fun hsucceeded => ?_,
    of_decide_eq_false hstill⟩
  have hcontradiction := hsucceeded.response.symm.trans hresponse
  simp at hcontradiction

end ComplyTime.Pipeline
