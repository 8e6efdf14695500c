import ComplyTime.Core.TransitionSystem
import ComplyTime.Core.WorkQueue
import ComplyTime.Gateway.Admin
import ComplyTime.Locker.AdminSubscriber
import ComplyTime.Locker.Worker
import ComplyTime.Nats.Streams

/-!
# The ingest pipeline as one state machine

Gateway, stream, locker worker and admin subscriber run side by side.  A step
is one effect that another party can observe: a message stored, delivered or
answered, one request to a bucket, one append, one index update.  Whatever the
environment decides, such as an injected failure, a lost reply, the entries a
rebuild could read, is carried by the action, so a run is a list of actions.

A crash of the locker is the action `restart`: volatile state is gone and
`OpenExistingLedgers` has run.  An append cut off by a crash that is in the log
at reopen is the run that appends and then restarts.
-/

namespace ComplyTime.Pipeline

open TransitionSystem WorkQueue Subjects Ledgers Worker AdminSubscriber
open GatewayAdmin Trust Streams

/-- The functions that a step calls as a whole: two of the libraries, and three
of this repository that have models of their own. -/
structure Environment where
  sha256Hex : Bytes → String
  /-- `json.Marshal` of a receipt's content. -/
  marshal : Json → Bytes
  /-- `receipt.Wrap` at an instant. -/
  wrap : ℕ → Bytes → PublisherIdentity → SubjectID → String →
    Except GoError Bytes
  /-- `IssuerRegistry.ValidateTrustEntry` and the check of scanner keys. -/
  validators : Validators
  /-- Whether the authorization middleware passes a publisher that submits to
  the subject, given the trust list stored for the subject. -/
  authorizes : SubjectID → Option (List TrustEntry) → PublisherIdentity → Bool

/-- Trust lists are kept decoded: `json.Unmarshal` inverts `json.Marshal`. -/
def trustCodec : TrustCodec (List TrustEntry) where
  marshal := id
  unmarshal := .ok

/-- One admin request on both sides of the wire. -/
structure Request where
  call : AdminCall
  gateway : GatewayStage
  locker : AdminStage
  deriving DecidableEq

/-- A well-formed message the worker terminated, why, and whether its subject
was in the registry at that moment. -/
structure DeadLetter where
  sequence : ℕ
  ref : IngestRef
  cause : GoError
  registered : Bool
  deriving DecidableEq, Repr

structure System where
  locker : Locker
  queue : Queue (Option IngestRef)
  worker : WorkerState
  store : TrustStore (List TrustEntry)
  requests : ℕ → Option Request
  /-- The `evidence.sealed` events published so far. -/
  events : List EvidenceSealedData
  now : ℕ
  /-- Ghost: the work items the worker has acknowledged. -/
  acked : List IngestRef
  /-- Ghost: the well-formed messages the worker has terminated. -/
  deadLetters : List DeadLetter

/-- A fresh deployment. -/
def initial : System where
  locker := newLocker
  queue := []
  worker := .idle
  store := emptyTrustStore
  requests := fun _ => none
  events := []
  now := 0
  acked := []
  deadLetters := []

inductive WorkerEvent
  /-- Decode the message and look up its ledger.  A failure is answered at
  once, and `reaches` says whether the answer reaches the stream. -/
  | lookup (reaches : Bool)
  | verify
  | add (fault : Option GoError)
  | index
  | publish (fault : Option GoError)
  | ack (reaches : Bool)
  deriving DecidableEq, Repr

inductive AdminEvent
  | receive
  | lose
  /-- `CreateLedger` or `GetLedger`, then `receipt.Wrap`. -/
  | acquire (opening : Opening)
  | add (fault : Option GoError)
  | index
  | announce
  deriving DecidableEq, Repr

inductive GatewayEvent
  | advance (fault : Option GoError)
  /-- The bucket serves the request and the reply is lost. -/
  | unanswered (err : GoError)
  | hear (hearing : Hearing)
  deriving DecidableEq, Repr

inductive Action
  /-- An accepted submission, or a foreign payload that is no work item. -/
  | ingest (payload : Option IngestRef) (publisher : PublisherIdentity)
  | deliver (sequence : ℕ)
  | worker (event : WorkerEvent)
  | call (request : ℕ) (call : AdminCall)
  | gateway (request : ℕ) (event : GatewayEvent)
  | admin (request : ℕ) (event : AdminEvent)
  | restart (opening : SubjectID → Opening)
  | tick (elapsed : ℕ)
  | expire (sequence : ℕ)

/-- The NATS payload of an admin request. -/
def natsRequest : AdminCall → AdminRequest
  | .registerSubject body operator =>
    .register ⟨(AdminCall.registerSubject body operator).subjectID,
      operator.issuer, operator.sub⟩
  | .modifyTrust subjectID body operator =>
    .sealTrust ⟨subjectID, requestedList body, operator.issuer, operator.sub⟩

/-- The message the stream keeps for a disposition the worker sent. -/
def answer (queue : Queue (Option IngestRef)) (sequence : ℕ) :
    Verdict → Queue (Option IngestRef)
  | .ack => settle queue sequence .acked
  | .term => settle queue sequence .terminated
  | .nak => queue

section Steps

variable (env : Environment)

/-- Answer a failed message and record it if it was terminated. -/
def System.reject (system : System) (sequence : ℕ) (ref : IngestRef)
    (err : GoError) (reaches : Bool) : System :=
  { system with
    worker := .idle
    queue := if reaches then answer system.queue sequence (verdictOf err)
      else system.queue
    deadLetters :=
      if verdictOf err = .term then
        system.deadLetters ++ [⟨sequence, ref, err,
          decide (Registered system.store ref.subjectID)⟩]
      else system.deadLetters }

/-- `handleMessage` up to `GetLedger`. -/
def System.workerLookup (system : System) (sequence : ℕ) (reaches : Bool) :
    Option System :=
  match system.queue[sequence]? with
  | none => none
  | some message =>
    match message.payload with
    | none => some { system with
        worker := .idle
        queue := if reaches then answer system.queue sequence .term
          else system.queue }
    | some ref =>
      match findLedger system.locker ref with
      | .ok _ => some { system with worker := .verifying sequence ref }
      | .error err => some (system.reject sequence ref err reaches)

/-- `VerifyDigest`: a known digest is skipped. -/
def System.workerVerify (system : System) (sequence : ℕ) (ref : IngestRef) :
    System :=
  match (system.locker.getLedger ref.subjectID).bind fun ledger =>
      ledger.verifyDigest (env.sha256Hex ref.receiptBytes) with
  | some _ => { system with worker := .acking sequence ref }
  | none => { system with worker := .sealing sequence ref }

def System.workerAdd (system : System) (sequence : ℕ) (ref : IngestRef) :
    Option GoError → System
  | some err => system.reject sequence ref (sealError err) true
  | none => { system with
      locker := system.locker.add ref.subjectID ⟨ref.receiptBytes, .worker⟩
      worker := .indexing sequence ref
        (system.locker.entries ref.subjectID).length }

def System.workerIndex (system : System) (sequence : ℕ) (ref : IngestRef)
    (index : ℕ) : System :=
  { system with
    locker := system.locker.record ref.subjectID
      (env.sha256Hex ref.receiptBytes) index
    worker := .publishing sequence ref index }

/-- A failed publication is only logged. -/
def System.workerPublish (system : System) (sequence : ℕ) (ref : IngestRef)
    (index : ℕ) (fault : Option GoError) : System :=
  { system with
    events := if fault.isNone then
        system.events ++ [sealedEvent env.sha256Hex ref index]
      else system.events
    worker := .acking sequence ref }

def System.workerAck (system : System) (sequence : ℕ) (ref : IngestRef)
    (reaches : Bool) : System :=
  { system with
    worker := .idle
    queue := if reaches then answer system.queue sequence .ack
      else system.queue
    acked := system.acked ++ [ref] }

def workerStep (system : System) (event : WorkerEvent) : Option System :=
  match system.worker, event with
  | .received sequence, .lookup reaches => system.workerLookup sequence reaches
  | .verifying sequence ref, .verify =>
    some (system.workerVerify env sequence ref)
  | .sealing sequence ref, .add fault =>
    some (system.workerAdd sequence ref fault)
  | .indexing sequence ref index, .index =>
    some (system.workerIndex env sequence ref index)
  | .publishing sequence ref index, .publish fault =>
    some (system.workerPublish env sequence ref index fault)
  | .acking sequence ref, .ack reaches =>
    some (system.workerAck sequence ref reaches)
  | _, _ => none

def System.setRequest (system : System) (id : ℕ) (request : Request) :
    System :=
  { system with
    requests := Function.update system.requests id (some request) }

/-- `handleRegister` and `handleSealTrust` up to `Seal`. -/
def System.adminAcquire (system : System) (id : ℕ) (request : Request)
    (opening : Opening) : System :=
  let message := natsRequest request.call
  match message.acquireLedger env.sha256Hex system.locker opening with
  | (locker, .error err) =>
    { system with locker := locker }.setRequest id
      { request with locker := .replied err }
  | (locker, .ok ()) =>
    match env.wrap system.now (env.marshal message.data) message.publisher
        message.subjectID message.artifactType with
    | .error err => { system with locker := locker }.setRequest id
        { request with
          locker := .replied ("wrapping receipt: " ++ err.error) }
    | .ok receipt => { system with locker := locker }.setRequest id
        { request with locker := .sealing receipt }

def System.adminAdd (system : System) (id : ℕ) (request : Request)
    (receipt : Bytes) : Option GoError → System
  | some err => system.setRequest id { request with
      locker := .replied
        ("sealing receipt: " ++ (GoError.within "sealing receipt" err).error) }
  | none =>
    let subjectID := (natsRequest request.call).subjectID
    { system with
      locker := system.locker.add subjectID ⟨receipt, .admin id⟩
    }.setRequest id { request with
      locker := .indexing receipt (system.locker.entries subjectID).length }

def System.adminIndex (system : System) (id : ℕ) (request : Request)
    (receipt : Bytes) (index : ℕ) : System :=
  { system with
    locker := system.locker.record (natsRequest request.call).subjectID
      (env.sha256Hex receipt) index
  }.setRequest id { request with
    locker := (natsRequest request.call).afterSeal }

def adminStep (system : System) (id : ℕ) (event : AdminEvent) :
    Option System :=
  match system.requests id with
  | none => none
  | some request =>
    match request.locker, event with
    | .inFlight, .receive =>
      some (system.setRequest id { request with locker := .started })
    | .inFlight, .lose =>
      some (system.setRequest id { request with locker := .dropped })
    | .started, .acquire opening =>
      some (system.adminAcquire env id request opening)
    | .sealing receipt, .add fault =>
      some (system.adminAdd id request receipt fault)
    | .indexing receipt index, .index =>
      some (system.adminIndex env id request receipt index)
    | .announcing, .announce =>
      some (system.setRequest id { request with locker := .replied "" })
    | _, _ => none

/-- Entering `requesting` sends the locker request. -/
def lockerAfter (stage : GatewayStage) (locker : AdminStage) : AdminStage :=
  if stage = .requesting then .inFlight else locker

/-- Only a reply the locker has sent can be heard; a failed request or a
garbled reply needs nothing from it. -/
def heardFrom (locker : AdminStage) : Hearing → Bool
  | .reply error => decide (locker = .replied error)
  | .failed _ => true
  | .undecodable _ => true

def gatewayStep (system : System) (id : ℕ) (event : GatewayEvent) :
    Option System :=
  match system.requests id with
  | none => none
  | some request =>
    match event with
    | .advance fault =>
      match request.call.advance trustCodec system.store fault
          env.validators request.gateway with
      | none => none
      | some (store, stage) =>
        some ({ system with store := store }.setRequest id
          ⟨request.call, stage, lockerAfter stage request.locker⟩)
    | .unanswered err =>
      match request.call.unanswered trustCodec system.store err
          env.validators request.gateway with
      | none => none
      | some (store, stage) =>
        some ({ system with store := store }.setRequest id
          ⟨request.call, stage, lockerAfter stage request.locker⟩)
    | .hear hearing =>
      if request.gateway = .requesting ∧
          heardFrom request.locker hearing = true then
        some (system.setRequest id
          { request with gateway := request.call.hear hearing })
      else none

def callStep (system : System) (id : ℕ) (call : AdminCall) : Option System :=
  match system.requests id with
  | some _ => none
  | none =>
    let stage := call.begin env.validators
    some (system.setRequest id ⟨call, stage, lockerAfter stage .unsent⟩)

def ingestStep (system : System) (payload : Option IngestRef)
    (publisher : PublisherIdentity) : Option System :=
  let admitted := match payload with
    | none => true
    | some ref => env.authorizes ref.subjectID
        (storedTrustList trustCodec system.store ref.subjectID) publisher
  if admitted then
    some { system with queue := publish system.queue payload system.now }
  else none

/-- The single worker fetches one message at a time. -/
def deliverStep (system : System) (sequence : ℕ) : Option System :=
  match system.worker with
  | .idle =>
    (deliver ingestConsumerConfig.maxDeliver system.queue sequence).map
      fun queue => { system with
        queue := queue
        worker := .received sequence }
  | _ => none

def restartStep (system : System) (opening : SubjectID → Opening) : System :=
  { system with
    locker := system.locker.openExistingLedgers env.sha256Hex opening
    worker := .idle
    requests := fun id => (system.requests id).map fun request =>
      { request with locker := request.locker.crash } }

def step (system : System) : Action → Option System
  | .ingest payload publisher => ingestStep env system payload publisher
  | .deliver sequence => deliverStep system sequence
  | .worker event => workerStep env system event
  | .call id call => callStep env system id call
  | .gateway id event => gatewayStep env system id event
  | .admin id event => adminStep env system id event
  | .restart opening => some (restartStep env system opening)
  | .tick elapsed => some { system with now := system.now + elapsed }
  | .expire sequence =>
    (expire ingestStreamConfig.maxAge system.now system.queue sequence).map
      fun queue => { system with queue := queue }

end Steps

/-! ## A concrete environment and its first steps -/

/-- SHA-256 of the two receipts of the sample runs; any other text is spelled
out behind a letter no digest has. -/
def sampleDigest (bytes : Bytes) : String :=
  if bytes = [0] then
    "6e340b9cffb37a989ca544e6bb780a2c78901d3fb33738768511a30617afa01d"
  else if bytes = [1] then
    "4bf5122f344554c53bde2ebb8cd2b7e3d1600ad631c385a5d7cce23c7785459a"
  else
    String.ofList ('x' :: bytes.map fun byte => Char.ofNat byte.toNat)

/-- Receipts are their content, and a publisher is authorized when the stored
list has it. -/
def sampleEnvironment : Environment where
  sha256Hex := sampleDigest
  marshal := fun _ => [0]
  wrap := fun _ content _ _ _ => .ok content
  validators := ⟨none, fun _ => .ok false⟩
  authorizes := fun _ trusted publisher =>
    (trusted.getD []).contains ⟨publisher.issuer, publisher.sub⟩

private theorem toNat_ofNat_of_lt {code : ℕ} (hlt : code < 256) :
    (Char.ofNat code).toNat = code := by
  have hvalid : code.isValidChar := .inl (by omega)
  rw [Char.ofNat, dif_pos hvalid]
  rfl

private theorem spelled_injective :
    Function.Injective fun bytes : Bytes =>
      String.ofList ('x' :: bytes.map fun byte => Char.ofNat byte.toNat) := by
  intro left right heq
  have hlists := (List.cons.inj (String.ofList_injective heq)).2
  refine List.map_injective_iff.mpr (fun first second hchars => ?_) hlists
  have hcodes := congrArg Char.toNat hchars
  rw [toNat_ofNat_of_lt first.toNat_lt,
    toNat_ofNat_of_lt second.toNat_lt] at hcodes
  exact UInt8.toNat_inj.mp hcodes

private theorem ofList_cons_ne {digest : String} (rest : List Char)
    (hhead : digest.toList.head? ≠ some 'x') :
    String.ofList ('x' :: rest) ≠ digest := by
  rintro rfl
  simp at hhead

private theorem injective_ite {Input Output : Type} [DecidableEq Input]
    {function : Input → Output} (hinjective : Function.Injective function)
    (point : Input) {value : Output} (hfresh : ∀ input, function input ≠ value) :
    Function.Injective fun input =>
      if input = point then value else function input := by
  intro left right heq
  by_cases hleft : left = point
  · by_cases hright : right = point
    · rw [hleft, hright]
    · simp only [hleft, if_true, hright, if_false] at heq
      exact absurd heq.symm (hfresh right)
  · by_cases hright : right = point
    · simp only [hleft, if_false, hright, if_true] at heq
      exact absurd heq (hfresh left)
    · simp only [hleft, hright, if_false] at heq
      exact hinjective heq

theorem sha256Hex_sampleEnvironment_injective :
    Function.Injective sampleEnvironment.sha256Hex := by
  refine injective_ite (injective_ite spelled_injective [1] fun bytes =>
    ofList_cons_ne _ (by decide)) [0] fun bytes => ?_
  by_cases hone : bytes = [1]
  · simp only [hone, if_true]
    decide
  · simp only [hone, if_false]
    exact ofList_cons_ne _ (by decide)

def samplePublisher : PublisherIdentity := ⟨"https://ci.example", "scanner"⟩

def sampleOperator : PublisherIdentity := ⟨"https://id.example", "operator"⟩

def workload (sub : String) : TrustEntry := ⟨"https://ci.example", sub⟩

def sampleRef : IngestRef := ⟨"job", "alpha", "digest", "", [1]⟩

def sampleCall : AdminCall :=
  .registerSubject (some ⟨"alpha", [workload "scanner"], none⟩) sampleOperator

/-- A registration of subject `alpha` without failures. -/
def sampleRegistration : List Action :=
  [.call 0 sampleCall, .admin 0 .receive, .admin 0 (.acquire (.opened 0)),
    .admin 0 (.add none), .admin 0 .index, .admin 0 .announce,
    .gateway 0 (.hear (.reply "")), .gateway 0 (.advance none),
    .gateway 0 (.advance none), .gateway 0 (.advance none)]

/-- A submission is accepted, delivered and appended. -/
def sampleSeal : List Action :=
  [.ingest (some sampleRef) samplePublisher, .deliver 0,
    .worker (.lookup true), .worker .verify, .worker (.add none)]

/-- The message is delivered again and found sealed. -/
def sampleSkip : List Action :=
  [.deliver 0, .worker (.lookup true), .worker .verify, .worker (.ack true)]

end ComplyTime.Pipeline
