import ComplyTime.Core.Json
import ComplyTime.Locker.Ledgers

/-!
# The admin subscriber

The locker answers two request-reply subjects: subject registration, which
creates a ledger and seals a registration receipt into it, and trust sealing,
which seals a trust-modification receipt into an existing ledger.  An
`AdminStage` is the point a request has reached on the locker's side.
-/

namespace ComplyTime.AdminSubscriber

open Ledgers Subjects

inductive AdminRequest
  | register (request : RegisterRequest)
  | sealTrust (request : SealTrustRequest)
  deriving DecidableEq, Repr

inductive AdminStage
  /-- The gateway has not sent the request. -/
  | unsent
  | inFlight
  /-- `handleRegister` or `handleSealTrust` was invoked. -/
  | started
  /-- The receipt is wrapped; `Add` is about to run or running. -/
  | sealing (receipt : Bytes)
  | indexing (receipt : Bytes) (index : ℕ)
  /-- `PublishSubjectRegistered` comes next. -/
  | announcing
  /-- The reply was sent, with the `error` field of its payload. -/
  | replied (error : String)
  /-- The request was lost, or the process crashed while handling it. -/
  | dropped
  deriving DecidableEq, Repr

def AdminRequest.subjectID : AdminRequest → Subjects.SubjectID
  | .register request => request.subjectID
  | .sealTrust request => request.subjectID

/-- The content of the registration receipt, members in the order
`json.Marshal` gives map keys. -/
def registrationData (request : RegisterRequest) : Json :=
  .obj [("registrantIssuer", .str request.registrantIssuer),
    ("registrantSub", .str request.registrantSub),
    ("subjectId", .str request.subjectID)]

def trustEntryData (entry : TrustEntry) : Json :=
  .obj [("issuer", .str entry.issuer), ("sub", .str entry.sub)]

/-- A slice of trust entries; the nil slice is marshaled to `null`. -/
def trustListData : Option (List TrustEntry) → Json
  | none => .null
  | some entries => .arr (entries.map trustEntryData)

/-- The content of the trust-modification receipt. -/
def trustData (request : SealTrustRequest) : Json :=
  .obj [("operatorIssuer", .str request.operatorIssuer),
    ("operatorSub", .str request.operatorSub),
    ("subjectId", .str request.subjectID),
    ("trustedPublishers", trustListData request.trustedPublishers)]

def AdminRequest.data : AdminRequest → Json
  | .register request => registrationData request
  | .sealTrust request => trustData request

/-- The identity recorded as the receipt's publisher. -/
def AdminRequest.publisher : AdminRequest → PublisherIdentity
  | .register request => ⟨request.registrantIssuer, request.registrantSub⟩
  | .sealTrust request => ⟨request.operatorIssuer, request.operatorSub⟩

def AdminRequest.artifactType : AdminRequest → String
  | .register _ => "subject-registration"
  | .sealTrust _ => "trust-modification"

/-- `CreateLedger` for a registration, `GetLedger` for a trust seal, and the
error text either reply carries on failure. -/
def AdminRequest.acquireLedger (sha256Hex : Bytes → String) (locker : Locker)
    (opening : Opening) : AdminRequest → Locker × Except String Unit
  | .register request =>
    match locker.createLedger sha256Hex request.subjectID opening with
    | (next, .ok ()) => (next, .ok ())
    | (next, .error err) => (next, .error ("creating ledger: " ++ err.error))
  | .sealTrust request =>
    match locker.getLedger request.subjectID with
    | some _ => (locker, .ok ())
    | none => (locker, .error ("ledger not found for " ++ request.subjectID))

/-- The stage after the digest was recorded: a registration still announces
the subject, a trust seal replies at once. -/
def AdminRequest.afterSeal : AdminRequest → AdminStage
  | .register _ => .announcing
  | .sealTrust _ => .replied ""

/-- A crash of the locker loses every request it was handling. -/
def AdminStage.crash : AdminStage → AdminStage
  | .started => .dropped
  | .sealing _ => .dropped
  | .indexing _ _ => .dropped
  | .announcing => .dropped
  | stage => stage

/-- What acquiring the ledger does to the locker: nothing, or one opening of a
ledger that was closed. -/
theorem acquireLedger_locker (sha256Hex : Bytes → String) (locker : Locker)
    (opening : Opening) (request : AdminRequest) :
    (request.acquireLedger sha256Hex locker opening).1 = locker ∨
      (locker.ledgers request.subjectID = none ∧
        (request.acquireLedger sha256Hex locker opening).1 =
          locker.openLedger sha256Hex request.subjectID opening) := by
  cases request with
  | sealTrust request =>
    left
    simp only [AdminRequest.acquireLedger]
    split <;> rfl
  | register request =>
    simp only [AdminRequest.acquireLedger, AdminRequest.subjectID,
      Locker.createLedger]
    cases validateSubjectID request.subjectID with
    | error err => exact .inl rfl
    | ok checked =>
      cases hledger : locker.ledgers request.subjectID with
      | some ledger => exact .inl rfl
      | none =>
        cases opening with
        | failed err directoryLeft => exact .inr ⟨rfl, rfl⟩
        | opened fetched => exact .inr ⟨rfl, rfl⟩

variable {sha256Hex : Bytes → String} {locker next : Locker} {opening : Opening}

theorem isSome_ledgers_of_acquireLedger {request : AdminRequest}
    (hacquire : request.acquireLedger sha256Hex locker opening =
      (next, .ok ())) :
    (next.ledgers request.subjectID).isSome := by
  cases request with
  | sealTrust request =>
    simp only [AdminRequest.acquireLedger, Locker.getLedger] at hacquire
    cases hledger : locker.ledgers request.subjectID with
    | none => simp [hledger] at hacquire
    | some ledger =>
      obtain rfl : locker = next := by simpa [hledger] using hacquire
      simp [AdminRequest.subjectID, hledger]
  | register request =>
    simp only [AdminRequest.acquireLedger, Locker.createLedger] at hacquire
    cases hsubject : validateSubjectID request.subjectID with
    | error err => simp [hsubject] at hacquire
    | ok checked =>
      cases hledger : locker.ledgers request.subjectID with
      | some ledger => simp [hsubject, hledger] at hacquire
      | none =>
        cases opening with
        | failed err directoryLeft => simp [hsubject, hledger] at hacquire
        | opened fetched =>
          simp only [hsubject, hledger, Option.isSome_none,
            Bool.false_eq_true, if_false, Prod.mk.injEq,
            and_true] at hacquire
          subst hacquire
          simp [AdminRequest.subjectID]

theorem ledgers_eq_none_of_acquireLedger {request : RegisterRequest}
    (hacquire : (AdminRequest.register request).acquireLedger sha256Hex locker
      opening = (next, .ok ())) :
    locker.ledgers request.subjectID = none := by
  simp only [AdminRequest.acquireLedger, Locker.createLedger] at hacquire
  cases hledger : locker.ledgers request.subjectID with
  | none => rfl
  | some ledger =>
    cases hsubject : validateSubjectID request.subjectID with
    | error err => simp [hsubject] at hacquire
    | ok checked => simp [hsubject, hledger] at hacquire

theorem ne_empty_of_acquireLedger {request : AdminRequest} {err : String}
    (hacquire : request.acquireLedger sha256Hex locker opening =
      (next, .error err)) : err ≠ "" := by
  cases request with
  | sealTrust request =>
    simp only [AdminRequest.acquireLedger] at hacquire
    split at hacquire
    · simp at hacquire
    · obtain ⟨-, rfl⟩ : locker = next ∧ _ = err := by
        simpa using hacquire
      simp
  | register request =>
    simp only [AdminRequest.acquireLedger] at hacquire
    split at hacquire
    · simp at hacquire
    · obtain ⟨-, rfl⟩ : _ = next ∧ _ = err := by simpa using hacquire
      simp

end ComplyTime.AdminSubscriber
