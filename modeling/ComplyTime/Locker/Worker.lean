import ComplyTime.Locker.Ledgers

/-!
# The ingest worker

The locker runs one worker.  It fetches a message, looks up the subject's
ledger, skips receipts whose digest the ledger already knows, seals the others,
publishes an `evidence.sealed` event and acknowledges.  A `WorkerState` is the
point the worker has reached between two effects that other goroutines, the
stream or a crash can observe.
-/

namespace ComplyTime.Worker

open Ledgers

inductive WorkerState
  | idle
  /-- A message was fetched; `handleMessage` is about to decode it. -/
  | received (sequence : ℕ)
  /-- `GetLedger` succeeded; `VerifyDigest` comes next. -/
  | verifying (sequence : ℕ) (ref : IngestRef)
  /-- The digest is unknown; `Add` is about to run or running. -/
  | sealing (sequence : ℕ) (ref : IngestRef)
  /-- `Add` returned `index`; the digest is not yet recorded. -/
  | indexing (sequence : ℕ) (ref : IngestRef) (index : ℕ)
  /-- `Seal` returned; `PublishEvidenceSealed` comes next. -/
  | publishing (sequence : ℕ) (ref : IngestRef) (index : ℕ)
  /-- `processReceipt` returned nil; `Ack` comes next. -/
  | acking (sequence : ℕ) (ref : IngestRef)
  deriving DecidableEq, Repr

/-- `isPermanent`: only the error value itself is inspected. -/
def isPermanent : GoError → Bool
  | .ledgerNotFound _ => true
  | .canceled => true
  | _ => false

def verdictOf (err : GoError) : Verdict :=
  if isPermanent err then .term else .nak

/-- `GetLedger` and the error `processReceipt` makes of a miss. -/
def findLedger (locker : Locker) (ref : IngestRef) : Except GoError Ledger :=
  match locker.getLedger ref.subjectID with
  | some ledger => .ok ledger
  | none => .error (.ledgerNotFound ref.subjectID)

/-- The error of a failed `Add` as `processReceipt` returns it: `Seal` and
`processReceipt` each wrap it. -/
def sealError (err : GoError) : GoError :=
  .within "sealing receipt" (.within "sealing receipt" err)

/-- The event published for a receipt sealed at `index`. -/
def sealedEvent (sha256Hex : Bytes → String) (ref : IngestRef) (index : ℕ) :
    EvidenceSealedData where
  contentDigest := ref.contentDigest
  logIndex := toLogIndex index
  receiptDigest := sha256Hex ref.receiptBytes
  receiptType := "gemara-receipt/v1"
  storageRef := "locker://" ++ ref.subjectID ++ "/entry/" ++ toString index
  subjectID := ref.subjectID

/-- The message the worker is holding, if any. -/
def WorkerState.sequence? : WorkerState → Option ℕ
  | .idle => none
  | .received sequence => some sequence
  | .verifying sequence _ => some sequence
  | .sealing sequence _ => some sequence
  | .indexing sequence _ _ => some sequence
  | .publishing sequence _ _ => some sequence
  | .acking sequence _ => some sequence

/-- The decoded work item the worker is holding, if any. -/
def WorkerState.ref? : WorkerState → Option (ℕ × IngestRef)
  | .idle => none
  | .received _ => none
  | .verifying sequence ref => some (sequence, ref)
  | .sealing sequence ref => some (sequence, ref)
  | .indexing sequence ref _ => some (sequence, ref)
  | .publishing sequence ref _ => some (sequence, ref)
  | .acking sequence ref => some (sequence, ref)

/-- A failed `Add` is always retried: its error is wrapped, and `isPermanent`
does not look under a wrapping. -/
@[simp]
theorem verdictOf_sealError (err : GoError) :
    verdictOf (sealError err) = .nak := rfl

@[simp]
theorem verdictOf_ledgerNotFound (subjectID : String) :
    verdictOf (.ledgerNotFound subjectID) = .term := rfl

theorem findLedger_eq_error {locker : Locker} {ref : IngestRef}
    {err : GoError} (hmiss : findLedger locker ref = .error err) :
    locker.ledgers ref.subjectID = none ∧
      err = .ledgerNotFound ref.subjectID := by
  unfold findLedger Locker.getLedger at hmiss
  cases hledger : locker.ledgers ref.subjectID with
  | none => exact ⟨rfl, by simpa [hledger] using hmiss.symm⟩
  | some ledger => simp [hledger] at hmiss

theorem findLedger_eq_ok {locker : Locker} {ref : IngestRef} {ledger : Ledger}
    (hfound : findLedger locker ref = .ok ledger) :
    locker.ledgers ref.subjectID = some ledger := by
  unfold findLedger Locker.getLedger at hfound
  cases hledger : locker.ledgers ref.subjectID with
  | none => simp [hledger] at hfound
  | some open_ => simpa [hledger] using hfound

end ComplyTime.Worker
