import ComplyTime.Core.DigestIndex
import ComplyTime.Messages

/-!
# The evidence locker

Each subject has one ledger: an append-only Tessera log on disk and, while the
process holds it open, an in-memory digest index.  The disk survives a crash,
the index does not.  `seal` is two separate effects, the durable append and the
index update, because other goroutines and crashes may fall between them.
Opening a ledger rebuilds its index from the log; a rebuild that stops early is
only logged, so the number of entries it fetched is part of the outcome.
-/

namespace ComplyTime.Ledgers

open Subjects DigestIndex

/-- The handler that called `Ledger.Seal`: the ingest worker, or the admin
subscriber on behalf of a request.  Ghost data, never read by the code. -/
inductive Sealer
  | worker
  | admin (request : ℕ)
  deriving DecidableEq, Repr

/-- One log entry. -/
structure Entry where
  data : Bytes
  sealer : Sealer
  deriving DecidableEq, Repr

/-- The in-memory half of a ledger: its `digestIndex`. -/
structure Ledger where
  digestIndex : Index String

/-- The locker: Tessera logs under `basePath` and the map of open ledgers. -/
structure Locker where
  logs : SubjectID → Option (List Entry)
  ledgers : SubjectID → Option Ledger

/-- What opening a ledger directory does: `NewLedger` fails, possibly after it
created the directory, or succeeds after its rebuild fetched `fetched` entries.
-/
inductive Opening
  | failed (err : GoError) (directoryLeft : Bool)
  | opened (fetched : ℕ)
  deriving DecidableEq, Repr

/-- A locker on an empty base path. -/
def newLocker : Locker where
  logs := fun _ => none
  ledgers := fun _ => none

section Operations

variable (sha256Hex : Bytes → String)

/-- `rebuildDigestIndex` when the first `fetched` entries could be read. -/
def rebuildDigestIndex (log : List Entry) (fetched : ℕ) : Index String :=
  scan (fun entry => sha256Hex entry.data) (log.take fetched)

/-- `NewLedger` on an existing or freshly created log. -/
def newLedger (log : List Entry) (fetched : ℕ) : Ledger where
  digestIndex := rebuildDigestIndex sha256Hex log fetched

/-- `VerifyDigest`: the recorded log index of a digest. -/
def Ledger.verifyDigest (ledger : Ledger) (digest : String) : Option ℕ :=
  ledger.digestIndex digest

/-- `GetLedger`. -/
def Locker.getLedger (locker : Locker) (subjectID : SubjectID) :
    Option Ledger :=
  locker.ledgers subjectID

/-- The entries of a subject's log; a log that does not exist has none. -/
def Locker.entries (locker : Locker) (subjectID : SubjectID) : List Entry :=
  (locker.logs subjectID).getD []

/-- First half of `Seal`: Tessera appends the entry at the next free index,
which is the length of `entries` before the call. -/
def Locker.add (locker : Locker) (subjectID : SubjectID) (entry : Entry) :
    Locker :=
  { locker with
    logs := Function.update locker.logs subjectID
      (some (locker.entries subjectID ++ [entry])) }

/-- Second half of `Seal`: `digestIndex[digest] = index`. -/
def Locker.record (locker : Locker) (subjectID : SubjectID) (digest : String)
    (index : ℕ) : Locker :=
  { locker with
    ledgers := Function.update locker.ledgers subjectID
      ((locker.ledgers subjectID).map fun ledger =>
        { ledger with
          digestIndex := DigestIndex.record ledger.digestIndex digest index }) }

/-- `NewLedger` and the map insertion of its two callers, given what opening
the directory does. -/
def Locker.openLedger (locker : Locker) (subjectID : SubjectID) :
    Opening → Locker
  | .failed _ directoryLeft =>
    if directoryLeft then
      { locker with
        logs := Function.update locker.logs subjectID
          (some (locker.entries subjectID)) }
    else locker
  | .opened fetched =>
    { logs := Function.update locker.logs subjectID
        (some (locker.entries subjectID))
      ledgers := Function.update locker.ledgers subjectID
        (some (newLedger sha256Hex (locker.entries subjectID) fetched)) }

/-- `CreateLedger`.  On success the new ledger is in the returned locker. -/
def Locker.createLedger (locker : Locker) (subjectID : SubjectID)
    (opening : Opening) : Locker × Except GoError Unit :=
  match validateSubjectID subjectID with
  | .error err => (locker, .error err)
  | .ok () =>
    if (locker.ledgers subjectID).isSome then
      (locker, .error (.wrap "" .ledgerExists (": " ++ subjectID)))
    else
      match opening with
      | .failed err directoryLeft =>
        (locker.openLedger sha256Hex subjectID (.failed err directoryLeft),
          .error err)
      | .opened fetched =>
        (locker.openLedger sha256Hex subjectID (.opened fetched), .ok ())

/-- A new process on the same base path after `OpenExistingLedgers`: only the
logs survive, and every directory that opens gets a rebuilt ledger. -/
def Locker.openExistingLedgers (locker : Locker)
    (opening : SubjectID → Opening) : Locker where
  logs := locker.logs
  ledgers := fun subjectID =>
    match locker.logs subjectID, opening subjectID with
    | some log, .opened fetched => some (newLedger sha256Hex log fetched)
    | _, _ => none

end Operations

/-! ## Effects on logs and open ledgers -/

section Lemmas

variable (sha256Hex : Bytes → String) (locker : Locker)

@[simp]
theorem entries_newLocker (subjectID : SubjectID) :
    newLocker.entries subjectID = [] := rfl

@[simp]
theorem ledgers_add (subjectID : SubjectID) (entry : Entry) :
    (locker.add subjectID entry).ledgers = locker.ledgers := rfl

@[simp]
theorem entries_add_self (subjectID : SubjectID) (entry : Entry) :
    (locker.add subjectID entry).entries subjectID =
      locker.entries subjectID ++ [entry] := by
  simp [Locker.add, Locker.entries]

variable {subjectID other : SubjectID} {index : ℕ} {ledger : Ledger}
  {digest : String} {entry : Entry}

theorem entries_add_of_ne (entry : Entry) (hne : other ≠ subjectID) :
    (locker.add subjectID entry).entries other = locker.entries other := by
  simp [Locker.add, Locker.entries, hne]

/-- Every entry after an append is an old one or the new one, at the index
`Add` returned. -/
theorem getElem?_add {appended entry : Entry}
    (hentry : ((locker.add subjectID appended).entries other)[index]? =
      some entry) :
    (locker.entries other)[index]? = some entry ∨
      (other = subjectID ∧ index = (locker.entries subjectID).length ∧
        entry = appended) := by
  by_cases heq : other = subjectID
  · subst heq
    rw [entries_add_self] at hentry
    by_cases hlt : index < (locker.entries other).length
    · left
      rwa [List.getElem?_append_left hlt] at hentry
    · right
      rw [List.getElem?_append_right (by omega)] at hentry
      obtain ⟨hindex, hvalue⟩ := List.getElem?_eq_some_iff.mp hentry
      simp only [List.length_singleton] at hindex
      have hzero : index - (locker.entries other).length = 0 := by omega
      refine ⟨rfl, by omega, ?_⟩
      simpa [hzero] using hvalue.symm
  · left
    rwa [entries_add_of_ne locker appended heq] at hentry

@[simp]
theorem logs_record (subjectID : SubjectID) (digest : String) (index : ℕ) :
    (locker.record subjectID digest index).logs = locker.logs := rfl

@[simp]
theorem entries_record (subjectID other : SubjectID) (digest : String)
    (index : ℕ) :
    (locker.record subjectID digest index).entries other =
      locker.entries other := rfl

@[simp]
theorem isSome_ledgers_record (subjectID other : SubjectID) (digest : String)
    (index : ℕ) :
    ((locker.record subjectID digest index).ledgers other).isSome =
      (locker.ledgers other).isSome := by
  by_cases heq : other = subjectID
  · subst heq
    simp [Locker.record]
  · simp [Locker.record, heq]

@[simp]
theorem entries_openLedger (subjectID other : SubjectID) (opening : Opening) :
    (locker.openLedger sha256Hex subjectID opening).entries other =
      locker.entries other := by
  by_cases heq : other = subjectID
  · subst heq
    cases opening with
    | failed err directoryLeft =>
      cases directoryLeft <;> simp [Locker.openLedger, Locker.entries]
    | opened fetched => simp [Locker.openLedger, Locker.entries]
  · cases opening with
    | failed err directoryLeft =>
      cases directoryLeft <;> simp [Locker.openLedger, Locker.entries, heq]
    | opened fetched => simp [Locker.openLedger, Locker.entries, heq]

@[simp]
theorem ledgers_openLedger_failed (subjectID : SubjectID) (err : GoError)
    (directoryLeft : Bool) :
    (locker.openLedger sha256Hex subjectID
      (.failed err directoryLeft)).ledgers = locker.ledgers := by
  cases directoryLeft <;> rfl

@[simp]
theorem ledgers_openLedger_opened (subjectID : SubjectID) (fetched : ℕ) :
    (locker.openLedger sha256Hex subjectID (.opened fetched)).ledgers =
      Function.update locker.ledgers subjectID
        (some (newLedger sha256Hex (locker.entries subjectID) fetched)) := rfl

@[simp]
theorem entries_openExistingLedgers (opening : SubjectID → Opening)
    (subjectID : SubjectID) :
    (locker.openExistingLedgers sha256Hex opening).entries subjectID =
      locker.entries subjectID := rfl

/-- A ledger a restart holds open was rebuilt from its own log. -/
theorem ledgers_openExistingLedgers_eq_some {opening : SubjectID → Opening}
    (hledger : (locker.openExistingLedgers sha256Hex opening).ledgers
      subjectID = some ledger) :
    ∃ log fetched, locker.logs subjectID = some log ∧
      opening subjectID = .opened fetched ∧
      ledger = newLedger sha256Hex log fetched := by
  simp only [Locker.openExistingLedgers] at hledger
  cases hlog : locker.logs subjectID with
  | none => simp [hlog] at hledger
  | some log =>
    cases hopening : opening subjectID with
    | failed err directoryLeft => simp [hlog, hopening] at hledger
    | opened fetched =>
      rw [hlog, hopening] at hledger
      exact ⟨log, fetched, rfl, rfl, (Option.some.inj hledger).symm⟩

theorem isSome_ledgers_openLedger (opening : Opening)
    (hopen : (locker.ledgers other).isSome) :
    ((locker.openLedger sha256Hex subjectID opening).ledgers other).isSome := by
  cases opening with
  | failed err directoryLeft => simpa using hopen
  | opened fetched =>
    by_cases heq : other = subjectID
    · subst heq
      simp
    · simpa [heq] using hopen

theorem isSome_verifyDigest_record_self
    (hledger : (locker.record subjectID digest index).ledgers subjectID =
      some ledger) : (ledger.verifyDigest digest).isSome := by
  simp only [Locker.record, Function.update_self,
    Option.map_eq_some_iff] at hledger
  obtain ⟨old, -, rfl⟩ := hledger
  simp [Ledger.verifyDigest]

/-- Recording a digest forgets no other one. -/
theorem exists_ledgers_of_record
    (hledger : (locker.record subjectID digest index).ledgers other =
      some ledger) :
    ∃ old, locker.ledgers other = some old ∧
      ∀ known, (old.verifyDigest known).isSome →
        (ledger.verifyDigest known).isSome := by
  by_cases heq : other = subjectID
  · subst heq
    simp only [Locker.record, Function.update_self,
      Option.map_eq_some_iff] at hledger
    obtain ⟨old, hold, rfl⟩ := hledger
    exact ⟨old, hold, fun known hknown =>
      isSome_record old.digestIndex digest known index hknown⟩
  · refine ⟨ledger, ?_, fun _ hknown => hknown⟩
    simpa [Locker.record, heq] using hledger

/-- `next` has every entry of `locker` at its index and every ledger of
`locker` open. -/
structure Grows (locker next : Locker) : Prop where
  entries : ∀ subjectID, locker.entries subjectID <+: next.entries subjectID
  ledgers : ∀ subjectID, (locker.ledgers subjectID).isSome →
    (next.ledgers subjectID).isSome

theorem Grows.refl : Grows locker locker :=
  ⟨fun _ => List.prefix_refl _, fun _ hopen => hopen⟩

theorem grows_add (subjectID : SubjectID) (entry : Entry) :
    Grows locker (locker.add subjectID entry) := by
  refine ⟨fun other => ?_, fun _ hopen => hopen⟩
  by_cases heq : other = subjectID
  · subst heq
    rw [entries_add_self]
    exact List.prefix_append _ _
  · exact ⟨[], by rw [List.append_nil, entries_add_of_ne locker entry heq]⟩

theorem grows_record (subjectID : SubjectID) (digest : String) (index : ℕ) :
    Grows locker (locker.record subjectID digest index) :=
  ⟨fun _ => List.prefix_refl _, fun other hopen => by simpa using hopen⟩

theorem grows_openLedger (subjectID : SubjectID) (opening : Opening) :
    Grows locker (locker.openLedger sha256Hex subjectID opening) := by
  refine ⟨fun other => ⟨[], ?_⟩, fun other hopen =>
    isSome_ledgers_openLedger sha256Hex locker opening hopen⟩
  rw [List.append_nil, entries_openLedger]

variable {locker} in
theorem Grows.getElem? {next : Locker} (hgrows : Grows locker next)
    (hentry : (locker.entries subjectID)[index]? = some entry) :
    (next.entries subjectID)[index]? = some entry := by
  obtain ⟨rest, hrest⟩ := hgrows.entries subjectID
  obtain ⟨hlt, -⟩ := List.getElem?_eq_some_iff.mp hentry
  rw [← hrest, List.getElem?_append_left hlt, hentry]

/-! ## Soundness of the digest index -/

/-- Every answer of an open ledger points at an entry of that digest. -/
def IndexSound (locker : Locker) : Prop :=
  ∀ subjectID ledger digest index,
    locker.ledgers subjectID = some ledger →
      ledger.verifyDigest digest = some index →
        ∃ entry, (locker.entries subjectID)[index]? = some entry ∧
          sha256Hex entry.data = digest

theorem isSome_verifyDigest_newLedger {log : List Entry} {fetched : ℕ}
    (hcomplete : log.length ≤ fetched) (hmem : entry ∈ log) :
    ((newLedger sha256Hex log fetched).verifyDigest
      (sha256Hex entry.data)).isSome := by
  have htake : log.take fetched = log := List.take_of_length_le hcomplete
  simp only [newLedger, Ledger.verifyDigest, rebuildDigestIndex, htake]
  exact isSome_scan_of_mem (fun item : Entry => sha256Hex item.data) hmem

/-- An index a rebuilt ledger answers with holds an entry of that digest,
however far the rebuild came. -/
theorem getElem?_of_verifyDigest_newLedger {log : List Entry} {fetched : ℕ}
    (hfound : (newLedger sha256Hex log fetched).verifyDigest digest =
      some index) :
    ∃ entry, log[index]? = some entry ∧ sha256Hex entry.data = digest := by
  obtain ⟨entry, hentry, hdigest⟩ :=
    getElem?_of_scan_eq_some (fun item : Entry => sha256Hex item.data) hfound
  rw [List.getElem?_take] at hentry
  split at hentry
  · exact ⟨entry, hentry, hdigest⟩
  · simp at hentry

variable {sha256Hex locker}

section

variable (hsound : IndexSound sha256Hex locker)

include hsound

theorem IndexSound.add (subjectID : SubjectID) (entry : Entry) :
    IndexSound sha256Hex (locker.add subjectID entry) := by
  intro other ledger digest index hledger hfound
  obtain ⟨old, hold, hdigest⟩ := hsound other ledger digest index hledger hfound
  exact ⟨old, (grows_add locker subjectID entry).getElem? hold, hdigest⟩

theorem IndexSound.record
    (hentry : (locker.entries subjectID)[index]? = some entry) :
    IndexSound sha256Hex
      (locker.record subjectID (sha256Hex entry.data) index) := by
  intro other ledger digest found hledger hfound
  by_cases heq : other = subjectID
  · subst heq
    simp only [Locker.record, Function.update_self,
      Option.map_eq_some_iff] at hledger
    obtain ⟨old, hold, rfl⟩ := hledger
    rcases record_eq_some hfound with ⟨rfl, rfl⟩ | hbefore
    · exact ⟨entry, hentry, rfl⟩
    · exact hsound other old digest found hold hbefore
  · refine hsound other ledger digest found ?_ hfound
    simpa [Locker.record, heq] using hledger

theorem IndexSound.openLedger (subjectID : SubjectID) (opening : Opening) :
    IndexSound sha256Hex (locker.openLedger sha256Hex subjectID opening) := by
  intro other ledger digest index hledger hfound
  rw [entries_openLedger]
  cases opening with
  | failed err directoryLeft =>
    rw [ledgers_openLedger_failed] at hledger
    exact hsound other ledger digest index hledger hfound
  | opened fetched =>
    rw [ledgers_openLedger_opened] at hledger
    by_cases heq : other = subjectID
    · subst heq
      rw [Function.update_self, Option.some.injEq] at hledger
      subst hledger
      exact getElem?_of_verifyDigest_newLedger sha256Hex hfound
    · rw [Function.update_of_ne heq] at hledger
      exact hsound other ledger digest index hledger hfound

end

theorem indexSound_openExistingLedgers (locker : Locker)
    (opening : SubjectID → Opening) :
    IndexSound sha256Hex
      (locker.openExistingLedgers sha256Hex opening) := by
  intro subjectID ledger digest index hledger hfound
  obtain ⟨log, fetched, hlog, -, rfl⟩ :=
    ledgers_openExistingLedgers_eq_some sha256Hex locker hledger
  obtain ⟨entry, hentry, hdigest⟩ :=
    getElem?_of_verifyDigest_newLedger sha256Hex hfound
  refine ⟨entry, ?_, hdigest⟩
  rw [entries_openExistingLedgers, Locker.entries, hlog]
  exact hentry

end Lemmas

end ComplyTime.Ledgers
