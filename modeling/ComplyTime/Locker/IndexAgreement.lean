import ComplyTime.Locker.Rebuild

/-!
# Live and rebuilt digest indexes

A ledger's index is kept in two ways: `Seal` records the position of each new
entry, and a restart scans the log from the beginning.  Both keep the last
position of a digest.  The runs below create ledgers, seal into them, one call
after the other, and restart the locker; every rebuild in them is complete.
-/

namespace ComplyTime.Rebuild

open DigestIndex Ledgers Subjects TileLayout TransitionSystem

/-- What the locker is asked to do. -/
inductive LockerCall
  | create (subjectID : SubjectID) (calls : OpeningCalls)
  | sealReceipt (subjectID : SubjectID) (entry : Entry)
  | restart (calls : SubjectID → OpeningCalls)

variable {log : List Entry}

section Runs

variable (sha256Hex : Bytes → String)
  (unmarshalText : Bytes → Except GoError (List Bytes))

/-- The opening that `NewLedger` amounts to for the locker. -/
def OpeningCalls.opening (calls : OpeningCalls) : Opening :=
  match calls.prepared with
  | .error err => .failed err false
  | .ok () => .opened (rebuildDigestIndex sha256Hex unmarshalText calls).fetched

/-- A successful `Seal`: the append and the update of the index. -/
def sealEntry (locker : Locker) (subjectID : SubjectID) (entry : Entry) :
    Locker :=
  (locker.add subjectID entry).record subjectID (sha256Hex entry.data)
    (locker.entries subjectID).length

/-- One call.  Only an open ledger can be sealed into. -/
def lockerStep (locker : Locker) : LockerCall → Option Locker
  | .create subjectID calls =>
    some (locker.createLedger sha256Hex subjectID
      (calls.opening sha256Hex unmarshalText)).1
  | .sealReceipt subjectID entry =>
    if (locker.ledgers subjectID).isSome then
      some (sealEntry sha256Hex locker subjectID entry)
    else none
  | .restart calls =>
    some (locker.openExistingLedgers sha256Hex fun subjectID =>
      (calls subjectID).opening sha256Hex unmarshalText)

/-- The reader is honest, all of the log is integrated, and the rebuild ends
without an error. -/
structure OpeningCalls.Complete (log : List Entry) (calls : OpeningCalls) :
    Prop where
  honest : calls.Honest unmarshalText log
  integrated : calls.integratedSize = .ok log.length
  finished : (rebuildDigestIndex sha256Hex unmarshalText calls).err = none

/-- Every ledger that the call opens is rebuilt completely. -/
def CompleteRebuilds (locker : Locker) : LockerCall → Prop
  | .create subjectID calls =>
    calls.Complete sha256Hex unmarshalText (locker.entries subjectID)
  | .sealReceipt _ _ => True
  | .restart calls => ∀ subjectID log, locker.logs subjectID = some log →
      (calls subjectID).Complete sha256Hex unmarshalText log

variable {sha256Hex unmarshalText}

variable {calls : OpeningCalls} {locker : Locker} {subjectID : SubjectID}

section

variable (hcomplete : calls.Complete sha256Hex unmarshalText log)

include hcomplete

theorem OpeningCalls.Complete.fetched :
    (rebuildDigestIndex sha256Hex unmarshalText calls).fetched =
      log.length := by
  have hfetched := fetched_of_complete hcomplete.honest hcomplete.finished
  rw [hcomplete.integrated] at hfetched
  exact (Except.ok.inj hfetched).symm

theorem OpeningCalls.Complete.digestIndex :
    (rebuildDigestIndex sha256Hex unmarshalText calls).digestIndex =
      scan (fun entry => sha256Hex entry.data) log := by
  rw [digestIndex_rebuildDigestIndex hcomplete.honest, hcomplete.fetched,
    Ledgers.rebuildDigestIndex, List.take_length]

theorem digestIndex_newLedger_of_complete {fetched : ℕ}
    (hopening : calls.opening sha256Hex unmarshalText = .opened fetched) :
    (Ledgers.newLedger sha256Hex log fetched).digestIndex =
      scan (fun entry => sha256Hex entry.data) log := by
  have hlength : fetched = log.length := by
    unfold OpeningCalls.opening at hopening
    split at hopening
    · cases hopening
    · rw [← Opening.opened.inj hopening]
      exact hcomplete.fetched
  rw [hlength, Ledgers.newLedger, Ledgers.rebuildDigestIndex, List.take_length]

end

variable (sha256Hex) in
/-- Every open ledger has the index that a full scan of its log computes. -/
def Agrees (locker : Locker) : Prop :=
  ∀ subjectID ledger, locker.ledgers subjectID = some ledger →
    ledger.digestIndex =
      scan (fun entry => sha256Hex entry.data) (locker.entries subjectID)

section

variable (hagrees : Agrees sha256Hex locker)

include hagrees

theorem agrees_sealEntry (subjectID : SubjectID) (entry : Entry) :
    Agrees sha256Hex (sealEntry sha256Hex locker subjectID entry) := by
  intro other ledger hledger
  by_cases hother : other = subjectID
  · subst hother
    simp only [sealEntry, Locker.record, ledgers_add, Function.update_self,
      Option.map_eq_some_iff] at hledger
    obtain ⟨before, hbefore, rfl⟩ := hledger
    rw [sealEntry, entries_record, entries_add_self, scan_append_singleton,
      ← hagrees other before hbefore]
  · rw [sealEntry, entries_record, entries_add_of_ne locker entry hother]
    apply hagrees other ledger
    simpa [sealEntry, Locker.record, hother] using hledger

theorem agrees_openLedger (hcomplete : calls.Complete sha256Hex unmarshalText
      (locker.entries subjectID)) :
    Agrees sha256Hex (locker.openLedger sha256Hex subjectID
      (calls.opening sha256Hex unmarshalText)) := by
  intro other ledger hledger
  rw [entries_openLedger]
  cases hopening : calls.opening sha256Hex unmarshalText with
  | failed err directoryLeft =>
    rw [hopening, ledgers_openLedger_failed] at hledger
    exact hagrees other ledger hledger
  | opened fetched =>
    rw [hopening, ledgers_openLedger_opened] at hledger
    by_cases hother : other = subjectID
    · subst hother
      rw [Function.update_self, Option.some.injEq] at hledger
      rw [← hledger]
      exact digestIndex_newLedger_of_complete hcomplete hopening
    · rw [Function.update_of_ne hother] at hledger
      exact hagrees other ledger hledger

theorem agrees_createLedger (hcomplete : calls.Complete sha256Hex unmarshalText
      (locker.entries subjectID)) :
    Agrees sha256Hex (locker.createLedger sha256Hex subjectID
      (calls.opening sha256Hex unmarshalText)).1 := by
  have hopened := agrees_openLedger hagrees hcomplete
  unfold Locker.createLedger
  split
  · exact hagrees
  · split
    · exact hagrees
    · split
      · rename_i hopening
        rwa [hopening] at hopened
      · rename_i hopening
        rwa [hopening] at hopened

end

theorem agrees_openExistingLedgers {calls : SubjectID → OpeningCalls}
    (hcomplete : ∀ subjectID log, locker.logs subjectID = some log →
      (calls subjectID).Complete sha256Hex unmarshalText log) :
    Agrees sha256Hex (locker.openExistingLedgers sha256Hex fun subjectID =>
      (calls subjectID).opening sha256Hex unmarshalText) := by
  intro subjectID ledger hledger
  obtain ⟨log, fetched, hlog, hopening, rfl⟩ :=
    ledgers_openExistingLedgers_eq_some sha256Hex locker hledger
  rw [entries_openExistingLedgers, Locker.entries, hlog, Option.getD_some]
  exact digestIndex_newLedger_of_complete (hcomplete subjectID log hlog)
    hopening

/-- Every call keeps the indexes equal to full scans. -/
theorem agrees_step {locker next : Locker} {call : LockerCall}
    (hagrees : Agrees sha256Hex locker)
    (hcomplete : CompleteRebuilds sha256Hex unmarshalText locker call)
    (hstep : lockerStep sha256Hex unmarshalText locker call = some next) :
    Agrees sha256Hex next := by
  cases call with
  | create subjectID calls =>
    obtain rfl := Option.some.inj hstep
    exact agrees_createLedger hagrees hcomplete
  | sealReceipt subjectID entry =>
    obtain ⟨-, hnext⟩ := Option.ite_none_right_eq_some.mp hstep
    obtain rfl := Option.some.inj hnext
    exact agrees_sealEntry hagrees subjectID entry
  | restart calls =>
    obtain rfl := Option.some.inj hstep
    exact agrees_openExistingLedgers hcomplete

theorem agrees_of_reaches (hreach : Reaches (lockerStep sha256Hex unmarshalText)
      (CompleteRebuilds sha256Hex unmarshalText) newLocker locker) :
    Agrees sha256Hex locker := by
  apply hreach.invariant
  · intro subjectID ledger hledger
    cases hledger
  · intro before call next hagrees hcomplete hstep
    exact agrees_step hagrees hcomplete hstep

/-- Sealing one entry after the other is a run. -/
theorem reaches_sealEntries {start locker : Locker}
    (hreach : Reaches (lockerStep sha256Hex unmarshalText)
      (CompleteRebuilds sha256Hex unmarshalText) start locker)
    (hopen : (locker.ledgers subjectID).isSome) (entries : List Entry) :
    Reaches (lockerStep sha256Hex unmarshalText)
      (CompleteRebuilds sha256Hex unmarshalText) start
      (entries.foldl (fun locker entry =>
        sealEntry sha256Hex locker subjectID entry) locker) := by
  induction entries generalizing locker with
  | nil => exact hreach
  | cons entry entries ih =>
    have hguard : CompleteRebuilds sha256Hex unmarshalText locker
        (.sealReceipt subjectID entry) := trivial
    apply ih
    · exact hreach.tail hguard (if_pos hopen)
    · simpa [sealEntry] using hopen

/-- In every run, the index of an open ledger is what a complete rebuild
computes.  It finds exactly the digests of the log's entries, points at entries
of the digest asked for, and answers the same after a restart. -/
theorem live_index_agrees {locker : Locker} {subjectID : SubjectID}
    {ledger : Ledger}
    (hreach : Reaches (lockerStep sha256Hex unmarshalText)
      (CompleteRebuilds sha256Hex unmarshalText) newLocker locker)
    (hledger : locker.ledgers subjectID = some ledger) :
    (∀ calls : OpeningCalls,
      calls.Complete sha256Hex unmarshalText (locker.entries subjectID) →
        (rebuildDigestIndex sha256Hex unmarshalText calls).digestIndex =
          ledger.digestIndex ∧
        ∀ reopened,
          newLedger sha256Hex unmarshalText calls = .ok reopened →
            ∀ digest,
              reopened.verifyDigest digest = ledger.verifyDigest digest) ∧
    (∀ digest, (ledger.verifyDigest digest).isSome ↔
      ∃ entry ∈ locker.entries subjectID, sha256Hex entry.data = digest) ∧
    ∀ digest index, ledger.verifyDigest digest = some index →
      ∃ entry, (locker.entries subjectID)[index]? = some entry ∧
        sha256Hex entry.data = digest := by
  have hagrees := agrees_of_reaches hreach subjectID ledger hledger
  refine ⟨?_, ?_, ?_⟩
  · intro calls hcomplete
    have hindex := hcomplete.digestIndex.trans hagrees.symm
    refine ⟨hindex, ?_⟩
    intro reopened hopened digest
    unfold newLedger at hopened
    split at hopened
    · cases hopened
    · rw [← Except.ok.inj hopened]
      exact congrFun hindex digest
  · intro digest
    rw [Ledger.verifyDigest, hagrees]
    exact isSome_scan_iff fun entry : Entry => sha256Hex entry.data
  · intro digest index hfound
    rw [Ledger.verifyDigest, hagrees] at hfound
    exact getElem?_of_scan_eq_some
      (fun entry : Entry => sha256Hex entry.data) hfound

end Runs

/-! ## A repeated receipt -/

/-- Three entries, the last of them equal to the first. -/
def repeatedLog : List Entry :=
  [⟨[1], .worker⟩, ⟨[2], .worker⟩, ⟨[1], .worker⟩]

theorem complete_sampleOpening {reached : ℕ}
    (hsizes : ∀ entry ∈ log, entry.data.length < 65536)
    (hfinished : (rebuildDigestIndex sha256Hex unmarshalBundle
      (sampleOpening log reached)).err = none) :
    (sampleOpening log reached).Complete sha256Hex unmarshalBundle log :=
  ⟨honest_sampleOpening reached hsizes, rfl, hfinished⟩

/-- The locker in which the three entries have been sealed. -/
def repeatedLocker : Locker :=
  repeatedLog.foldl (fun locker entry =>
      sealEntry sha256Hex locker "payments" entry)
    (newLocker.createLedger sha256Hex "payments"
      ((sampleOpening [] 0).opening sha256Hex unmarshalBundle)).1

theorem reaches_repeatedLocker :
    Reaches (lockerStep sha256Hex unmarshalBundle)
      (CompleteRebuilds sha256Hex unmarshalBundle) newLocker
      repeatedLocker := by
  apply reaches_sealEntries
  · have hcreate : CompleteRebuilds sha256Hex unmarshalBundle newLocker
        (.create "payments" (sampleOpening [] 0)) :=
      complete_sampleOpening (by decide) rfl
    exact Reaches.tail .refl hcreate rfl
  · rfl

/-- The index that points at the last of the equal entries is the one a
rebuild computes, and a restart finds both digests again. -/
theorem repeated_receipt_agrees :
    ∃ ledger reopened,
      repeatedLocker.ledgers "payments" = some ledger ∧
      newLedger sha256Hex unmarshalBundle (sampleOpening repeatedLog 3) =
        .ok reopened ∧
      reopened.verifyDigest (sha256Hex [1]) =
        ledger.verifyDigest (sha256Hex [1]) ∧
      (ledger.verifyDigest (sha256Hex [2])).isSome := by
  obtain ⟨ledger, hledger⟩ : ∃ ledger,
      repeatedLocker.ledgers "payments" = some ledger := ⟨_, rfl⟩
  obtain ⟨hrebuilt, hknown, -⟩ :=
    live_index_agrees reaches_repeatedLocker hledger
  refine ⟨ledger, _, hledger, rfl, ?_⟩
  constructor
  · exact (hrebuilt (sampleOpening repeatedLog 3)
      (complete_sampleOpening (by decide) rfl)).2 _ rfl _
  · apply (hknown (sha256Hex [2])).mpr
    exact ⟨⟨[2], .worker⟩, by decide, rfl⟩

end ComplyTime.Rebuild
