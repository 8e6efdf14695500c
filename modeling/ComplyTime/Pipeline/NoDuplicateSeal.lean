import ComplyTime.Pipeline.Consistency

/-!
# No receipt is sealed twice

The worker checks the digest index and then appends; the index is lost at every
crash and rebuilt from the log.  As long as each rebuild that runs reads the
whole log, the receipts the worker has appended to one ledger are pairwise
different, and each is the receipt of a delivered message.  The invariant has
to cover the window between `Add` and the index update: there, and only there,
one appended receipt is missing from the index.
-/

namespace ComplyTime.Pipeline

open TransitionSystem WorkQueue Subjects Ledgers Worker AdminSubscriber
open GatewayAdmin Trust

/-- The receipts the worker appended to a subject's ledger, in log order. -/
def workerReceipts (locker : Locker) (subjectID : SubjectID) : List Bytes :=
  ((locker.entries subjectID).filter fun entry =>
    decide (entry.sealer = .worker)).map Entry.data

/-- Some delivered message of the subject carries exactly these bytes. -/
def DeliveredReceipt (queue : Queue (Option IngestRef)) (subjectID : SubjectID)
    (receipt : Bytes) : Prop :=
  ∃ (sequence : ℕ) (message : Message (Option IngestRef)) (ref : IngestRef),
    queue[sequence]? = some message ∧ 0 < message.deliveries ∧
    message.payload = some ref ∧
    ref.subjectID = subjectID ∧ ref.receiptBytes = receipt

/-- Every rebuild of a digest index that runs, at a restart or when
`CreateLedger` opens an existing directory, reads the whole log.  A restart may
still fail to open a ledger. -/
def RebuildsComplete (system : System) : Action → Prop
  | .restart opening => ∀ subjectID fetched,
      opening subjectID = .opened fetched →
        (system.locker.entries subjectID).length ≤ fetched
  | .admin id (.acquire (.opened fetched)) => ∀ request,
      system.requests id = some request →
        system.locker.ledgers (natsRequest request.call).subjectID = none →
          (system.locker.entries
            (natsRequest request.call).subjectID).length ≤ fetched
  | _ => True

variable {subjectID : SubjectID} {receipt : Bytes}

/-! ## The worker's receipts under each effect -/

section Receipts

variable (locker : Locker)

@[simp]
theorem workerReceipts_add_admin (subjectID other : SubjectID)
    (receipt : Bytes) (id : ℕ) :
    workerReceipts (locker.add subjectID ⟨receipt, .admin id⟩) other =
      workerReceipts locker other := by
  unfold workerReceipts
  by_cases heq : other = subjectID
  · subst heq
    simp
  · rw [entries_add_of_ne locker _ heq]

theorem workerReceipts_add_self (subjectID : SubjectID) (receipt : Bytes) :
    workerReceipts (locker.add subjectID ⟨receipt, .worker⟩) subjectID =
      workerReceipts locker subjectID ++ [receipt] := by
  simp [workerReceipts]

theorem workerReceipts_add_of_ne {subjectID other : SubjectID}
    (entry : Entry) (hne : other ≠ subjectID) :
    workerReceipts (locker.add subjectID entry) other =
      workerReceipts locker other := by
  unfold workerReceipts
  rw [entries_add_of_ne locker entry hne]

@[simp]
theorem workerReceipts_record (subjectID other : SubjectID) (digest : String)
    (index : ℕ) :
    workerReceipts (locker.record subjectID digest index) other =
      workerReceipts locker other := rfl

@[simp]
theorem workerReceipts_openLedger (sha256Hex : Bytes → String)
    (subjectID other : SubjectID) (opening : Opening) :
    workerReceipts (locker.openLedger sha256Hex subjectID opening) other =
      workerReceipts locker other := by
  simp [workerReceipts]

variable {locker}

theorem exists_entry_of_mem_workerReceipts
    (hmem : receipt ∈ workerReceipts locker subjectID) :
    ∃ entry ∈ locker.entries subjectID, entry.data = receipt := by
  obtain ⟨entry, hentry, hdata⟩ := List.mem_map.mp hmem
  exact ⟨entry, (List.mem_filter.mp hentry).1, hdata⟩

end Receipts

/-! ## Completeness of the digest index -/

/-- Every receipt of the worker is known to the subject's ledger if that is
open, except for the receipts in `pending`. -/
def Indexed (env : Environment) (locker : Locker)
    (pending : SubjectID → Bytes → Prop) : Prop :=
  ∀ subjectID ledger, locker.ledgers subjectID = some ledger →
    ∀ receipt ∈ workerReceipts locker subjectID,
      (ledger.verifyDigest (env.sha256Hex receipt)).isSome ∨
        pending subjectID receipt

/-- The receipt between `Add` and the index update. -/
def pendingReceipt : WorkerState → SubjectID → Bytes → Prop
  | .indexing _ ref _, subjectID, receipt =>
    ref.subjectID = subjectID ∧ ref.receiptBytes = receipt
  | _, _, _ => False

section Completeness

variable {env : Environment} {locker : Locker}
variable {pending : SubjectID → Bytes → Prop}

theorem Indexed.add_admin (hindexed : Indexed env locker pending)
    (subjectID : SubjectID) (receipt : Bytes) (id : ℕ) :
    Indexed env (locker.add subjectID ⟨receipt, .admin id⟩) pending := by
  intro other ledger hledger known hknown
  rw [workerReceipts_add_admin] at hknown
  exact hindexed other ledger hledger known hknown

theorem Indexed.add_worker (hindexed : Indexed env locker fun _ _ => False)
    (subjectID : SubjectID) (receipt : Bytes) :
    Indexed env (locker.add subjectID ⟨receipt, .worker⟩)
      fun other known => subjectID = other ∧ receipt = known := by
  intro other ledger hledger known hknown
  by_cases heq : other = subjectID
  · subst heq
    rw [workerReceipts_add_self, List.mem_append, List.mem_singleton] at hknown
    rcases hknown with hold | rfl
    · exact .inl ((hindexed other ledger hledger known hold).resolve_right id)
    · exact .inr ⟨rfl, rfl⟩
  · rw [workerReceipts_add_of_ne locker _ heq] at hknown
    exact .inl ((hindexed other ledger hledger known hknown).resolve_right id)

theorem Indexed.record (hindexed : Indexed env locker pending)
    (subjectID : SubjectID) (digest : String) (index : ℕ) :
    Indexed env (locker.record subjectID digest index) pending := by
  intro other ledger hledger known hknown
  obtain ⟨old, hold, hkeeps⟩ := exists_ledgers_of_record locker hledger
  exact (hindexed other old hold known hknown).imp_left (hkeeps _)

theorem Indexed.record_pending (hindexed : Indexed env locker
      fun other known => subjectID = other ∧ receipt = known) (index : ℕ) :
    Indexed env (locker.record subjectID (env.sha256Hex receipt) index)
      fun _ _ => False := by
  intro other ledger hledger known hknown
  left
  rcases (hindexed.record subjectID (env.sha256Hex receipt) index)
    other ledger hledger known hknown with hfound | ⟨rfl, rfl⟩
  · exact hfound
  · exact isSome_verifyDigest_record_self locker hledger

theorem isSome_verifyDigest_of_rebuild {fetched : ℕ}
    (hcomplete : (locker.entries subjectID).length ≤ fetched)
    (hmem : receipt ∈ workerReceipts locker subjectID) :
    ((newLedger env.sha256Hex (locker.entries subjectID) fetched).verifyDigest
      (env.sha256Hex receipt)).isSome := by
  obtain ⟨entry, hentry, rfl⟩ := exists_entry_of_mem_workerReceipts hmem
  exact isSome_verifyDigest_newLedger env.sha256Hex hcomplete hentry

theorem Indexed.openLedger (hindexed : Indexed env locker pending)
    {opening : Opening} (hcomplete : ∀ fetched, opening = .opened fetched →
      (locker.entries subjectID).length ≤ fetched) :
    Indexed env (locker.openLedger env.sha256Hex subjectID opening)
      pending := by
  intro other ledger hledger known hknown
  rw [workerReceipts_openLedger] at hknown
  cases opening with
  | failed err directoryLeft =>
    rw [ledgers_openLedger_failed] at hledger
    exact hindexed other ledger hledger known hknown
  | opened fetched =>
    rw [ledgers_openLedger_opened] at hledger
    rcases update_eq_some hledger with ⟨rfl, rfl⟩ | ⟨-, hbefore⟩
    · exact .inl (isSome_verifyDigest_of_rebuild (hcomplete fetched rfl)
        hknown)
    · exact hindexed other ledger hbefore known hknown

theorem indexed_openExistingLedgers {opening : SubjectID → Opening}
    (hcomplete : ∀ subjectID fetched, opening subjectID = .opened fetched →
      (locker.entries subjectID).length ≤ fetched) :
    Indexed env (locker.openExistingLedgers env.sha256Hex opening)
      fun _ _ => False := by
  intro subjectID ledger hledger known hknown
  left
  obtain ⟨log, fetched, hlog, hopening, rfl⟩ :=
    ledgers_openExistingLedgers_eq_some env.sha256Hex locker hledger
  have hentries : locker.entries subjectID = log := by
    rw [Locker.entries, hlog]
    rfl
  rw [← hentries]
  exact isSome_verifyDigest_of_rebuild (hcomplete subjectID fetched hopening)
    hknown

theorem Indexed.mono {weaker : SubjectID → Bytes → Prop}
    (hindexed : Indexed env locker pending)
    (hweaker : ∀ subjectID receipt, pending subjectID receipt →
      weaker subjectID receipt) : Indexed env locker weaker :=
  fun subjectID ledger hledger receipt hreceipt =>
    (hindexed subjectID ledger hledger receipt hreceipt).imp_right
      (hweaker subjectID receipt)

end Completeness

/-! ## The invariant and its steps -/

structure SealOnce (env : Environment) (system : System) : Prop where
  origin : ∀ subjectID, ∀ receipt ∈ workerReceipts system.locker subjectID,
    DeliveredReceipt system.queue subjectID receipt
  unique : ∀ subjectID, (workerReceipts system.locker subjectID).Nodup
  indexed : Indexed env system.locker (pendingReceipt system.worker)
  fresh : ∀ sequence ref, system.worker = .sealing sequence ref →
    ref.receiptBytes ∉ workerReceipts system.locker ref.subjectID

section Steps

variable {env : Environment} {system next : System}

theorem DeliveredReceipt.mono {queue later : Queue (Option IngestRef)}
    (hdelivered : DeliveredReceipt queue subjectID receipt)
    (hextends : Extends queue later) :
    DeliveredReceipt later subjectID receipt := by
  obtain ⟨sequence, message, ref, hmessage, hcount, hpayload, href⟩ :=
    hdelivered
  obtain ⟨kept, hkept, hsame, -, hmore⟩ := hextends sequence message hmessage
  exact ⟨sequence, kept, ref, hkept, Nat.lt_of_lt_of_le hcount hmore,
    hsame.trans hpayload, href⟩

section

variable (hinv : SealOnce env system)

include hinv

/-- A step that appends nothing for the worker and keeps the index complete. -/
theorem SealOnce.frame
    (hreceipts : ∀ subjectID, workerReceipts next.locker subjectID =
      workerReceipts system.locker subjectID)
    (hextends : Extends system.queue next.queue)
    (hindexed : Indexed env next.locker (pendingReceipt next.worker))
    (hfresh : ∀ sequence ref, next.worker = .sealing sequence ref →
      ref.receiptBytes ∉ workerReceipts system.locker ref.subjectID) :
    SealOnce env next where
  origin := by
    intro subjectID receipt hmem
    rw [hreceipts] at hmem
    exact (hinv.origin subjectID receipt hmem).mono hextends
  unique := fun subjectID => hreceipts subjectID ▸ hinv.unique subjectID
  indexed := hindexed
  fresh := fun sequence ref hworker => by
    rw [hreceipts]
    exact hfresh sequence ref hworker

/-- A worker step outside the append window that leaves the locker alone. -/
theorem SealOnce.quiet (hlocker : next.locker = system.locker)
    (hextends : Extends system.queue next.queue) (hclosed : ∀ subjectID receipt,
      ¬ pendingReceipt system.worker subjectID receipt)
    (hfresh : ∀ sequence ref, next.worker = .sealing sequence ref →
      ref.receiptBytes ∉ workerReceipts system.locker ref.subjectID) :
    SealOnce env next := by
  refine hinv.frame (fun _ => by rw [hlocker]) hextends ?_ hfresh
  rw [hlocker]
  exact hinv.indexed.mono fun subjectID receipt hpending =>
    absurd hpending (hclosed subjectID receipt)

/-- The append itself: the receipt is new, and it is the pending one after. -/
theorem sealOnce_added {sequence : ℕ} {ref : IngestRef}
    (hknown : Consistent env system)
    (hworker : system.worker = .sealing sequence ref) :
    SealOnce env (system.workerAdd sequence ref none) where
  origin := by
    intro subjectID receipt hmem
    by_cases heq : subjectID = ref.subjectID
    · subst heq
      simp only [System.workerAdd, workerReceipts_add_self, List.mem_append,
        List.mem_singleton] at hmem
      rcases hmem with hold | rfl
      · exact hinv.origin ref.subjectID receipt hold
      · obtain ⟨message, hmessage, hcount, hpayload⟩ :=
          hknown.held sequence (by rw [hworker]; rfl)
        exact ⟨sequence, message, ref, hmessage, hcount,
          hpayload ref (by rw [hworker]; rfl), rfl, rfl⟩
    · simp only [System.workerAdd] at hmem
      rw [workerReceipts_add_of_ne _ _ heq] at hmem
      exact hinv.origin subjectID receipt hmem
  unique := by
    intro subjectID
    by_cases heq : subjectID = ref.subjectID
    · subst heq
      simp only [System.workerAdd, workerReceipts_add_self]
      have hfresh := hinv.fresh sequence ref hworker
      rw [List.nodup_append]
      refine ⟨hinv.unique ref.subjectID, by simp, ?_⟩
      intro receipt hmem other hother
      obtain rfl := List.mem_singleton.mp hother
      rintro rfl
      exact hfresh hmem
    · simp only [System.workerAdd]
      rw [workerReceipts_add_of_ne _ _ heq]
      exact hinv.unique subjectID
  indexed := by
    have hcomplete : Indexed env system.locker fun _ _ => False := by
      have hindexed := hinv.indexed
      rwa [hworker] at hindexed
    exact hcomplete.add_worker ref.subjectID ref.receiptBytes
  fresh := by
    intro other held hstate
    simp [System.workerAdd] at hstate

theorem sealOnce_worker {event : WorkerEvent} (hknown : Consistent env system)
    (htransition : WorkerTransition env system event next) :
    SealOnce env next := by
  cases htransition with
  | malformed hworker hmessage hpayload =>
    exact hinv.quiet rfl (extends_answer _ _ _ _)
      (by simp [hworker, pendingReceipt]) (by simp)
  | missing hworker hmessage hpayload hledger =>
    exact hinv.quiet rfl (extends_reject _ _ _ _ _)
      (by simp [hworker, pendingReceipt]) (by simp [System.reject])
  | found hworker hmessage hpayload hledger =>
    exact hinv.quiet rfl (.refl _) (by simp [hworker, pendingReceipt])
      (by simp)
  | known hworker hledger hfound =>
    exact hinv.quiet rfl (.refl _) (by simp [hworker, pendingReceipt])
      (by simp)
  | @unknown sequence ref hworker hunknown =>
    refine hinv.quiet rfl (.refl _) (by simp [hworker, pendingReceipt]) ?_
    intro other held hstate hmem
    obtain ⟨-, rfl⟩ : sequence = other ∧ ref = held := by simpa using hstate
    obtain ⟨ledger, hledger⟩ := Option.isSome_iff_exists.mp
      (hknown.holdsOpen sequence ref (by rw [hworker]; rfl))
    have hindexed := hinv.indexed ref.subjectID ledger hledger _ hmem
    simp [hunknown ledger hledger, hworker, pendingReceipt] at hindexed
  | addFailed hworker =>
    exact hinv.quiet rfl (extends_reject _ _ _ _ _)
      (by simp [hworker, pendingReceipt]) (by simp [System.reject])
  | added hworker => exact sealOnce_added hinv hknown hworker
  | @indexed sequence ref index hworker =>
    have hpending : Indexed env system.locker fun subjectID receipt =>
        ref.subjectID = subjectID ∧ ref.receiptBytes = receipt := by
      have hindexed := hinv.indexed
      rwa [hworker] at hindexed
    exact hinv.frame (fun _ => rfl) (.refl _)
      (hpending.record_pending index) (by simp [System.workerIndex])
  | published hworker =>
    exact hinv.quiet rfl (.refl _) (by simp [hworker, pendingReceipt])
      (by simp [System.workerPublish])
  | acked hworker =>
    exact hinv.quiet rfl (extends_answer _ _ _ _)
      (by simp [hworker, pendingReceipt]) (by simp [System.workerAck])

theorem sealOnce_admin {id : ℕ} {event : AdminEvent} {request : Request}
    (hrequest : system.requests id = some request)
    (hguard : RebuildsComplete system (.admin id event))
    (htransition : AdminTransition env system id request event next) :
    SealOnce env next := by
  cases htransition with
  | received hstage =>
    exact hinv.frame (fun _ => rfl) (.refl _) hinv.indexed hinv.fresh
  | lost hstage =>
    exact hinv.frame (fun _ => rfl) (.refl _) hinv.indexed hinv.fresh
  | @acquired opening locker stage hstage hlocker houtcome =>
    rcases hlocker with rfl | ⟨hclosed, rfl⟩
    · exact hinv.frame (fun _ => rfl) (.refl _) hinv.indexed hinv.fresh
    · refine hinv.frame (fun _ => ?_) (.refl _) ?_ hinv.fresh
      · exact workerReceipts_openLedger _ _ _ _ _
      · refine hinv.indexed.openLedger fun fetched hopened => ?_
        subst hopened
        exact hguard request hrequest hclosed
  | addFailed hstage =>
    exact hinv.frame (fun _ => rfl) (.refl _) hinv.indexed hinv.fresh
  | added hstage =>
    exact hinv.frame (fun _ => workerReceipts_add_admin _ _ _ _ _) (.refl _)
      (hinv.indexed.add_admin _ _ _) hinv.fresh
  | indexed hstage =>
    exact hinv.frame (fun _ => rfl) (.refl _) (hinv.indexed.record _ _ _)
      hinv.fresh
  | announced hstage =>
    exact hinv.frame (fun _ => rfl) (.refl _) hinv.indexed hinv.fresh

end

theorem sealOnce_step {action : Action} (hknown : Consistent env system)
    (hinv : SealOnce env system) (hguard : RebuildsComplete system action)
    (hstep : step env system action = some next) : SealOnce env next := by
  cases step_cases hstep with
  | ingested =>
    exact hinv.frame (fun _ => rfl) (extends_publish _ _ _) hinv.indexed
      hinv.fresh
  | delivered hworker hmessage =>
    exact hinv.quiet rfl (extends_deliver hmessage)
      (by simp [hworker, pendingReceipt]) (by simp)
  | worker htransition => exact sealOnce_worker hinv hknown htransition
  | gateway _ htransition =>
    obtain ⟨store, requests, rfl⟩ := htransition.frame
    exact hinv.frame (fun _ => rfl) (.refl _) hinv.indexed hinv.fresh
  | admin hrequest htransition =>
    exact sealOnce_admin hinv hrequest hguard htransition
  | restarted =>
    exact hinv.frame (fun _ => rfl) (.refl _)
      (indexed_openExistingLedgers hguard) (by simp [restartStep])
  | expired =>
    exact hinv.frame (fun _ => rfl) (extends_settle _ _ _) hinv.indexed
      hinv.fresh
  | _ => exact hinv.frame (fun _ => rfl) (.refl _) hinv.indexed hinv.fresh

end Steps

theorem sealOnce_initial (env : Environment) : SealOnce env initial where
  origin := by simp [initial, workerReceipts]
  unique := by simp [initial, workerReceipts]
  indexed := by
    intro subjectID ledger hledger
    simp [initial, newLocker] at hledger
  fresh := by
    intro sequence ref hstate
    simp [initial] at hstate

theorem sealOnce_of_reaches {env : Environment} {system : System}
    (hreach : Reaches (step env) RebuildsComplete initial system) :
    SealOnce env system :=
  hreach.invariant_with (fun _ => consistent_of_reaches)
    (sealOnce_initial env)
    fun _ _ _ hknown hinv hguard hstep => sealOnce_step hknown hinv hguard hstep

/-- In every run in which each index rebuild completes, the receipts the worker
appended to a ledger are pairwise different and each is, byte for byte, the
receipt of a delivered message of that subject. -/
theorem worker_seals_each_receipt_once (env : Environment) {system : System}
    (hreach : Reaches (step env) RebuildsComplete initial system)
    (subjectID : SubjectID) :
    (workerReceipts system.locker subjectID).Nodup ∧
      ∀ receipt ∈ workerReceipts system.locker subjectID,
        DeliveredReceipt system.queue subjectID receipt :=
  ⟨(sealOnce_of_reaches hreach).unique subjectID,
    (sealOnce_of_reaches hreach).origin subjectID⟩

/-- Only the directory of `alpha` opens, and two entries are read. -/
def sampleOpening (subjectID : SubjectID) : Opening :=
  if subjectID = "alpha" then .opened 2 else .failed .canceled false

def sampleCheck (system : System) : Action → Bool
  | .restart _ => decide ((system.locker.entries "alpha").length ≤ 2)
  | .admin id (.acquire (.opened fetched)) =>
    match system.requests id with
    | none => true
    | some request => decide ((system.locker.entries
        (natsRequest request.call).subjectID).length ≤ fetched)
  | _ => true

theorem rebuildsComplete_of_sampleCheck {system : System}
    {action : Action}
    (hrestart : ∀ opening, action = .restart opening → opening = sampleOpening)
    (hcheck : sampleCheck system action = true) :
    RebuildsComplete system action := by
  cases action with
  | restart opening =>
    obtain rfl := hrestart opening rfl
    intro subjectID fetched hopening
    by_cases heq : subjectID = "alpha"
    · subst heq
      obtain rfl : 2 = fetched := by simpa [sampleOpening] using hopening
      simpa [sampleCheck] using hcheck
    · simp [sampleOpening, heq] at hopening
  | admin id event =>
    cases event with
    | acquire opening =>
      cases opening with
      | opened fetched =>
        intro request hrequest _
        simpa [sampleCheck, hrequest] using hcheck
      | failed err directoryLeft => trivial
    | _ => trivial
  | _ => trivial

/-- The sample receipt is appended, the process crashes before it records the
digest, and the redelivered message appends nothing. -/
theorem worker_seals_sample_once :
    ∃ system, Reaches (step sampleEnvironment) RebuildsComplete initial
        system ∧ system.acked = [sampleRef] ∧
      workerReceipts system.locker "alpha" = [sampleRef.receiptBytes] ∧
      (workerReceipts system.locker "alpha").Nodup := by
  have hfinal : ((run (checked (step sampleEnvironment) sampleCheck) initial
      (sampleRegistration ++ sampleSeal ++ [.restart sampleOpening] ++
        sampleSkip)).map fun system =>
          (system.acked, workerReceipts system.locker "alpha")) =
      some ([sampleRef], [sampleRef.receiptBytes]) := by decide
  obtain ⟨system, hrun, hvalues⟩ := Option.map_eq_some_iff.mp hfinal
  obtain ⟨hacked, hreceipts⟩ := Prod.mk.inj hvalues
  have hreach : Reaches (step sampleEnvironment) RebuildsComplete initial
      system := by
    refine Reaches.run_checked .refl (fun before action hmem => ?_) hrun
    apply rebuildsComplete_of_sampleCheck
    rintro opening rfl
    simpa [sampleRegistration, sampleSeal, sampleSkip] using hmem
  exact ⟨system, hreach, hacked, hreceipts,
    (worker_seals_each_receipt_once _ hreach "alpha").1⟩

end ComplyTime.Pipeline
