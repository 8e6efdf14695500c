import ComplyTime.Pipeline.Transitions

/-!
# Facts that hold in every run

Whatever fails, crashes or is lost, the worker holds a message it was given and
a ledger that is open, an index that `Add` returned points at the appended
entry, and a digest the worker takes as already sealed belongs to an entry of
the log.  These facts carry the claims about whole runs.
-/

namespace ComplyTime.Pipeline

open TransitionSystem WorkQueue Subjects Ledgers Worker AdminSubscriber
open GatewayAdmin Trust

/-- The worker's message was delivered and carries the work item it decoded. -/
def Held (queue : Queue (Option IngestRef)) (worker : WorkerState) : Prop :=
  ∀ sequence, worker.sequence? = some sequence →
    ∃ message, queue[sequence]? = some message ∧ 0 < message.deliveries ∧
      ∀ ref, worker.ref? = some (sequence, ref) → message.payload = some ref

/-- The ledger the worker looked up is still open. -/
def HoldsOpen (locker : Locker) (worker : WorkerState) : Prop :=
  ∀ sequence ref, worker.ref? = some (sequence, ref) →
    (locker.ledgers ref.subjectID).isSome

/-- The index the worker got from `Add` is that of its entry. -/
def Appended (locker : Locker) (worker : WorkerState) : Prop :=
  ∀ sequence ref index,
    worker = .indexing sequence ref index ∨
        worker = .publishing sequence ref index →
      (locker.entries ref.subjectID)[index]? = some ⟨ref.receiptBytes, .worker⟩

/-- The same for an admin request. -/
def AdminAppended (locker : Locker) (requests : ℕ → Option Request) : Prop :=
  ∀ id request receipt index, requests id = some request →
    request.locker = .indexing receipt index →
      (locker.entries (natsRequest request.call).subjectID)[index]? =
        some ⟨receipt, .admin id⟩

/-- An entry of the subject's ledger has the digest of the receipt. -/
def Sealed (env : Environment) (locker : Locker) (ref : IngestRef) : Prop :=
  ∃ entry ∈ locker.entries ref.subjectID,
    env.sha256Hex entry.data = env.sha256Hex ref.receiptBytes

/-- A work item on its way to an acknowledgement is sealed. -/
def SealedBeforeAck (env : Environment) (locker : Locker)
    (worker : WorkerState) : Prop :=
  ∀ sequence ref, worker = .acking sequence ref → Sealed env locker ref

structure Consistent (env : Environment) (system : System) : Prop where
  held : Held system.queue system.worker
  holdsOpen : HoldsOpen system.locker system.worker
  appended : Appended system.locker system.worker
  adminAppended : AdminAppended system.locker system.requests
  indexSound : IndexSound env.sha256Hex system.locker
  sealedBeforeAck : SealedBeforeAck env system.locker system.worker
  acked : ∀ ref ∈ system.acked, Sealed env system.locker ref

variable {ref : IngestRef}

/-! ## Each fact survives growth of what it speaks about -/

section Growth

variable {env : Environment} {locker next : Locker}
variable {queue later : Queue (Option IngestRef)} {worker : WorkerState}

theorem Held.mono (hheld : Held queue worker) (hextends : Extends queue later) :
    Held later worker := by
  intro sequence hsequence
  obtain ⟨message, hmessage, hcount, hpayload⟩ := hheld sequence hsequence
  obtain ⟨kept, hkept, hsame, -, hmore⟩ := hextends sequence message hmessage
  refine ⟨kept, hkept, Nat.lt_of_lt_of_le hcount hmore, fun ref href => ?_⟩
  rw [hsame, hpayload ref href]

theorem held_idle (queue : Queue (Option IngestRef)) : Held queue .idle := by
  intro sequence hsequence
  simp [WorkerState.sequence?] at hsequence

theorem HoldsOpen.mono (hopen : HoldsOpen locker worker)
    (hgrows : Grows locker next) : HoldsOpen next worker :=
  fun sequence ref href => hgrows.ledgers _ (hopen sequence ref href)

theorem holdsOpen_idle (locker : Locker) : HoldsOpen locker .idle := by
  intro sequence ref href
  simp [WorkerState.ref?] at href

theorem Appended.mono (happended : Appended locker worker)
    (hgrows : Grows locker next) : Appended next worker :=
  fun sequence ref index hworker =>
    hgrows.getElem? (happended sequence ref index hworker)

variable {requests : ℕ → Option Request}

theorem AdminAppended.mono (happended : AdminAppended locker requests)
    (hgrows : Grows locker next) : AdminAppended next requests :=
  fun id request receipt index hrequest hstage =>
    hgrows.getElem? (happended id request receipt index hrequest hstage)

theorem Sealed.mono (hsealed : Sealed env locker ref)
    (hgrows : Grows locker next) : Sealed env next ref := by
  obtain ⟨entry, hentry, hdigest⟩ := hsealed
  exact ⟨entry, (hgrows.entries ref.subjectID).subset hentry, hdigest⟩

theorem SealedBeforeAck.mono (hsealed : SealedBeforeAck env locker worker)
    (hgrows : Grows locker next) : SealedBeforeAck env next worker :=
  fun sequence ref hworker => (hsealed sequence ref hworker).mono hgrows

/-- An entry at a known index seals the receipt it holds. -/
theorem sealed_of_getElem? {index : ℕ} {entry : Entry}
    (hentry : (locker.entries ref.subjectID)[index]? = some entry)
    (hdigest : env.sha256Hex entry.data = env.sha256Hex ref.receiptBytes) :
    Sealed env locker ref :=
  ⟨entry, List.mem_of_getElem? hentry, hdigest⟩

theorem appended_iff :
    Appended locker worker ↔
      match worker with
      | .indexing _ ref index | .publishing _ ref index =>
        (locker.entries ref.subjectID)[index]? =
          some ⟨ref.receiptBytes, .worker⟩
      | _ => True := by
  cases worker <;> simp [Appended]

theorem sealedBeforeAck_iff :
    SealedBeforeAck env locker worker ↔
      match worker with
      | .acking _ ref => Sealed env locker ref
      | _ => True := by
  cases worker <;> simp [SealedBeforeAck]

theorem AdminAppended.update (happended : AdminAppended locker requests)
    (id : ℕ) {after : Request}
    (hafter : ∀ receipt index, after.locker = .indexing receipt index →
      (locker.entries (natsRequest after.call).subjectID)[index]? =
        some ⟨receipt, .admin id⟩) :
    AdminAppended locker (Function.update requests id (some after)) := by
  intro other request receipt index hrequest hstage
  rcases update_eq_some hrequest with ⟨rfl, rfl⟩ | ⟨-, hbefore⟩
  · exact hafter receipt index hstage
  · exact happended other request receipt index hbefore hstage

end Growth

/-! ## One step -/

section Step

variable {env : Environment} {system next : System}

section

variable (hinv : Consistent env system)

include hinv

/-- The facts survive a step that leaves the worker where it is. -/
theorem Consistent.frame (hgrows : Grows system.locker next.locker)
    (hsound : IndexSound env.sha256Hex next.locker)
    (hextends : Extends system.queue next.queue)
    (hworker : next.worker = system.worker) (hacked : next.acked = system.acked)
    (hadmin : AdminAppended next.locker next.requests) :
    Consistent env next where
  held := hworker ▸ hinv.held.mono hextends
  holdsOpen := hworker ▸ hinv.holdsOpen.mono hgrows
  appended := hworker ▸ hinv.appended.mono hgrows
  adminAppended := hadmin
  indexSound := hsound
  sealedBeforeAck := hworker ▸ hinv.sealedBeforeAck.mono hgrows
  acked := fun ref href => (hinv.acked ref (hacked ▸ href)).mono hgrows

/-- The facts survive a step in which the worker keeps its work item. -/
theorem Consistent.advance (hgrows : Grows system.locker next.locker)
    (hsound : IndexSound env.sha256Hex next.locker)
    (hqueue : next.queue = system.queue)
    (hsequence : next.worker.sequence? = system.worker.sequence?)
    (href : next.worker.ref? = system.worker.ref?)
    (hrequests : next.requests = system.requests)
    (hacked : next.acked = system.acked)
    (happended : Appended next.locker next.worker)
    (hsealed : SealedBeforeAck env next.locker next.worker) :
    Consistent env next where
  held := by
    unfold Held
    rw [hqueue, hsequence, href]
    exact hinv.held
  holdsOpen := by
    unfold HoldsOpen
    rw [href]
    exact hinv.holdsOpen.mono hgrows
  appended := happended
  adminAppended := hrequests ▸ hinv.adminAppended.mono hgrows
  indexSound := hsound
  sealedBeforeAck := hsealed
  acked := fun ref hmem => (hinv.acked ref (hacked ▸ hmem)).mono hgrows

/-- The facts survive a step after which the worker is idle. -/
theorem Consistent.idle (hlocker : next.locker = system.locker)
    (hworker : next.worker = .idle)
    (hrequests : next.requests = system.requests)
    (hacked : ∀ ref ∈ next.acked, Sealed env next.locker ref) :
    Consistent env next where
  held := hworker ▸ held_idle next.queue
  holdsOpen := hworker ▸ holdsOpen_idle next.locker
  appended := hworker ▸ appended_iff.mpr trivial
  adminAppended := by
    rw [hlocker, hrequests]
    exact hinv.adminAppended
  indexSound := hlocker ▸ hinv.indexSound
  sealedBeforeAck := hworker ▸ sealedBeforeAck_iff.mpr trivial
  acked := hacked

/-- The facts survive when the worker decodes its message and finds the ledger
open. -/
theorem Consistent.found {sequence : ℕ} {message : Message (Option IngestRef)}
    (hworker : system.worker = .received sequence)
    (hmessage : system.queue[sequence]? = some message)
    (hpayload : message.payload = some ref)
    (hledger : (system.locker.ledgers ref.subjectID).isSome) :
    Consistent env { system with worker := .verifying sequence ref } where
  held := by
    obtain ⟨delivered, hdelivered, hcount, -⟩ :=
      hinv.held sequence (by rw [hworker]; rfl)
    obtain rfl : delivered = message := by
      simpa [hmessage] using hdelivered.symm
    intro other hother
    obtain rfl : sequence = other := by
      simpa [WorkerState.sequence?] using hother
    refine ⟨delivered, hmessage, hcount, fun held hheld => ?_⟩
    obtain rfl : ref = held := by simpa [WorkerState.ref?] using hheld
    exact hpayload
  holdsOpen := by
    intro other held hheld
    obtain ⟨rfl, rfl⟩ : sequence = other ∧ ref = held := by
      simpa [WorkerState.ref?] using hheld
    exact hledger
  appended := appended_iff.mpr trivial
  adminAppended := hinv.adminAppended
  indexSound := hinv.indexSound
  sealedBeforeAck := sealedBeforeAck_iff.mpr trivial
  acked := hinv.acked

theorem consistent_worker {event : WorkerEvent}
    (htransition : WorkerTransition env system event next) :
    Consistent env next := by
  cases htransition with
  | malformed hworker hmessage hpayload =>
    exact hinv.idle rfl rfl rfl hinv.acked
  | missing hworker hmessage hpayload hledger =>
    exact hinv.idle rfl rfl rfl hinv.acked
  | found hworker hmessage hpayload hledger =>
    exact hinv.found hworker hmessage hpayload hledger
  | @known sequence ref ledger index hworker hledger hfound =>
    obtain ⟨entry, hentry, hdigest⟩ := hinv.indexSound _ _ _ _ hledger hfound
    refine hinv.advance (.refl _) hinv.indexSound rfl (by rw [hworker]; rfl)
      (by rw [hworker]; rfl) rfl rfl ?_ ?_
    · exact appended_iff.mpr trivial
    · exact sealedBeforeAck_iff.mpr (sealed_of_getElem? hentry hdigest)
  | @unknown sequence ref hworker hunknown =>
    refine hinv.advance (.refl _) hinv.indexSound rfl (by rw [hworker]; rfl)
      (by rw [hworker]; rfl) rfl rfl ?_ ?_
    · exact appended_iff.mpr trivial
    · exact sealedBeforeAck_iff.mpr trivial
  | addFailed hworker => exact hinv.idle rfl rfl rfl hinv.acked
  | @added sequence ref hworker =>
    refine hinv.advance (grows_add _ _ _) (hinv.indexSound.add _ _) rfl
      (by rw [hworker]; rfl) (by rw [hworker]; rfl) rfl rfl ?_ ?_
    · apply appended_iff.mpr
      simp [System.workerAdd]
    · exact sealedBeforeAck_iff.mpr trivial
  | @indexed sequence ref index hworker =>
    have hentry := hinv.appended sequence ref index (.inl hworker)
    refine hinv.advance (grows_record _ _ _ _)
      (hinv.indexSound.record hentry) rfl (by rw [hworker]; rfl)
      (by rw [hworker]; rfl) rfl rfl ?_ ?_
    · apply appended_iff.mpr
      simpa [System.workerIndex] using hentry
    · exact sealedBeforeAck_iff.mpr trivial
  | @published sequence ref index fault hworker =>
    have hentry := hinv.appended sequence ref index (.inr hworker)
    refine hinv.advance (.refl _) hinv.indexSound rfl (by rw [hworker]; rfl)
      (by rw [hworker]; rfl) rfl rfl ?_ ?_
    · exact appended_iff.mpr trivial
    · exact sealedBeforeAck_iff.mpr (sealed_of_getElem? hentry rfl)
  | @acked sequence ref reaches hworker =>
    refine hinv.idle rfl rfl rfl fun item hitem => ?_
    rcases List.mem_append.mp hitem with hold | hnew
    · exact hinv.acked item hold
    · obtain rfl := List.mem_singleton.mp hnew
      exact hinv.sealedBeforeAck sequence item hworker

theorem consistent_admin {id : ℕ} {event : AdminEvent} {request : Request}
    (hrequest : system.requests id = some request)
    (htransition : AdminTransition env system id request event next) :
    Consistent env next := by
  cases htransition with
  | received hstage =>
    exact hinv.frame (.refl _) hinv.indexSound (.refl _) rfl rfl
      (hinv.adminAppended.update id (by simp))
  | lost hstage =>
    exact hinv.frame (.refl _) hinv.indexSound (.refl _) rfl rfl
      (hinv.adminAppended.update id (by simp))
  | @acquired opening locker stage hstage hlocker houtcome =>
    have hgrows := grows_of_acquired hlocker
    have hsound : IndexSound env.sha256Hex locker := by
      rcases hlocker with rfl | ⟨-, rfl⟩
      · exact hinv.indexSound
      · exact hinv.indexSound.openLedger _ _
    refine hinv.frame hgrows hsound (.refl _) rfl rfl
      ((hinv.adminAppended.mono hgrows).update id ?_)
    intro receipt index hindexing
    rcases houtcome with ⟨error, -, rfl, -⟩ | ⟨sealing, rfl, -⟩
    · simp at hindexing
    · simp at hindexing
  | addFailed hstage =>
    exact hinv.frame (.refl _) hinv.indexSound (.refl _) rfl rfl
      (hinv.adminAppended.update id (by simp))
  | @added receipt hstage =>
    have hgrows := grows_add system.locker
      (natsRequest request.call).subjectID ⟨receipt, .admin id⟩
    refine hinv.frame hgrows (hinv.indexSound.add _ _) (.refl _) rfl rfl
      ((hinv.adminAppended.mono hgrows).update id ?_)
    intro appended index hindexing
    obtain ⟨rfl, rfl⟩ : receipt = appended ∧ _ = index := by
      simpa using hindexing
    simp
  | @indexed receipt index hstage =>
    have hentry := hinv.adminAppended id request receipt index hrequest hstage
    have hgrows := grows_record system.locker
      (natsRequest request.call).subjectID (env.sha256Hex receipt) index
    refine hinv.frame hgrows (hinv.indexSound.record hentry) (.refl _) rfl rfl
      ((hinv.adminAppended.mono hgrows).update id ?_)
    intro other found hindexing
    cases hcall : natsRequest request.call with
    | register registration => simp [hcall, AdminRequest.afterSeal] at hindexing
    | sealTrust modification =>
      simp [hcall, AdminRequest.afterSeal] at hindexing
  | announced hstage =>
    exact hinv.frame (.refl _) hinv.indexSound (.refl _) rfl rfl
      (hinv.adminAppended.update id (by simp))

end

theorem indexing_of_lockerAfter {stage : GatewayStage} {locker : AdminStage}
    {receipt : Bytes} {index : ℕ}
    (hindexing : lockerAfter stage locker = .indexing receipt index) :
    locker = .indexing receipt index := by
  unfold lockerAfter at hindexing
  split at hindexing
  · cases hindexing
  · exact hindexing

theorem consistent_gateway {id : ℕ} {event : GatewayEvent} {request : Request}
    (hinv : Consistent env system)
    (hrequest : system.requests id = some request)
    (htransition : GatewayTransition env system id request event next) :
    Consistent env next := by
  cases htransition with
  | @advanced fault store stage hadvance =>
    refine hinv.frame (.refl _) hinv.indexSound (.refl _) rfl rfl
      (hinv.adminAppended.update id fun receipt index hindexing => ?_)
    exact hinv.adminAppended id request receipt index hrequest
      (indexing_of_lockerAfter hindexing)
  | unanswered hunanswered =>
    refine hinv.frame (.refl _) hinv.indexSound (.refl _) rfl rfl
      (hinv.adminAppended.update id fun receipt index hindexing => ?_)
    exact hinv.adminAppended id request receipt index hrequest
      (indexing_of_lockerAfter hindexing)
  | heard hstage hheard =>
    exact hinv.frame (.refl _) hinv.indexSound (.refl _) rfl rfl
      (hinv.adminAppended.update id fun receipt index hindexing =>
        hinv.adminAppended id request receipt index hrequest hindexing)

theorem consistent_call {id : ℕ} {call : AdminCall}
    (hinv : Consistent env system)
    (hstep : callStep env system id call = some next) :
    Consistent env next := by
  obtain ⟨-, rfl⟩ := callStep_eq_some hstep
  refine hinv.frame (.refl _) hinv.indexSound (.refl _) rfl rfl
    (hinv.adminAppended.update id fun receipt index hindexing => ?_)
  cases indexing_of_lockerAfter hindexing

theorem consistent_deliver {sequence : ℕ} (hinv : Consistent env system)
    (hstep : deliverStep system sequence = some next) :
    Consistent env next := by
  obtain ⟨message, -, hmessage, -, -, rfl⟩ := deliverStep_eq_some hstep
  obtain ⟨hlt, -⟩ := List.getElem?_eq_some_iff.mp hmessage
  refine ⟨?_, ?_, ?_, hinv.adminAppended, hinv.indexSound, ?_, hinv.acked⟩
  · intro other hother
    obtain rfl : sequence = other := by
      simpa [WorkerState.sequence?] using hother
    refine ⟨_, List.getElem?_set_self hlt, Nat.succ_pos _, fun ref href => ?_⟩
    simp [WorkerState.ref?] at href
  · intro other ref href
    simp [WorkerState.ref?] at href
  · intro other ref index hstate
    simp at hstate
  · intro other ref hstate
    simp at hstate

theorem crash_ne_indexing (stage : AdminStage) (receipt : Bytes) (index : ℕ) :
    stage.crash ≠ .indexing receipt index := by
  cases stage <;> simp [AdminStage.crash]

theorem consistent_restart (hinv : Consistent env system)
    (opening : SubjectID → Opening) :
    Consistent env (restartStep env system opening) where
  held := held_idle _
  holdsOpen := holdsOpen_idle _
  appended := by
    intro sequence ref index hstate
    simp [restartStep] at hstate
  adminAppended := by
    intro id request receipt index hrequest hstage
    simp only [restartStep, Option.map_eq_some_iff] at hrequest
    obtain ⟨before, -, rfl⟩ := hrequest
    exact absurd hstage (crash_ne_indexing before.locker receipt index)
  indexSound := indexSound_openExistingLedgers _ _
  sealedBeforeAck := by
    intro sequence ref hstate
    simp [restartStep] at hstate
  acked := hinv.acked

theorem consistent_step {action : Action} (hinv : Consistent env system)
    (hstep : step env system action = some next) : Consistent env next := by
  cases step_cases hstep with
  | ingested =>
    exact hinv.frame (.refl _) hinv.indexSound (extends_publish _ _ _) rfl rfl
      hinv.adminAppended
  | delivered => exact consistent_deliver hinv hstep
  | worker htransition => exact consistent_worker hinv htransition
  | called => exact consistent_call hinv hstep
  | gateway hrequest htransition =>
    exact consistent_gateway hinv hrequest htransition
  | admin hrequest htransition =>
    exact consistent_admin hinv hrequest htransition
  | restarted => exact consistent_restart hinv _
  | ticked =>
    exact hinv.frame (.refl _) hinv.indexSound (.refl _) rfl rfl
      hinv.adminAppended
  | expired =>
    exact hinv.frame (.refl _) hinv.indexSound (extends_settle _ _ _) rfl rfl
      hinv.adminAppended

end Step

theorem consistent_initial (env : Environment) : Consistent env initial where
  held := held_idle _
  holdsOpen := holdsOpen_idle _
  appended := by
    intro sequence ref index hstate
    simp [initial] at hstate
  adminAppended := by
    intro id request receipt index hrequest
    simp [initial] at hrequest
  indexSound := by
    intro subjectID ledger digest index hledger
    simp [initial, newLocker] at hledger
  sealedBeforeAck := by
    intro sequence ref hstate
    simp [initial] at hstate
  acked := by simp [initial]

theorem consistent_of_reaches {env : Environment} {system : System}
    {guard : System → Action → Prop}
    (hreach : Reaches (step env) guard initial system) :
    Consistent env system :=
  hreach.invariant (consistent_initial env)
    fun _ _ _ hinv _ hstep => consistent_step hinv hstep

end ComplyTime.Pipeline
