import ComplyTime.Pipeline.NoDuplicateSeal

/-!
# Notification of sealed receipts

After `Seal` the worker publishes an `evidence.sealed` event and acknowledges.
A crash between the append and the publication leaves an entry without an
event: the redelivered message is found in the rebuilt index and acknowledged
without a second attempt to publish.  Runs without such a crash notify every
acknowledged receipt.
-/

namespace ComplyTime.Pipeline

open TransitionSystem WorkQueue Subjects Ledgers Worker AdminSubscriber
open GatewayAdmin Trust

/-- An event for the entry at `index` of the subject's ledger was published. -/
def Announced (env : Environment) (events : List EvidenceSealedData)
    (subjectID : SubjectID) (index : ℕ) (receipt : Bytes) : Prop :=
  ∃ event ∈ events, event.receiptDigest = env.sha256Hex receipt ∧
    event.subjectID = subjectID ∧ event.logIndex = toLogIndex index

/-- An event with the receipt's digest, its subject and the index of the entry
that holds it was published. -/
def Notified (env : Environment) (system : System) (ref : IngestRef) : Prop :=
  ∃ index entry,
    (system.locker.entries ref.subjectID)[index]? = some entry ∧
      entry.data = ref.receiptBytes ∧
      Announced env system.events ref.subjectID index ref.receiptBytes

/-- Publications succeed. -/
def PublishesSucceed : Action → Prop
  | .worker (.publish fault) => fault = none
  | _ => True

/-- Publications succeed, no crash falls between the worker's append and its
publication, and no receipt the worker checks has the bytes of an entry that an
admin handler sealed into the same ledger. -/
def NotifiesBeforeCrash (system : System) : Action → Prop
  | .worker (.publish fault) => fault = none
  | .worker .verify => ∀ sequence ref,
      system.worker = .verifying sequence ref →
        ∀ entry ∈ system.locker.entries ref.subjectID,
          entry.data = ref.receiptBytes → entry.sealer = .worker
  | .restart _ => ∀ sequence ref index,
      system.worker ≠ .indexing sequence ref index ∧
        system.worker ≠ .publishing sequence ref index
  | _ => True

/-- The entry whose event the worker has yet to publish. -/
def unpublished : WorkerState → SubjectID → ℕ → Prop
  | .indexing _ ref index, subjectID, position =>
    ref.subjectID = subjectID ∧ index = position
  | .publishing _ ref index, subjectID, position =>
    ref.subjectID = subjectID ∧ index = position
  | _, _, _ => False

structure Notifies (env : Environment) (system : System) : Prop where
  entries : ∀ subjectID index receipt,
    (system.locker.entries subjectID)[index]? = some ⟨receipt, .worker⟩ →
      Announced env system.events subjectID index receipt ∨
        unpublished system.worker subjectID index
  acking : ∀ sequence ref, system.worker = .acking sequence ref →
    Notified env system ref
  acked : ∀ ref ∈ system.acked, Notified env system ref

section Steps

variable {env : Environment} {system next : System}

theorem Announced.mono {events later : List EvidenceSealedData}
    {subjectID : SubjectID} {index : ℕ} {receipt : Bytes}
    (hannounced : Announced env events subjectID index receipt)
    (hsubset : events ⊆ later) :
    Announced env later subjectID index receipt := by
  obtain ⟨event, hmem, hevent⟩ := hannounced
  exact ⟨event, hsubset hmem, hevent⟩

theorem Notified.mono {ref : IngestRef} (hnotified : Notified env system ref)
    (hgrows : Grows system.locker next.locker)
    (hsubset : system.events ⊆ next.events) : Notified env next ref := by
  obtain ⟨index, entry, hentry, hdata, hannounced⟩ := hnotified
  exact ⟨index, entry, hgrows.getElem? hentry, hdata, hannounced.mono hsubset⟩

/-- A step that neither appends for the worker nor moves it. -/
theorem Notifies.frame (hinv : Notifies env system)
    (hgrows : Grows system.locker next.locker)
    (hentries : ∀ (subjectID : SubjectID) (index : ℕ) (receipt : Bytes),
      (next.locker.entries subjectID)[index]? = some ⟨receipt, .worker⟩ →
        (system.locker.entries subjectID)[index]? = some ⟨receipt, .worker⟩)
    (hworker : next.worker = system.worker)
    (hevents : next.events = system.events)
    (hacked : next.acked = system.acked) : Notifies env next where
  entries := by
    intro subjectID index receipt hentry
    rw [hevents, hworker]
    exact hinv.entries subjectID index receipt
      (hentries subjectID index receipt hentry)
  acking := by
    intro sequence ref hstate
    rw [hworker] at hstate
    exact (hinv.acking sequence ref hstate).mono hgrows
      (hevents ▸ List.Subset.refl _)
  acked := by
    intro ref hmem
    rw [hacked] at hmem
    exact (hinv.acked ref hmem).mono hgrows (hevents ▸ List.Subset.refl _)

/-- A worker step outside the window that appends and publishes nothing. -/
theorem Notifies.quiet (hinv : Notifies env system)
    (hlocker : next.locker = system.locker)
    (hevents : next.events = system.events)
    (hclosed : ∀ subjectID index, ¬ unpublished system.worker subjectID index)
    (hacking : ∀ sequence ref, next.worker = .acking sequence ref →
      Notified env system ref)
    (hacked : ∀ ref ∈ next.acked, Notified env system ref) :
    Notifies env next where
  entries := by
    intro subjectID index receipt hentry
    rw [hlocker] at hentry
    rw [hevents]
    exact .inl ((hinv.entries subjectID index receipt hentry).resolve_right
      (hclosed subjectID index))
  acking := fun sequence ref hstate =>
    (hacking sequence ref hstate).mono (hlocker ▸ .refl _)
      (hevents ▸ List.Subset.refl _)
  acked := fun ref hmem =>
    (hacked ref hmem).mono (hlocker ▸ .refl _) (hevents ▸ List.Subset.refl _)

/-- A skipped receipt was announced when it was sealed. -/
theorem notified_of_known (hsha : Function.Injective env.sha256Hex)
    (hinv : Notifies env system) (hknown : Consistent env system)
    {sequence : ℕ} {ref : IngestRef} {ledger : Ledger} {index : ℕ}
    (hguard : NotifiesBeforeCrash system (.worker .verify))
    (hworker : system.worker = .verifying sequence ref)
    (hledger : system.locker.ledgers ref.subjectID = some ledger)
    (hfound : ledger.verifyDigest (env.sha256Hex ref.receiptBytes) =
      some index) : Notified env system ref := by
  obtain ⟨entry, hentry, hdigest⟩ := hknown.indexSound _ _ _ _ hledger hfound
  have hdata : entry.data = ref.receiptBytes := hsha hdigest
  have hsealer : entry.sealer = .worker :=
    hguard sequence ref hworker entry (List.mem_of_getElem? hentry) hdata
  have hshape : entry = ⟨ref.receiptBytes, .worker⟩ := by
    cases entry
    simp_all
  rw [hshape] at hentry
  refine ⟨index, _, hentry, rfl, ?_⟩
  refine (hinv.entries _ _ _ hentry).resolve_right ?_
  simp [hworker, unpublished]

theorem Notifies.published (hinv : Notifies env system)
    (hknown : Consistent env system) {sequence : ℕ} {ref : IngestRef}
    {index : ℕ} (hworker : system.worker = .publishing sequence ref index) :
    Notifies env (system.workerPublish env sequence ref index none) := by
  have hentry := hknown.appended sequence ref index (.inr hworker)
  have hsubset : system.events ⊆
      (system.workerPublish env sequence ref index none).events := by
    simp [System.workerPublish]
  have hnew : Announced env
      (system.workerPublish env sequence ref index none).events
      ref.subjectID index ref.receiptBytes :=
    ⟨sealedEvent env.sha256Hex ref index, by simp [System.workerPublish],
      rfl, rfl, rfl⟩
  refine ⟨?_, ?_, fun item hitem =>
    (hinv.acked item hitem).mono (.refl _) hsubset⟩
  · intro subjectID position receipt hold
    left
    rcases hinv.entries subjectID position receipt hold with
      hbefore | hpending
    · exact hbefore.mono hsubset
    · rw [hworker] at hpending
      obtain ⟨rfl, rfl⟩ := hpending
      obtain rfl : ref.receiptBytes = receipt := by
        have hsame := hentry.symm.trans hold
        simpa using hsame
      exact hnew
  · intro other held hstate
    obtain ⟨-, rfl⟩ : sequence = other ∧ ref = held := by
      simpa [System.workerPublish] using hstate
    exact ⟨index, _, hentry, rfl, hnew⟩

theorem notifies_worker (hsha : Function.Injective env.sha256Hex)
    {event : WorkerEvent} (hinv : Notifies env system)
    (hknown : Consistent env system)
    (hguard : NotifiesBeforeCrash system (.worker event))
    (htransition : WorkerTransition env system event next) :
    Notifies env next := by
  cases htransition with
  | malformed hworker hmessage hpayload =>
    exact hinv.quiet rfl rfl (by simp [hworker, unpublished]) (by simp)
      hinv.acked
  | missing hworker hmessage hpayload hledger =>
    exact hinv.quiet rfl rfl (by simp [hworker, unpublished])
      (by simp [System.reject]) hinv.acked
  | found hworker hmessage hpayload hledger =>
    exact hinv.quiet rfl rfl (by simp [hworker, unpublished]) (by simp)
      hinv.acked
  | @known sequence ref ledger index hworker hledger hfound =>
    refine hinv.quiet rfl rfl (by simp [hworker, unpublished]) ?_ hinv.acked
    intro other held hstate
    obtain ⟨-, rfl⟩ : sequence = other ∧ ref = held := by simpa using hstate
    exact notified_of_known hsha hinv hknown hguard hworker hledger hfound
  | unknown hworker hunknown =>
    exact hinv.quiet rfl rfl (by simp [hworker, unpublished]) (by simp)
      hinv.acked
  | addFailed hworker =>
    exact hinv.quiet rfl rfl (by simp [hworker, unpublished])
      (by simp [System.reject]) hinv.acked
  | @added sequence ref hworker =>
    refine ⟨?_, by simp [System.workerAdd], fun item hitem =>
      (hinv.acked item hitem).mono (grows_add _ _ _)
        (List.Subset.refl _)⟩
    intro subjectID index receipt hentry
    rcases getElem?_add _ hentry with hold | ⟨rfl, rfl, -⟩
    · refine .inl ((hinv.entries subjectID index receipt hold).resolve_right
        ?_)
      simp [hworker, unpublished]
    · exact .inr ⟨rfl, rfl⟩
  | @indexed sequence ref index hworker =>
    refine ⟨?_, by simp [System.workerIndex], fun item hitem =>
      (hinv.acked item hitem).mono (grows_record _ _ _ _)
        (List.Subset.refl _)⟩
    intro subjectID position receipt hentry
    refine (hinv.entries subjectID position receipt hentry).imp_right ?_
    simp [hworker, unpublished, System.workerIndex]
  | @published sequence ref index fault hworker =>
    obtain rfl : fault = none := hguard
    exact hinv.published hknown hworker
  | @acked sequence ref reaches hworker =>
    refine hinv.quiet rfl rfl (by simp [hworker, unpublished])
      (by simp [System.workerAck]) fun item hitem => ?_
    rcases List.mem_append.mp hitem with hold | hlast
    · exact hinv.acked item hold
    · obtain rfl := List.mem_singleton.mp hlast
      exact hinv.acking sequence item hworker

theorem notifies_admin {id : ℕ} {event : AdminEvent} {request : Request}
    (hinv : Notifies env system)
    (htransition : AdminTransition env system id request event next) :
    Notifies env next := by
  cases htransition with
  | received hstage =>
    exact hinv.frame (.refl _) (fun _ _ _ hentry => hentry) rfl rfl rfl
  | lost hstage =>
    exact hinv.frame (.refl _) (fun _ _ _ hentry => hentry) rfl rfl rfl
  | @acquired opening locker stage hstage hlocker houtcome =>
    refine hinv.frame (grows_of_acquired hlocker) ?_ rfl rfl rfl
    intro subjectID index receipt hentry
    simp only [System.setRequest] at hentry
    rwa [entries_of_acquired hlocker] at hentry
  | addFailed hstage =>
    exact hinv.frame (.refl _) (fun _ _ _ hentry => hentry) rfl rfl rfl
  | added hstage =>
    refine hinv.frame (grows_add _ _ _) ?_ rfl rfl rfl
    intro subjectID index receipt hentry
    rcases getElem?_add _ hentry with hold | ⟨-, -, hnew⟩
    · exact hold
    · simp at hnew
  | indexed hstage =>
    exact hinv.frame (grows_record _ _ _ _) (fun _ _ _ hentry => hentry)
      rfl rfl rfl
  | announced hstage =>
    exact hinv.frame (.refl _) (fun _ _ _ hentry => hentry) rfl rfl rfl

theorem notifies_step (hsha : Function.Injective env.sha256Hex)
    {action : Action} (hknown : Consistent env system)
    (hinv : Notifies env system)
    (hguard : NotifiesBeforeCrash system action)
    (hstep : step env system action = some next) : Notifies env next := by
  cases step_cases hstep with
  | delivered hworker =>
    exact hinv.quiet rfl rfl (by simp [hworker, unpublished]) (by simp)
      hinv.acked
  | worker htransition =>
    exact notifies_worker hsha hinv hknown hguard htransition
  | gateway _ htransition =>
    obtain ⟨store, requests, rfl⟩ := htransition.frame
    exact hinv.frame (.refl _) (fun _ _ _ hentry => hentry) rfl rfl rfl
  | admin _ htransition => exact notifies_admin hinv htransition
  | restarted =>
    refine ⟨?_, by simp [restartStep], hinv.acked⟩
    intro subjectID index receipt hentry
    left
    refine (hinv.entries subjectID index receipt hentry).resolve_right ?_
    intro hpending
    cases hworker : system.worker with
    | indexing sequence ref position =>
      exact (hguard sequence ref position).1 hworker
    | publishing sequence ref position =>
      exact (hguard sequence ref position).2 hworker
    | _ => simp [hworker, unpublished] at hpending
  | _ => exact hinv.frame (.refl _) (fun _ _ _ hentry => hentry) rfl rfl rfl

end Steps

theorem notifies_initial (env : Environment) : Notifies env initial where
  entries := by simp [initial]
  acking := by simp [initial]
  acked := by simp [initial]

/-- In every run in which publications succeed, no crash falls between the
worker's append and its publication and no admin handler has sealed the same
bytes, an acknowledged receipt was announced with its digest, its subject and
the index of the entry that holds it. -/
theorem acked_receipt_notified (env : Environment)
    (hsha : Function.Injective env.sha256Hex) {system : System}
    (hreach : Reaches (step env) NotifiesBeforeCrash initial system)
    {ref : IngestRef} (hacked : ref ∈ system.acked) :
    Notified env system ref := by
  have hinv : Notifies env system :=
    hreach.invariant_with (fun _ => consistent_of_reaches)
      (notifies_initial env)
      fun _ _ _ hknown hinv hguard hstep =>
        notifies_step hsha hknown hinv hguard hstep
  exact hinv.acked ref hacked

/-- The rest of a seal without failures. -/
def samplePublish : List Action :=
  [.worker .index, .worker (.publish none), .worker (.ack true)]

/-- The condition on a run, as a computation. -/
def notificationCheck (system : System) : Action → Bool
  | .worker (.publish fault) => fault.isNone
  | .worker .verify =>
    match system.worker with
    | .verifying _ ref => (system.locker.entries ref.subjectID).all
        fun entry => decide (entry.data = ref.receiptBytes →
          entry.sealer = .worker)
    | _ => true
  | .restart _ =>
    match system.worker with
    | .indexing _ _ _ => false
    | .publishing _ _ _ => false
    | _ => true
  | _ => true

theorem notifiesBeforeCrash_of_check {system : System} {action : Action}
    (hcheck : notificationCheck system action = true) :
    NotifiesBeforeCrash system action := by
  cases action with
  | restart opening =>
    intro sequence ref index
    constructor
    · intro hworker
      simp [notificationCheck, hworker] at hcheck
    · intro hworker
      simp [notificationCheck, hworker] at hcheck
  | worker event =>
    cases event with
    | publish fault =>
      simpa [notificationCheck, NotifiesBeforeCrash] using hcheck
    | verify =>
      intro sequence ref hworker entry hmem hdata
      simp only [notificationCheck, hworker, List.all_eq_true,
        decide_eq_true_eq] at hcheck
      exact hcheck entry hmem hdata
    | _ => trivial
  | _ => trivial

theorem acked_sample_notified :
    ∃ system, Reaches (step sampleEnvironment) NotifiesBeforeCrash initial
        system ∧ sampleRef ∈ system.acked ∧
      Notified sampleEnvironment system sampleRef := by
  have hfinal : ((run (checked (step sampleEnvironment) notificationCheck)
      initial (sampleRegistration ++ sampleSeal ++ samplePublish)).map
        System.acked) = some [sampleRef] := by decide
  obtain ⟨system, hrun, hacked⟩ := Option.map_eq_some_iff.mp hfinal
  have hmem : sampleRef ∈ system.acked := by simp [hacked]
  have hreach : Reaches (step sampleEnvironment) NotifiesBeforeCrash initial
      system := by
    refine Reaches.run_checked .refl (fun before action _ hcheck => ?_) hrun
    exact notifiesBeforeCrash_of_check hcheck
  exact ⟨system, hreach, hmem, acked_receipt_notified _
    sha256Hex_sampleEnvironment_injective hreach hmem⟩

/-- A crash after the append and before the publication: the rebuild is
complete and every publication that runs succeeds, but the redelivered message
is acknowledged and no event exists. -/
theorem sample_acked_without_notification :
    ∃ system, Reaches (step sampleEnvironment)
        (fun before action =>
          RebuildsComplete before action ∧ PublishesSucceed action)
        initial system ∧ sampleRef ∈ system.acked ∧ system.events = [] ∧
      ¬ Notified sampleEnvironment system sampleRef := by
  have hfinal : ((run (checked (step sampleEnvironment) sampleCheck) initial
      (sampleRegistration ++ sampleSeal ++ [.restart sampleOpening] ++
        sampleSkip)).map fun system => (system.acked, system.events)) =
      some ([sampleRef], []) := by decide
  obtain ⟨system, hrun, hvalues⟩ := Option.map_eq_some_iff.mp hfinal
  obtain ⟨hacked, hevents⟩ := Prod.mk.inj hvalues
  refine ⟨system, ?_, by simp [hacked], hevents, ?_⟩
  · refine Reaches.run_checked .refl
      (fun before action hmem hcheck => ⟨?_, ?_⟩) hrun
    · refine rebuildsComplete_of_sampleCheck ?_ hcheck
      rintro opening rfl
      simpa [sampleRegistration, sampleSeal, sampleSkip] using hmem
    · cases action with
      | worker event =>
        cases event with
        | publish fault =>
          simp [sampleRegistration, sampleSeal, sampleSkip] at hmem
        | _ => trivial
      | _ => trivial
  · rintro ⟨index, entry, -, -, event, hevent, -⟩
    simp [hevents] at hevent

end ComplyTime.Pipeline
