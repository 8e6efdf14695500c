import ComplyTime.Pipeline.NoDuplicateSeal

/-!
# Dead letters and open ledgers

The worker terminates a message when it finds no open ledger for the subject,
on the grounds that the subject was never registered.  Whether a ledger is open
also depends on the startup scan, which skips directories that fail to open.
While every restart opens every existing directory, a registered subject always
has an open ledger, so only messages of unregistered subjects are terminated.
-/

namespace ComplyTime.Pipeline

open TransitionSystem WorkQueue Subjects Ledgers Worker AdminSubscriber
open GatewayAdmin Trust

/-- Every restart opens every ledger directory that exists. -/
def RestartsOpenAll (system : System) : Action → Prop
  | .restart opening => ∀ subjectID,
      (system.locker.logs subjectID).isSome →
        ∃ fetched, opening subjectID = .opened fetched
  | _ => True

/-- The locker's side of a request has a ledger in hand, or has replied that it
sealed into one. -/
def holdsLedger : AdminStage → Bool
  | .sealing _ => true
  | .indexing _ _ => true
  | .announcing => true
  | .replied error => decide (error = "")
  | _ => false

/-- A request that has got far enough to rely on its subject's ledger. -/
def NeedsLedger (request : Request) : Prop :=
  holdsLedger request.locker = true ∨
    (request.gateway.pastLocker = true ∧
      ∃ input operator, request.call = .registerSubject input operator)

structure LedgersStayOpen (system : System) : Prop where
  logged : ∀ subjectID, (system.locker.ledgers subjectID).isSome →
    (system.locker.logs subjectID).isSome
  filled : ∀ subjectID, system.locker.entries subjectID ≠ [] →
    (system.locker.ledgers subjectID).isSome
  registered : ∀ subjectID, Registered system.store subjectID →
    (system.locker.ledgers subjectID).isSome
  requests : ∀ id request, system.requests id = some request →
    NeedsLedger request → (system.locker.ledgers request.call.subjectID).isSome
  deadLetters : ∀ letter ∈ system.deadLetters, letter.registered = false

/-! ## Locker effects -/

section Effects

variable (locker : Locker)

theorem isSome_logs_add {subjectID other : SubjectID} (entry : Entry)
    (hlogged : (locker.logs other).isSome) :
    ((locker.add subjectID entry).logs other).isSome := by
  by_cases heq : other = subjectID
  · subst heq
    simp [Locker.add]
  · simpa [Locker.add, heq] using hlogged

theorem isSome_ledgers_of_add {subjectID other : SubjectID} {entry : Entry}
    (hopen : (locker.ledgers subjectID).isSome)
    (hentries : (locker.add subjectID entry).entries other ≠ [])
    (hempty : locker.entries other = []) :
    (locker.ledgers other).isSome := by
  by_cases heq : other = subjectID
  · subst heq
    exact hopen
  · rw [entries_add_of_ne _ _ heq] at hentries
    exact absurd hempty hentries

theorem isSome_logs_openLedger (sha256Hex : Bytes → String)
    {subjectID : SubjectID} (opening : Opening)
    (hlogged : ∀ other, (locker.ledgers other).isSome →
      (locker.logs other).isSome) (other : SubjectID)
    (hopen : ((locker.openLedger sha256Hex subjectID opening).ledgers
      other).isSome) :
    ((locker.openLedger sha256Hex subjectID opening).logs other).isSome := by
  cases opening with
  | failed err directoryLeft =>
    rw [ledgers_openLedger_failed] at hopen
    cases directoryLeft with
    | false => exact hlogged other hopen
    | true =>
      by_cases heq : other = subjectID
      · subst heq
        simp [Locker.openLedger]
      · simpa [Locker.openLedger, heq] using hlogged other hopen
  | opened fetched =>
    by_cases heq : other = subjectID
    · subst heq
      simp [Locker.openLedger]
    · rw [ledgers_openLedger_opened, Function.update_of_ne heq] at hopen
      simpa [Locker.openLedger, heq] using hlogged other hopen

/-- A restart that opens every directory loses no open ledger. -/
theorem grows_openExistingLedgers (sha256Hex : Bytes → String)
    {opening : SubjectID → Opening}
    (hlogged : ∀ subjectID, (locker.ledgers subjectID).isSome →
      (locker.logs subjectID).isSome)
    (hopens : ∀ subjectID, (locker.logs subjectID).isSome →
      ∃ fetched, opening subjectID = .opened fetched) :
    Grows locker (locker.openExistingLedgers sha256Hex opening) := by
  refine ⟨fun _ => List.prefix_refl _, fun subjectID hopen => ?_⟩
  have hlog := hlogged subjectID hopen
  obtain ⟨fetched, hfetched⟩ := hopens subjectID hlog
  obtain ⟨log, hlog⟩ := Option.isSome_iff_exists.mp hlog
  simp [Locker.openExistingLedgers, hlog, hfetched]

end Effects

/-! ## Steps -/

section Steps

variable {env : Environment} {system next : System}

section

variable (hinv : LedgersStayOpen system)

include hinv

/-- A step that keeps the registry and adds no dead letter. -/
theorem LedgersStayOpen.frame (hgrows : Grows system.locker next.locker)
    (hlogged : ∀ subjectID, (next.locker.ledgers subjectID).isSome →
      (next.locker.logs subjectID).isSome)
    (hfilled : ∀ subjectID, next.locker.entries subjectID ≠ [] →
      system.locker.entries subjectID = [] →
        (next.locker.ledgers subjectID).isSome)
    (hstore : next.store = system.store)
    (hrequests : ∀ id request, next.requests id = some request →
      NeedsLedger request → (next.locker.ledgers request.call.subjectID).isSome)
    (hletters : next.deadLetters = system.deadLetters) :
    LedgersStayOpen next where
  logged := hlogged
  filled := by
    intro subjectID hentries
    by_cases hempty : system.locker.entries subjectID = []
    · exact hfilled subjectID hentries hempty
    · exact hgrows.ledgers subjectID (hinv.filled subjectID hempty)
  registered := by
    intro subjectID hregistered
    rw [hstore] at hregistered
    exact hgrows.ledgers subjectID (hinv.registered subjectID hregistered)
  requests := hrequests
  deadLetters := by
    rw [hletters]
    exact hinv.deadLetters

/-- Requests rely on open ledgers after `id` moved to `after`. -/
theorem LedgersStayOpen.requests_update {locker : Locker}
    (hgrows : Grows system.locker locker) (id : ℕ) {after : Request}
    (hafter : NeedsLedger after →
      (locker.ledgers after.call.subjectID).isSome) :
    ∀ other request,
      Function.update system.requests id (some after) other = some request →
        NeedsLedger request →
          (locker.ledgers request.call.subjectID).isSome := by
  intro other request hrequest hneeds
  rcases update_eq_some hrequest with ⟨rfl, rfl⟩ | ⟨-, hbefore⟩
  · exact hafter hneeds
  · exact hgrows.ledgers _ (hinv.requests other request hbefore hneeds)

theorem LedgersStayOpen.same (hlocker : next.locker = system.locker)
    (hstore : next.store = system.store)
    (hrequests : next.requests = system.requests)
    (hletters : next.deadLetters = system.deadLetters) :
    LedgersStayOpen next := by
  refine hinv.frame (hlocker ▸ .refl _) ?_ ?_ hstore ?_ hletters
  · rw [hlocker]
    exact hinv.logged
  · intro subjectID hentries hempty
    rw [hlocker] at hentries
    exact absurd hempty hentries
  · rw [hrequests, hlocker]
    exact hinv.requests

variable {id : ℕ} {request : Request}

theorem LedgersStayOpen.setStage (hrequest : system.requests id = some request)
    {stage : AdminStage}
    (hholds : holdsLedger stage = true → holdsLedger request.locker = true) :
    LedgersStayOpen
      (system.setRequest id { request with locker := stage }) := by
  refine ⟨hinv.logged, hinv.filled, hinv.registered,
    hinv.requests_update (.refl _) id ?_, hinv.deadLetters⟩
  intro hneeds
  exact hinv.requests id request hrequest (hneeds.imp_left hholds)

theorem ledgersStayOpen_worker {event : WorkerEvent}
    (hknown : Consistent env system)
    (htransition : WorkerTransition env system event next) :
    LedgersStayOpen next := by
  cases htransition with
  | malformed hworker hmessage hpayload => exact hinv.same rfl rfl rfl rfl
  | @missing sequence message ref reaches hworker hmessage hpayload hledger =>
    have hunregistered : ¬ Registered system.store ref.subjectID := by
      intro hregistered
      have hopen := hinv.registered ref.subjectID hregistered
      simp [hledger] at hopen
    refine ⟨hinv.logged, hinv.filled, hinv.registered, hinv.requests, ?_⟩
    intro letter hletter
    simp only [System.reject, verdictOf_ledgerNotFound, if_true,
      List.mem_append, List.mem_singleton] at hletter
    rcases hletter with hold | rfl
    · exact hinv.deadLetters letter hold
    · simpa using hunregistered
  | found hworker hmessage hpayload hledger => exact hinv.same rfl rfl rfl rfl
  | known hworker hledger hfound => exact hinv.same rfl rfl rfl rfl
  | unknown hworker hunknown => exact hinv.same rfl rfl rfl rfl
  | addFailed hworker => exact hinv.same rfl rfl rfl (by simp [System.reject])
  | @added sequence ref hworker =>
    have hopen := hknown.holdsOpen sequence ref (by rw [hworker]; rfl)
    have hgrows := grows_add system.locker ref.subjectID
      ⟨ref.receiptBytes, .worker⟩
    refine hinv.frame hgrows ?_ ?_ rfl ?_ rfl
    · intro subjectID hledger
      exact isSome_logs_add _ _ (hinv.logged subjectID hledger)
    · exact fun subjectID => isSome_ledgers_of_add _ hopen
    · intro id request hrequest hneeds
      exact hgrows.ledgers _ (hinv.requests id request hrequest hneeds)
  | @indexed sequence ref index hworker =>
    have hgrows := grows_record system.locker ref.subjectID
      (env.sha256Hex ref.receiptBytes) index
    refine hinv.frame hgrows ?_ ?_ rfl ?_ rfl
    · intro subjectID hledger
      simp only [System.workerIndex, isSome_ledgers_record] at hledger
      exact hinv.logged subjectID hledger
    · intro subjectID hentries hempty
      exact absurd hempty hentries
    · intro id request hrequest hneeds
      exact hgrows.ledgers _ (hinv.requests id request hrequest hneeds)
  | published hworker => exact hinv.same rfl rfl rfl rfl
  | acked hworker => exact hinv.same rfl rfl rfl rfl

section

variable (hrequest : system.requests id = some request)

include hrequest

theorem ledgersStayOpen_admin {event : AdminEvent}
    (htransition : AdminTransition env system id request event next) :
    LedgersStayOpen next := by
  have hgrows := htransition.grows
  cases htransition with
  | received hstage => exact hinv.setStage hrequest (by simp [holdsLedger])
  | lost hstage => exact hinv.setStage hrequest (by simp [holdsLedger])
  | @acquired opening locker stage hstage hlocker houtcome =>
    rw [natsRequest_subjectID] at hlocker
    refine hinv.frame hgrows ?_ ?_ rfl
      (hinv.requests_update hgrows id ?_) rfl
    · rcases hlocker with rfl | ⟨-, rfl⟩
      · exact hinv.logged
      · exact isSome_logs_openLedger _ _ opening hinv.logged
    · intro subjectID hentries hnone
      simp only [System.setRequest] at hentries
      rw [entries_of_acquired hlocker] at hentries
      exact absurd hnone hentries
    · rintro (hholds | hpast)
      · rcases houtcome with ⟨error, herror, rfl, -⟩ | ⟨_, _, _, hacquire⟩
        · simp [holdsLedger, herror] at hholds
        · have hopen := isSome_ledgers_of_acquireLedger hacquire
          rwa [natsRequest_subjectID] at hopen
      · exact hgrows.ledgers _
          (hinv.requests id request hrequest (.inr hpast))
  | addFailed hstage => exact hinv.setStage hrequest (by simp [holdsLedger])
  | @added receipt hstage =>
    have hopen : (system.locker.ledgers request.call.subjectID).isSome :=
      hinv.requests id request hrequest
        (.inl (by simp [hstage, holdsLedger]))
    refine hinv.frame hgrows ?_ ?_ rfl
      (hinv.requests_update hgrows id fun _ => hopen) rfl
    · intro subjectID hledger
      exact isSome_logs_add _ _ (hinv.logged subjectID hledger)
    · rw [← natsRequest_subjectID] at hopen
      exact fun subjectID => isSome_ledgers_of_add _ hopen
  | @indexed receipt index hstage =>
    have hopen : (system.locker.ledgers request.call.subjectID).isSome :=
      hinv.requests id request hrequest
        (.inl (by simp [hstage, holdsLedger]))
    refine hinv.frame hgrows ?_
      (fun _ hentries hnone => absurd hnone hentries) rfl
      (hinv.requests_update hgrows id
        fun _ => hgrows.ledgers _ hopen) rfl
    intro subjectID hledger
    simp only [System.adminIndex, System.setRequest,
      isSome_ledgers_record] at hledger
    exact hinv.logged subjectID hledger
  | announced hstage =>
    exact hinv.setStage hrequest (by simp [hstage, holdsLedger])

/-- A request to the trust store registers the subject of a ledger that is
open. -/
theorem ledgersStayOpen_outcome {store : TrustStore (List TrustEntry)}
    {stage : GatewayStage}
    (houtcome : Outcome trustCodec request.call system.store request.gateway
      store stage) :
    LedgersStayOpen ({ system with store := store }.setRequest id
      ⟨request.call, stage, lockerAfter stage request.locker⟩) := by
  refine ⟨hinv.logged, hinv.filled, ?_, hinv.requests_update (.refl _) id ?_,
    hinv.deadLetters⟩
  · intro subjectID hregistered
    rcases registered_before_outcome houtcome hregistered with
      hbefore | ⟨hstage, rfl, body, operator, hcall⟩
    · exact hinv.registered subjectID hbefore
    · exact hinv.requests id request hrequest
        (.inr ⟨by rw [hstage]; rfl, some body, operator, hcall⟩)
  · rintro (hholds | ⟨hpast, hcall⟩)
    · unfold lockerAfter at hholds
      split at hholds
      · simp [holdsLedger] at hholds
      · exact hinv.requests id request hrequest (.inl hholds)
    · rcases started_of_outcome houtcome (.inl hpast) with
        hbefore | hregistered
      · exact hinv.requests id request hrequest (.inr ⟨hbefore, hcall⟩)
      · exact hinv.registered _ hregistered

theorem ledgersStayOpen_gateway {event : GatewayEvent}
    (htransition : GatewayTransition env system id request event next) :
    LedgersStayOpen next := by
  rcases htransition.outcome with
    ⟨store, stage, houtcome, rfl⟩ | ⟨hearing, -, -, hheard, rfl⟩
  · exact ledgersStayOpen_outcome hinv hrequest houtcome
  · refine ⟨hinv.logged, hinv.filled, hinv.registered,
      hinv.requests_update (.refl _) id ?_, hinv.deadLetters⟩
    rintro (hholds | ⟨hpast, -⟩)
    · exact hinv.requests id request hrequest (.inl hholds)
    · rcases hear_cases request.call hearing with
        ⟨rfl, -⟩ | ⟨response, hresponse, -⟩
      · apply hinv.requests id request hrequest
        left
        simp [replied_of_heardFrom hheard, holdsLedger]
      · simp only [hresponse] at hpast
        cases hpast

end

theorem ledgersStayOpen_call {call : AdminCall}
    (hstep : callStep env system id call = some next) :
    LedgersStayOpen next := by
  obtain ⟨-, rfl⟩ := callStep_eq_some hstep
  refine ⟨hinv.logged, hinv.filled, hinv.registered,
    hinv.requests_update (.refl _) id ?_, hinv.deadLetters⟩
  rcases begin_cases env.validators call with ⟨response, -, hbegin⟩ |
    ⟨_, _, -, -, hbegin⟩ | ⟨_, _, _, -, -, hbegin⟩
  all_goals
    simp [NeedsLedger, hbegin, lockerAfter, holdsLedger,
      GatewayStage.pastLocker]

end

theorem holdsLedger_of_crash {stage : AdminStage}
    (hholds : holdsLedger stage.crash = true) : holdsLedger stage = true := by
  cases stage <;> simp_all [AdminStage.crash, holdsLedger]

theorem ledgersStayOpen_restart {opening : SubjectID → Opening}
    (hinv : LedgersStayOpen system)
    (hguard : RestartsOpenAll system (.restart opening)) :
    LedgersStayOpen (restartStep env system opening) := by
  have hgrows := grows_openExistingLedgers system.locker env.sha256Hex
    hinv.logged hguard
  refine hinv.frame hgrows ?_ ?_ rfl ?_ rfl
  · intro subjectID hopen
    obtain ⟨ledger, hledger⟩ := Option.isSome_iff_exists.mp hopen
    obtain ⟨log, fetched, hlog, -⟩ :=
      ledgers_openExistingLedgers_eq_some env.sha256Hex system.locker hledger
    simp [restartStep, Locker.openExistingLedgers, hlog]
  · intro subjectID hentries hnone
    exact absurd hnone hentries
  · intro id request hrequest hneeds
    simp only [restartStep, Option.map_eq_some_iff] at hrequest
    obtain ⟨before, hbefore, rfl⟩ := hrequest
    exact hgrows.ledgers _ (hinv.requests id before hbefore
      (hneeds.imp_left holdsLedger_of_crash))

theorem ledgersStayOpen_step {action : Action} (hknown : Consistent env system)
    (hinv : LedgersStayOpen system) (hguard : RestartsOpenAll system action)
    (hstep : step env system action = some next) : LedgersStayOpen next := by
  cases step_cases hstep with
  | worker htransition => exact ledgersStayOpen_worker hinv hknown htransition
  | called => exact ledgersStayOpen_call hinv hstep
  | gateway hrequest htransition =>
    exact ledgersStayOpen_gateway hinv hrequest htransition
  | admin hrequest htransition =>
    exact ledgersStayOpen_admin hinv hrequest htransition
  | restarted => exact ledgersStayOpen_restart hinv hguard
  | _ => exact hinv.same rfl rfl rfl rfl

end Steps

theorem ledgersStayOpen_initial : LedgersStayOpen initial where
  logged := by simp [initial, newLocker]
  filled := by simp [initial]
  registered := by
    intro subjectID hregistered
    simp [initial, Registered, emptyTrustStore,
      KeyValue.emptyBucket] at hregistered
  requests := by simp [initial]
  deadLetters := by simp [initial]

theorem ledgersStayOpen_of_reaches {env : Environment} {system : System}
    (hreach : Reaches (step env) RestartsOpenAll initial system) :
    LedgersStayOpen system :=
  hreach.invariant_with (fun _ => consistent_of_reaches)
    ledgersStayOpen_initial
    fun _ _ _ hknown hinv hguard hstep =>
      ledgersStayOpen_step hknown hinv hguard hstep

/-- In every run whose restarts open every existing ledger directory, the
worker terminates well-formed messages only while their subject has no entry in
the subject registry. -/
theorem dead_letters_unregistered (env : Environment) {system : System}
    (hreach : Reaches (step env) RestartsOpenAll initial system)
    {letter : DeadLetter} (hletter : letter ∈ system.deadLetters) :
    letter.registered = false :=
  (ledgersStayOpen_of_reaches hreach).deadLetters letter hletter

/-- An environment whose gate admits every publisher. -/
def ungatedEnvironment : Environment :=
  { sampleEnvironment with authorizes := fun _ _ _ => true }

/-- A message for a subject nobody registered is terminated. -/
theorem dead_letter_of_unknown_subject :
    ∃ system letter,
      Reaches (step ungatedEnvironment) RestartsOpenAll initial system ∧
        letter ∈ system.deadLetters ∧ letter.ref = sampleRef ∧
        letter.registered = false := by
  have hfinal : ((run (checked (step ungatedEnvironment) fun _ _ => true)
      initial [.ingest (some sampleRef) samplePublisher, .deliver 0,
        .worker (.lookup true)]).map System.deadLetters) =
      some [⟨0, sampleRef, .ledgerNotFound "alpha", false⟩] := by decide
  obtain ⟨system, hrun, hletters⟩ := Option.map_eq_some_iff.mp hfinal
  have hreach : Reaches (step ungatedEnvironment) RestartsOpenAll initial
      system := by
    refine Reaches.run_checked .refl (fun before action hmem _ => ?_) hrun
    cases action with
    | restart opening => simp at hmem
    | _ => trivial
  have hmem : (⟨0, sampleRef, .ledgerNotFound "alpha", false⟩ : DeadLetter) ∈
      system.deadLetters := by simp [hletters]
  exact ⟨system, _, hreach, hmem, rfl, dead_letters_unregistered _ hreach hmem⟩

/-- A restart skips the directory of a registered subject, and the next message
of that subject is terminated. -/
theorem registered_subject_dead_lettered :
    ∃ system letter,
      Reaches (step sampleEnvironment) anyStep initial system ∧
        letter ∈ system.deadLetters ∧ letter.ref = sampleRef ∧
        letter.registered = true ∧
        Registered system.store sampleRef.subjectID := by
  have hfinal : ((run (step sampleEnvironment) initial
      (sampleRegistration ++ [.restart fun _ => .failed .canceled false,
        .ingest (some sampleRef) samplePublisher, .deliver 0,
        .worker (.lookup true)])).map fun system => (system.deadLetters,
          decide (Registered system.store sampleRef.subjectID))) =
      some ([⟨0, sampleRef, .ledgerNotFound "alpha", true⟩], true) := by
    decide
  obtain ⟨system, hrun, hvalues⟩ := Option.map_eq_some_iff.mp hfinal
  obtain ⟨hletters, hregistered⟩ := Prod.mk.inj hvalues
  exact ⟨system, ⟨0, sampleRef, .ledgerNotFound "alpha", true⟩,
    reaches_of_run hrun, by simp [hletters], rfl, rfl,
    of_decide_eq_true hregistered⟩

end ComplyTime.Pipeline
