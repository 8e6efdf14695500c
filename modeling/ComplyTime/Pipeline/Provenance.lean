import ComplyTime.Pipeline.OneEntryEach
import ComplyTime.Pipeline.TrustReceipts
import ComplyTime.Pipeline.TrustWrites

/-!
# The order in which a subject's records come into being

A subject is registered after its trust list was written, the list is written
after the ledger was created and its registration receipt sealed, and nothing
else is sealed before that receipt.  The ledger is visible to the worker while
it is still empty; what keeps artifacts out of it is that the floor of the
embedded policies admits no submission without a trust list.
-/

namespace ComplyTime.Pipeline

open TransitionSystem WorkQueue Subjects Ledgers Worker AdminSubscriber
open GatewayAdmin Trust KeyValue

/-- The trust bucket has an entry for the subject. -/
def HasTrust (store : TrustStore (List TrustEntry)) (subjectID : SubjectID) :
    Prop :=
  (store.publisherKV.entries (subjectKey subjectID)).isSome

/-- The receipt of a registration of the subject. -/
def RegistrationReceipt (env : Environment) (subjectID : SubjectID)
    (receipt : Bytes) : Prop :=
  ∃ now request, request.subjectID = subjectID ∧
    Wrapped env now (.register request) receipt

structure ProvenanceOrdered (env : Environment) (system : System) : Prop where
  trusted : ∀ subjectID, Registered system.store subjectID →
    HasTrust system.store subjectID
  logged : ∀ subjectID, HasTrust system.store subjectID →
    (system.locker.logs subjectID).isSome
  first : ∀ subjectID entry,
    (system.locker.entries subjectID)[0]? = some entry →
      RegistrationReceipt env subjectID entry.data

/-! ## The floor of publishing -/

/-- A submission is accepted only if it passes the middleware under policies
that have kept the floor of `base.cedar`. -/
def KeepsPublishFloor (env : Environment) : Prop :=
  ∀ subjectID trusted publisher,
    env.authorizes subjectID trusted publisher = true →
    ∃ policySet cfg ctx,
      Authz.publishFloor ∈ Cedar.PolicySet.policies policySet ∧
      ctx.issuer = publisher.issuer ∧ ctx.sub = publisher.sub ∧
      ctx.subjectID = subjectID ∧
      Authz.middleware policySet (some (lookupIn trusted)) cfg "POST"
        "/api/ingest" ctx = .ok ()

variable {env : Environment} {request : Request} {locker : Locker}
  {receipt : Bytes}

theorem authorizes_none (hfloor : KeepsPublishFloor env)
    (subjectID : SubjectID) (publisher : PublisherIdentity) :
    env.authorizes subjectID none publisher = false := by
  rw [← Bool.not_eq_true]
  intro hauthorized
  obtain ⟨policySet, cfg, ctx, hkept, -, -, -, hpassed⟩ :=
    hfloor subjectID none publisher hauthorized
  have hlookup := Authz.trusted_of_middleware_publish hkept hpassed
  simp [lookupIn] at hlookup

/-! ## The invariant -/

/-- What the stages of a request say about its subject's records. -/
structure RequestOrdered (locker : Locker)
    (store : TrustStore (List TrustEntry)) (request : Request) : Prop where
  pastLocker : request.gateway.pastLocker = true →
    locker.entries request.call.subjectID ≠ []
  modifying : ∀ subjectID body operator,
    request.call = .modifyTrust subjectID body operator →
      request.locker ≠ .unsent → locker.entries request.call.subjectID ≠ []
  registering : request.gateway = .registering →
    HasTrust store request.call.subjectID

/-- The entry was sealed on behalf of a registration. -/
def SealedByRegistration (requests : ℕ → Option Request) (entry : Entry) :
    Prop :=
  ∃ id request input operator, entry.sealer = .admin id ∧
    requests id = some request ∧
    request.call = .registerSubject input operator

structure Ordered (system : System) : Prop where
  trusted : ∀ subjectID, Registered system.store subjectID →
    HasTrust system.store subjectID
  started : ∀ subjectID, HasTrust system.store subjectID →
    system.locker.entries subjectID ≠ []
  first : ∀ subjectID entry,
    (system.locker.entries subjectID)[0]? = some entry →
      SealedByRegistration system.requests entry
  queued : ∀ ref, some ref ∈ payloads system.queue →
    system.locker.entries ref.subjectID ≠ []
  requests : ∀ id request, system.requests id = some request →
    RequestOrdered system.locker system.store request

/-! ### Growth -/

theorem SealedByRegistration.mono {requests later : ℕ → Option Request}
    {entry : Entry} (hsealed : SealedByRegistration requests entry)
    (hcontinues : Continues requests later) :
    SealedByRegistration later entry := by
  obtain ⟨id, request, input, operator, hsealer, hrequest, hcall⟩ := hsealed
  obtain ⟨after, hafter, hsame, -⟩ := hcontinues id request hrequest
  exact ⟨id, after, input, operator, hsealer, hafter, hsame.trans hcall⟩

theorem RequestOrdered.mono {locker next : Locker}
    {store later : TrustStore (List TrustEntry)}
    (hordered : RequestOrdered locker store request)
    (hentries : ∀ subjectID, locker.entries subjectID ≠ [] →
      next.entries subjectID ≠ [])
    (htrust : ∀ subjectID, HasTrust store subjectID →
      HasTrust later subjectID) :
    RequestOrdered next later request where
  pastLocker := fun hpast => hentries _ (hordered.pastLocker hpast)
  modifying := fun subjectID body operator hcall hsent =>
    hentries _ (hordered.modifying subjectID body operator hcall hsent)
  registering := fun hstage => htrust _ (hordered.registering hstage)

theorem ne_nil_of_prefix {entries later : List Entry}
    (hbegins : entries <+: later) (hentries : entries ≠ []) : later ≠ [] := by
  rintro rfl
  exact hentries (List.prefix_nil.mp hbegins)

theorem first_of_add {subjectID other : SubjectID} {appended entry : Entry}
    (hstarted : locker.entries subjectID ≠ [])
    (hfirst : ((locker.add subjectID appended).entries other)[0]? =
      some entry) : (locker.entries other)[0]? = some entry := by
  rcases getElem?_add locker hfirst with hold | ⟨rfl, hlength, -⟩
  · exact hold
  · exact absurd (List.length_eq_zero_iff.mp hlength.symm) hstarted

/-! ### One step -/

section Step

variable {system next : System}

section

variable (hinv : Ordered system)

include hinv

/-- A step that keeps the store and every log's first entry. -/
theorem Ordered.frame (hstore : next.store = system.store)
    (hgrows : Grows system.locker next.locker) (hfirst : ∀ subjectID entry,
      (next.locker.entries subjectID)[0]? = some entry →
        (system.locker.entries subjectID)[0]? = some entry)
    (hqueue : payloads next.queue = payloads system.queue)
    (hcontinues : Continues system.requests next.requests)
    (hrequests : ∀ id request, next.requests id = some request →
      RequestOrdered next.locker system.store request) : Ordered next where
  trusted := by
    rw [hstore]
    exact hinv.trusted
  started := by
    rw [hstore]
    exact fun subjectID htrust =>
      ne_nil_of_prefix (hgrows.entries subjectID) (hinv.started subjectID htrust)
  first := fun subjectID entry hentry =>
    (hinv.first subjectID entry (hfirst subjectID entry hentry)).mono hcontinues
  queued := by
    rw [hqueue]
    exact fun ref href =>
      ne_nil_of_prefix (hgrows.entries ref.subjectID) (hinv.queued ref href)
  requests := by
    rw [hstore]
    exact hrequests

/-- A step that changes neither the store, nor a log, nor a request. -/
theorem Ordered.same (hstore : next.store = system.store)
    (hentries : ∀ subjectID, next.locker.entries subjectID =
      system.locker.entries subjectID)
    (hqueue : ∀ ref, some ref ∈ payloads next.queue →
      system.locker.entries ref.subjectID ≠ [])
    (hrequests : next.requests = system.requests) : Ordered next where
  trusted := hstore ▸ hinv.trusted
  started := by
    rw [hstore]
    intro subjectID htrust
    rw [hentries]
    exact hinv.started subjectID htrust
  first := by
    intro subjectID entry hentry
    rw [hentries] at hentry
    rw [hrequests]
    exact hinv.first subjectID entry hentry
  queued := by
    intro ref href
    rw [hentries]
    exact hqueue ref href
  requests := by
    intro id request hrequest
    rw [hrequests] at hrequest
    rw [hstore]
    refine (hinv.requests id request hrequest).mono (fun subjectID hne => ?_)
      fun _ htrust => htrust
    rwa [hentries]

theorem Ordered.requests_of_grows (hgrows : Grows system.locker locker) (id : ℕ)
    (request : Request) (hrequest : system.requests id = some request) :
    RequestOrdered locker system.store request :=
  (hinv.requests id request hrequest).mono
    (fun subjectID => ne_nil_of_prefix (hgrows.entries subjectID))
    fun _ htrust => htrust

theorem ordered_worker {event : WorkerEvent} (hknown : Consistent env system)
    (htransition : WorkerTransition env system event next) : Ordered next := by
  cases htransition with
  | @added sequence ref hworker =>
    obtain ⟨message, hmessage, -, hpayload⟩ := hknown.held sequence
      (by rw [hworker]; rfl)
    have hqueued : some ref ∈ payloads system.queue := by
      rw [← hpayload ref (by rw [hworker]; rfl)]
      exact mem_payloads hmessage
    have hgrows := grows_add system.locker ref.subjectID
      ⟨ref.receiptBytes, .worker⟩
    exact hinv.frame rfl hgrows
      (fun _ _ => first_of_add (hinv.queued ref hqueued)) rfl (.refl _)
      (hinv.requests_of_grows hgrows)
  | malformed hworker hmessage hpayload =>
    refine hinv.same rfl (fun _ => rfl) ?_ rfl
    rw [payloads_of_reaches]
    exact hinv.queued
  | missing hworker hmessage hpayload hledger =>
    refine hinv.same rfl (fun _ => rfl) ?_ rfl
    rw [System.reject, payloads_of_reaches]
    exact hinv.queued
  | addFailed hworker =>
    refine hinv.same rfl (fun _ => rfl) ?_ rfl
    rw [System.reject, payloads_of_reaches]
    exact hinv.queued
  | acked hworker =>
    refine hinv.same rfl (fun _ => rfl) ?_ rfl
    rw [System.workerAck, payloads_of_reaches]
    exact hinv.queued
  | _ => exact hinv.same rfl (fun _ => rfl) hinv.queued rfl

end

/-- A request whose locker side has moved, with the log possibly grown. -/
theorem RequestOrdered.advance
    (hordered : RequestOrdered system.locker system.store request)
    (hunsent : request.locker ≠ .unsent) (hgrows : Grows system.locker locker)
    (stage : AdminStage) :
    RequestOrdered locker system.store { request with locker := stage } where
  pastLocker := fun hpast =>
    ne_nil_of_prefix (hgrows.entries _) (hordered.pastLocker hpast)
  modifying := fun subjectID body operator hcall _ =>
    ne_nil_of_prefix (hgrows.entries _)
      (hordered.modifying subjectID body operator hcall hunsent)
  registering := hordered.registering

variable {id : ℕ}

section

variable (hinv : Ordered system) (hrequest : system.requests id = some request)

include hinv hrequest

/-- A step of the admin subscriber that appends nothing. -/
theorem Ordered.advance (hunsent : request.locker ≠ .unsent)
    {stage : AdminStage}
    (hmay : mayHaveSealed request.locker = true → mayHaveSealed stage = true)
    (hstore : next.store = system.store)
    (hgrows : Grows system.locker next.locker)
    (hentries : ∀ subjectID, next.locker.entries subjectID =
      system.locker.entries subjectID) (hqueue : next.queue = system.queue)
    (hrequests : next.requests = Function.update system.requests id
      (some { request with locker := stage })) : Ordered next := by
  refine hinv.frame hstore hgrows ?_ (by rw [hqueue]) ?_ ?_
  · intro subjectID entry hentry
    rwa [hentries] at hentry
  · rw [hrequests]
    exact continues_update hrequest rfl hmay
  · rw [hrequests]
    exact forall_update (hinv.requests_of_grows hgrows)
      ((hinv.requests id request hrequest).advance hunsent hgrows stage)

/-- The append of an admin request: the first entry of a log is sealed by a
registration. -/
theorem ordered_added (hstage : request.locker = .sealing receipt) :
    Ordered (system.adminAdd id request receipt none) := by
  have hunsent : request.locker ≠ .unsent := by simp [hstage]
  have hgrows := grows_add system.locker (natsRequest request.call).subjectID
    ⟨receipt, .admin id⟩
  have hcontinues : Continues system.requests
      (system.adminAdd id request receipt none).requests :=
    continues_update hrequest rfl fun _ => rfl
  have hrequests : ∀ other found,
      (system.adminAdd id request receipt none).requests other = some found →
        RequestOrdered (system.adminAdd id request receipt none).locker
          system.store found :=
    forall_update (hinv.requests_of_grows hgrows)
      ((hinv.requests id request hrequest).advance hunsent hgrows _)
  cases hcall : request.call with
  | modifyTrust subjectID body operator =>
    have hstarted := (hinv.requests id request hrequest).modifying subjectID
      body operator hcall hunsent
    rw [← natsRequest_subjectID] at hstarted
    exact hinv.frame rfl hgrows (fun _ _ => first_of_add hstarted) rfl
      hcontinues hrequests
  | registerSubject input operator =>
    refine ⟨hinv.trusted, fun subjectID htrust => ne_nil_of_prefix
      (hgrows.entries subjectID) (hinv.started subjectID htrust), ?_,
      fun ref href => ne_nil_of_prefix (hgrows.entries ref.subjectID)
        (hinv.queued ref href), hrequests⟩
    intro subjectID entry hentry
    rcases getElem?_add system.locker hentry with hold | ⟨-, -, rfl⟩
    · exact (hinv.first subjectID entry hold).mono hcontinues
    · exact ⟨id, _, input, operator, rfl, Function.update_self .., hcall⟩

theorem ordered_admin {event : AdminEvent}
    (htransition : AdminTransition env system id request event next) :
    Ordered next := by
  have hsent := htransition.sent
  cases htransition with
  | received hstage =>
    exact hinv.advance hrequest hsent
      (by simp [hstage, mayHaveSealed, hasSealed]) rfl (.refl _)
      (fun _ => rfl) rfl rfl
  | lost hstage =>
    exact hinv.advance hrequest hsent
      (by simp [mayHaveSealed]) rfl (.refl _) (fun _ => rfl) rfl rfl
  | @acquired opening locker stage hstage hlocker houtcome =>
    exact hinv.advance hrequest hsent
      (by simp [hstage, mayHaveSealed, hasSealed]) rfl
      (grows_of_acquired hlocker) (entries_of_acquired hlocker) rfl rfl
  | addFailed hstage =>
    exact hinv.advance hrequest hsent
      (by simp [hstage, mayHaveSealed, hasSealed]) rfl (.refl _)
      (fun _ => rfl) rfl rfl
  | added hstage => exact ordered_added hinv hrequest hstage
  | @indexed receipt index hstage =>
    refine hinv.advance hrequest hsent ?_ rfl
      (grows_record _ _ _ _) (fun _ => rfl) rfl rfl
    cases hcall : natsRequest request.call <;>
      simp [AdminRequest.afterSeal, mayHaveSealed, hasSealed]
  | announced hstage =>
    exact hinv.advance hrequest hsent
      (by simp [mayHaveSealed, hasSealed]) rfl (.refl _) (fun _ => rfl) rfl
      rfl

end

theorem hasTrust_trustWritten {call : AdminCall}
    {store : TrustStore (List TrustEntry)} {subjectID : SubjectID} :
    HasTrust (call.trustWritten trustCodec store) subjectID ↔
      subjectID = call.subjectID ∨ HasTrust store subjectID := by
  unfold HasTrust AdminCall.trustWritten
  by_cases heq : subjectID = call.subjectID
  · subst heq
    simp
  · have hkey : subjectKey subjectID ≠ subjectKey call.subjectID :=
      subjectKey_injective.ne heq
    simp only [entries_write_of_ne _ _ hkey, heq, false_or]

section Outcome

variable {call : AdminCall} {store later : TrustStore (List TrustEntry)}
  {stage after : GatewayStage} {subjectID : SubjectID}

theorem hasTrust_of_outcome
    (houtcome : Outcome trustCodec call store stage later after)
    (htrust : HasTrust store subjectID) : HasTrust later subjectID := by
  cases houtcome with
  | written _ => exact hasTrust_trustWritten.mpr (.inr htrust)
  | _ => exact htrust

theorem hasTrust_before_outcome
    (houtcome : Outcome trustCodec call store stage later after)
    (htrust : HasTrust later subjectID) :
    HasTrust store subjectID ∨
      (stage.pastLocker = true ∧ subjectID = call.subjectID) := by
  cases houtcome with
  | written _ =>
    rcases hasTrust_trustWritten.mp htrust with heq | hbefore
    · exact .inr ⟨rfl, heq⟩
    · exact .inl hbefore
  | _ => exact .inl htrust

theorem hasTrust_of_registering
    (houtcome : Outcome trustCodec call store stage later .registering) :
    HasTrust later call.subjectID := by
  generalize hafter : GatewayStage.registering = written at houtcome
  cases houtcome with
  | written _ => exact hasTrust_trustWritten.mpr (.inl rfl)
  | @registered body operator _ hcall hregistered =>
    subst hafter
    rcases hregistered with hnext | ⟨_, -, hfailed⟩
    · unfold afterRegistration at hnext
      split at hnext <;> cases hnext
    · cases hfailed
  | _ => cases hafter

end Outcome

/-- A request to the trust store: what it writes rests on what is there. -/
theorem ordered_outcome (hinv : Ordered system)
    (hrequest : system.requests id = some request)
    {store : TrustStore (List TrustEntry)} {stage : GatewayStage}
    (houtcome : Outcome trustCodec request.call system.store request.gateway
      store stage) (hcontinues : Continues system.requests
      (Function.update system.requests id
        (some ⟨request.call, stage, lockerAfter stage request.locker⟩))) :
    Ordered ({ system with store := store }.setRequest id
      ⟨request.call, stage, lockerAfter stage request.locker⟩) := by
  have hordered := hinv.requests id request hrequest
  have hgrown : ∀ subjectID, HasTrust system.store subjectID →
      HasTrust store subjectID := fun _ => hasTrust_of_outcome houtcome
  have hstarted : stage.pastLocker = true ∨ stage = .requesting →
      system.locker.entries request.call.subjectID ≠ [] := by
    intro hstage
    rcases started_of_outcome houtcome hstage with hpast | hregistered
    · exact hordered.pastLocker hpast
    · exact hinv.started _ (hinv.trusted _ hregistered)
  refine ⟨?_, ?_, fun subjectID entry hentry =>
    (hinv.first subjectID entry hentry).mono hcontinues, hinv.queued, ?_⟩
  · intro subjectID hregistered
    rcases registered_before_outcome houtcome hregistered with
      hbefore | ⟨hregistering, rfl, -⟩
    · exact hgrown _ (hinv.trusted _ hbefore)
    · exact hgrown _ (hordered.registering hregistering)
  · intro subjectID htrust
    rcases hasTrust_before_outcome houtcome htrust with
      hbefore | ⟨hpast, rfl⟩
    · exact hinv.started _ hbefore
    · exact hordered.pastLocker hpast
  · apply forall_update
    · intro other found hfound
      exact (hinv.requests other found hfound).mono (fun _ hne => hne) hgrown
    · refine ⟨fun hpast => hstarted (.inl hpast), ?_, ?_⟩
      · intro subjectID body operator hcall hsent
        by_cases hsends : stage = .requesting
        · exact hstarted (.inr hsends)
        · simp only [lockerAfter, if_neg hsends] at hsent
          exact hordered.modifying subjectID body operator hcall hsent
      · intro hregistering
        simp only at hregistering
        subst hregistering
        exact hasTrust_of_registering houtcome

theorem hasSealed_of_hear {hearing : Hearing}
    (hheard : heardFrom request.locker hearing = true)
    (hpast : (request.call.hear hearing).pastLocker = true) :
    hasSealed request.locker = true := by
  rcases hear_cases request.call hearing with
    ⟨rfl, -⟩ | ⟨response, hresponse, -⟩
  · rw [replied_of_heardFrom hheard]
    simp [hasSealed]
  · rw [hresponse] at hpast
    cases hpast

theorem ordered_gateway {event : GatewayEvent} (hinv : Ordered system)
    (hknown : Recorded env system)
    (hrequest : system.requests id = some request)
    (htransition : GatewayTransition env system id request event next) :
    Ordered next := by
  have hrecorded := hknown.requests id request hrequest
  have hordered := hinv.requests id request hrequest
  rcases htransition.outcome with
    ⟨store, stage, houtcome, rfl⟩ | ⟨hearing, -, hstage, hheard, rfl⟩
  · refine ordered_outcome hinv hrequest houtcome
      (continues_update hrequest rfl fun hmay => ?_)
    by_cases hsends : stage = .requesting
    · subst hsends
      obtain ⟨⟨revision, hwriting⟩, subjectID, body, operator, hcall⟩ :=
        houtcome.requesting
      rw [hrecorded.waiting subjectID body operator hcall
        (.inr (by rw [hwriting]; rfl))] at hmay
      cases hmay
    · simpa [lockerAfter, hsends] using hmay
  · refine hinv.frame rfl (.refl _) (fun _ _ hentry => hentry) rfl
      (continues_update hrequest rfl fun hmay => hmay)
      (forall_update hinv.requests ⟨?_, hordered.modifying, ?_⟩)
    · intro hpast
      obtain ⟨entry, hentry, -⟩ :=
        hrecorded.recorded (hasSealed_of_hear hheard hpast)
      exact List.ne_nil_of_mem hentry
    · intro hregistering
      simp only at hregistering
      rcases hear_cases request.call hearing with
        ⟨-, hread⟩ | ⟨response, hresponse, -⟩
      · rw [hread] at hregistering
        cases hregistering
      · rw [hresponse] at hregistering
        cases hregistering

theorem ordered_call {call : AdminCall} (hinv : Ordered system)
    (hstep : callStep env system id call = some next) : Ordered next := by
  obtain ⟨hfresh, rfl⟩ := callStep_eq_some hstep
  refine hinv.frame rfl (.refl _) (fun _ _ hentry => hentry) rfl
    (continues_insert _ hfresh) (forall_update hinv.requests ?_)
  rcases begin_cases env.validators call with ⟨response, -, hbegin⟩ |
    ⟨body, operator, hcall, -, hbegin⟩ |
    ⟨subjectID, body, operator, hcall, -, hbegin⟩
  · rw [hbegin]
    exact ⟨by simp [GatewayStage.pastLocker], by simp [lockerAfter], by simp⟩
  · rw [hbegin, hcall]
    exact ⟨by simp [GatewayStage.pastLocker], by simp, by simp⟩
  · rw [hbegin]
    exact ⟨by simp [GatewayStage.pastLocker], by simp [lockerAfter], by simp⟩

theorem ordered_restart (hinv : Ordered system)
    (opening : SubjectID → Opening) :
    Ordered (restartStep env system opening) := by
  refine ⟨hinv.trusted, hinv.started, ?_, hinv.queued, ?_⟩
  · intro subjectID entry hentry
    refine (hinv.first subjectID entry hentry).mono ?_
    intro id request hrequest
    exact ⟨{ request with locker := request.locker.crash },
      by simp [restartStep, hrequest], rfl, mayHaveSealed_crash⟩
  · intro id request hrequest
    simp only [restartStep, Option.map_eq_some_iff] at hrequest
    obtain ⟨before, hbefore, rfl⟩ := hrequest
    have hordered := hinv.requests id before hbefore
    refine ⟨hordered.pastLocker, ?_, hordered.registering⟩
    intro subjectID body operator hcall hsent
    refine hordered.modifying subjectID body operator hcall ?_
    intro hunsent
    simp [hunsent, AdminStage.crash] at hsent

/-- What is accepted names a subject whose registration receipt is sealed. -/
theorem ordered_ingest (hfloor : KeepsPublishFloor env)
    (hinv : Ordered system) {payload : Option IngestRef}
    {publisher : PublisherIdentity}
    (hstep : ingestStep env system payload publisher = some next) :
    Ordered next := by
  have hadmitted : ∀ ref, payload = some ref →
      HasTrust system.store ref.subjectID := by
    rintro ref rfl
    by_contra hnone
    have hstored : storedTrustList trustCodec system.store ref.subjectID =
        none := by
      simp only [HasTrust, Option.isSome_iff_ne_none, ne_eq, not_not] at hnone
      simp [storedTrustList, hnone]
    simp [ingestStep, hstored, authorizes_none hfloor] at hstep
  obtain rfl := ingestStep_eq_some hstep
  refine hinv.same rfl (fun _ => rfl) ?_ rfl
  intro ref href
  rw [payloads_publish, List.mem_append, List.mem_singleton] at href
  rcases href with hold | hnew
  · exact hinv.queued ref hold
  · exact hinv.started _ (hadmitted ref hnew.symm)

theorem ordered_step {action : Action} (hfloor : KeepsPublishFloor env)
    (hconsistent : Consistent env system) (hknown : Recorded env system)
    (hinv : Ordered system) (hstep : step env system action = some next) :
    Ordered next := by
  cases step_cases hstep with
  | ingested => exact ordered_ingest hfloor hinv hstep
  | delivered _ hmessage =>
    refine hinv.same rfl (fun _ => rfl) ?_ rfl
    rw [payloads_deliver hmessage]
    exact hinv.queued
  | worker htransition => exact ordered_worker hinv hconsistent htransition
  | called => exact ordered_call hinv hstep
  | gateway hrequest htransition =>
    exact ordered_gateway hinv hknown hrequest htransition
  | admin hrequest htransition => exact ordered_admin hinv hrequest htransition
  | restarted => exact ordered_restart hinv _
  | ticked => exact hinv.same rfl (fun _ => rfl) hinv.queued rfl
  | expired =>
    refine hinv.same rfl (fun _ => rfl) ?_ rfl
    rw [payloads_settle]
    exact hinv.queued

end Step

theorem ordered_initial : Ordered initial where
  trusted := by simp [initial, Registered, emptyTrustStore, emptyBucket]
  started := by simp [initial, HasTrust, emptyTrustStore, emptyBucket]
  first := by simp [initial]
  queued := by simp [initial, payloads]
  requests := by simp [initial]

theorem ordered_of_reaches {system : System} {guard : System → Action → Prop}
    (hfloor : KeepsPublishFloor env)
    (hreach : Reaches (step env) guard initial system) : Ordered system :=
  hreach.invariant_with
    (fun _ hreached =>
      And.intro (consistent_of_reaches hreached) (recorded_of_reaches hreached))
    ordered_initial
    fun _ _ _ hknown hinv _ hstep =>
      ordered_step hfloor hknown.1 hknown.2 hinv hstep

/-! ## The order -/

/-- In every run, a registered subject has a trust list, a subject with a trust
list has a log, and the first entry of a log is its registration receipt. -/
theorem provenance_ordered {env : Environment} {system : System}
    (hfloor : KeepsPublishFloor env)
    (hreach : Reaches (step env) anyStep initial system) :
    ProvenanceOrdered env system := by
  have hordered := ordered_of_reaches hfloor hreach
  have hrecorded := recorded_of_reaches hreach
  refine ⟨hordered.trusted, ?_, ?_⟩
  · intro subjectID htrust
    have hstarted := hordered.started subjectID htrust
    cases hlog : system.locker.logs subjectID with
    | some log => rfl
    | none => simp [Locker.entries, hlog] at hstarted
  · intro subjectID entry hentry
    obtain ⟨id, request, input, operator, hsealer, hrequest, hcall⟩ :=
      hordered.first subjectID entry hentry
    obtain ⟨found, hfound, hsubject, -, now, hwrapped⟩ :=
      hrecorded.entries subjectID entry (List.mem_of_getElem? hentry) id
        hsealer
    obtain rfl : request = found := by simpa [hrequest] using hfound
    rw [← natsRequest_subjectID] at hsubject
    rw [hcall] at hwrapped hsubject
    exact ⟨now, _, hsubject, hwrapped⟩

/-- Whoever a deployment authorizes has passed the middleware under its
policies. -/
theorem keepsPublishFloor_deploymentUnder
    {policySet : Cedar.PolicySet Cedar.Request}
    (hkept : Authz.publishFloor ∈ Cedar.PolicySet.policies policySet) :
    KeepsPublishFloor (deploymentUnder policySet) := by
  intro subjectID trusted publisher hauthorized
  exact ⟨policySet, ⟨"", ""⟩, workloadContext subjectID publisher, hkept, rfl,
    rfl, rfl, isOk_eq_true_iff.mp hauthorized⟩

/-- A registered subject that has accepted a submission. -/
theorem deployed_registration_ordered :
    ∃ system,
      run (step deployment) initial (sampleRegistration ++
        [.ingest (some sampleRef) samplePublisher]) = some system ∧
      Registered system.store "alpha" ∧
      (system.locker.entries "alpha").length = 1 ∧
      ProvenanceOrdered deployment system := by
  have hobserved : ((run (step deployment) initial (sampleRegistration ++
      [.ingest (some sampleRef) samplePublisher])).map fun system =>
        (decide (Registered system.store "alpha"),
          (system.locker.entries "alpha").length)) = some (true, 1) := by
    rw [deployment_eq]
    decide +kernel
  have hkept : Authz.publishFloor ∈ Cedar.PolicySet.policies
      (Cedar.ofDocument Authz.basePolicies) := by
    rw [Cedar.policies_ofDocument, Authz.basePolicies]
    simp
  obtain ⟨system, hrun, hvalues⟩ := Option.map_eq_some_iff.mp hobserved
  obtain ⟨hregistered, hlength⟩ := Prod.mk.inj hvalues
  exact ⟨system, hrun, of_decide_eq_true hregistered, hlength,
    provenance_ordered (keepsPublishFloor_deploymentUnder hkept)
      (reaches_of_run hrun)⟩

/-! ## An overlay without the floor -/

/-- What is loaded when an overlay file holds two policies. -/
def overlaidPolicies : Cedar.PolicySet Cedar.Request :=
  Cedar.mergeDocuments Cedar.entryOrder (Cedar.ofDocument Authz.basePolicies)
    [[Authz.openPublishing, Authz.auditorRegistration]]

theorem loads_overlaidPolicies :
    Authz.loadEmbeddedPolicies Cedar.entryOrder "/etc/cedar" (.ok
      [Authz.overlayFile [Authz.openPublishing, Authz.auditorRegistration]]) =
        .ok overlaidPolicies := by
  rw [Authz.loadEmbeddedPolicies_ok _ _ (Authz.readable_overlayFile _),
    Authz.policyDocuments_overlayFile]
  rfl

theorem authorizes_overlaidPolicies :
    (deploymentUnder overlaidPolicies).authorizes "alpha" none
      samplePublisher = true := by
  have hidentity : (workloadContext "alpha" samplePublisher).issuer ≠ "" ∧
      (workloadContext "alpha" samplePublisher).sub ≠ "" := by decide
  have hsubject : (workloadContext "alpha" samplePublisher).subjectID ≠ "" := by
    decide
  have hallowed : Cedar.authorize (Cedar.PolicySet.policies overlaidPolicies)
      (Authz.cedarRequest ⟨"", ""⟩ (workloadContext "alpha" samplePublisher)
        Authz.actionPublishArtifact "alpha" false) = .allow := by
    decide
  have hlookup : lookupIn none "alpha" samplePublisher.issuer
      samplePublisher.sub = .ok false := rfl
  exact isOk_eq_true_iff.mpr (Authz.middleware_publish_eq_ok_iff.mpr
    ⟨hidentity, hsubject, false, hlookup, hallowed⟩)

section

variable (hbegin : sampleCall.begin env.validators = .requesting)
  (hwrapped : Wrapped env 0 (natsRequest sampleCall) receipt)

include hbegin hwrapped

/-- The ledger of `alpha` is created; the receipt of its registration is still
to be added. -/
theorem run_opening :
    run (step env) initial (sampleRegistration.take 3) = some
      (System.setRequest { initial with
        locker := initial.locker.openLedger env.sha256Hex "alpha" (.opened 0) }
        0 ⟨sampleCall, .requesting, .sealing receipt⟩) := by
  have hcalled : step env initial (.call 0 sampleCall) = some
      (initial.setRequest 0 ⟨sampleCall, .requesting, .inFlight⟩) := by
    simp [step, callStep, hbegin, initial, lockerAfter]
  have hacquired : (natsRequest sampleCall).acquireLedger env.sha256Hex
      initial.locker (.opened 0) = (initial.locker.openLedger env.sha256Hex
        "alpha" (.opened 0), .ok ()) := by rfl
  unfold Wrapped at hwrapped
  simp only [sampleRegistration, List.take, run, hcalled, Option.bind_some]
  simp [step, adminStep, System.setRequest, System.adminAcquire, hacquired]
  simp only [initial] at hwrapped ⊢
  rw [hwrapped]

/-- Whoever is admitted without a trust list can seal into a ledger that has
no registration receipt yet. -/
theorem seals_before_registration {ref : IngestRef}
    {publisher : PublisherIdentity}
    (hadmitted : env.authorizes "alpha" none publisher = true)
    (hsubject : ref.subjectID = "alpha") :
    ∃ system, Reaches (step env) anyStep initial system ∧
      (system.locker.entries "alpha")[0]? =
        some ⟨ref.receiptBytes, .worker⟩ := by
  have hopened := run_opening hbegin hwrapped
  generalize hsystem : System.setRequest { initial with
    locker := initial.locker.openLedger env.sha256Hex "alpha" (.opened 0) }
      0 ⟨sampleCall, .requesting, .sealing receipt⟩ = system at hopened
  have hidle : system.worker = .idle := by
    rw [← hsystem]
    rfl
  have hledger : system.locker.ledgers ref.subjectID =
      some (newLedger env.sha256Hex [] 0) := by
    rw [← hsystem, hsubject]
    rfl
  have hentries : system.locker.entries "alpha" = [] := by
    rw [← hsystem]
    rfl
  have hstored : env.authorizes ref.subjectID
      (storedTrustList trustCodec system.store ref.subjectID) publisher =
        true := by
    rw [← hsystem, hsubject]
    exact hadmitted
  obtain ⟨next, hnext, -, -, -, -, hlocker, -⟩ :=
    run_sealActions hidle hstored hledger rfl
  refine ⟨next, (reaches_of_run hopened).trans (reaches_of_run hnext), ?_⟩
  rw [hlocker, entries_record, ← hsubject, entries_add_self, hsubject, hentries]
  rfl

end

/-- Under the overlay a submission is accepted while its subject is being
registered, and its receipt becomes the first entry. -/
theorem overlay_seals_before_registration :
    ∃ policySet, Authz.loadEmbeddedPolicies Cedar.entryOrder "/etc/cedar" (.ok
        [Authz.overlayFile [Authz.openPublishing,
          Authz.auditorRegistration]]) = .ok policySet ∧
      ∃ submission : Submission,
        submission.Answered Receipt.plainLibrary Ingest.envelopeSchemas ∧
        ∃ system, Reaches (step (deploymentUnder policySet)) anyStep initial
            system ∧
          (system.locker.entries "alpha")[0]? =
            some ⟨submission.ref.receiptBytes, .worker⟩ ∧
          ¬ ProvenanceOrdered (deploymentUnder policySet) system := by
  have hbegin : sampleCall.begin (registryValidators asciiToLower publicKey
      (some deploymentRegistry)) = .requesting := by decide +kernel
  obtain ⟨receipt, hwrapped⟩ :=
    exists_wrapped overlaidPolicies 0 (natsRequest sampleCall)
  have hanswered := answered_twiceSubmission "2026-01-01T00:00:00Z" "job"
  have hsubject : (twiceSubmission "2026-01-01T00:00:00Z"
      "job").ref.subjectID = "alpha" := rfl
  obtain ⟨system, hreach, hfirst⟩ := seals_before_registration hbegin hwrapped
    authorizes_overlaidPolicies hsubject
  refine ⟨overlaidPolicies, loads_overlaidPolicies, _, hanswered, system,
    hreach, hfirst, fun hordered => ?_⟩
  obtain ⟨now, request, -, hregistration⟩ := hordered.first "alpha" _ hfirst
  have hregistered := artifactType_of_wrapped
    (wrapsReceipts_deploymentUnder overlaidPolicies) hregistration
  obtain ⟨artifactType, hclassified, hwrap⟩ :=
    Ingest.ingestArtifact_eq_ok hanswered
  rw [Ingest.classify_envelope rfl] at hclassified
  have hsubmitted := artifactType_wrap Receipt.canonicalizes_plainLibrary
    Receipt.renders_plainLibrary hwrap
  obtain ⟨rfl, -⟩ := Prod.mk.inj (Except.ok.inj hclassified)
  have htypes : some "dsse" ≠ some "subject-registration" := by decide
  exact htypes (hsubmitted.symm.trans hregistered)

end ComplyTime.Pipeline
