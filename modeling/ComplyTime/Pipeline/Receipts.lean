import ComplyTime.Pipeline.Consistency

/-!
# What the admin handlers have sealed

In every run, the entry an admin request has appended is the receipt of that
request, no request appends more than one, and a request whose locker side has
replied without an error has appended one.  The trust and provenance properties
of the pipeline read the ledger through these facts.
-/

namespace ComplyTime.Pipeline

open TransitionSystem WorkQueue Subjects Ledgers Worker AdminSubscriber
open GatewayAdmin Trust

/-- The locker's side of a request has appended its receipt. -/
def hasSealed : AdminStage → Bool
  | .indexing _ _ => true
  | .announcing => true
  | .replied error => decide (error = "")
  | _ => false

/-- The receipt may be in the log: a crash forgets whether it is. -/
def mayHaveSealed : AdminStage → Bool
  | .dropped => true
  | stage => hasSealed stage

/-- What the stages of a request say about its receipt. -/
structure RequestRecorded (env : Environment) (locker : Locker) (id : ℕ)
    (request : Request) : Prop where
  wrapped : ∀ receipt, request.locker = .sealing receipt →
    ∃ now, Wrapped env now (natsRequest request.call) receipt
  recorded : hasSealed request.locker = true →
    ∃ entry ∈ locker.entries request.call.subjectID, entry.sealer = .admin id
  waiting : ∀ subjectID body operator,
    request.call = .modifyTrust subjectID body operator →
      request.gateway = .checkingSubject ∨
          request.gateway.pastLocker = true →
        request.locker = .unsent

/-- An entry an admin request has appended is the receipt of that request. -/
def EntryRecorded (env : Environment) (requests : ℕ → Option Request)
    (subjectID : SubjectID) (entry : Entry) : Prop :=
  ∀ id, entry.sealer = .admin id →
    ∃ request, requests id = some request ∧
      request.call.subjectID = subjectID ∧
      mayHaveSealed request.locker = true ∧
      ∃ now, Wrapped env now (natsRequest request.call) entry.data

/-- The entries of a request in the log of a subject. -/
def sealedBy (locker : Locker) (subjectID : SubjectID) (id : ℕ) :
    List Entry :=
  (locker.entries subjectID).filter fun entry =>
    decide (entry.sealer = .admin id)

structure Recorded (env : Environment) (system : System) : Prop where
  requests : ∀ id request, system.requests id = some request →
    RequestRecorded env system.locker id request
  entries : ∀ subjectID, ∀ entry ∈ system.locker.entries subjectID,
    EntryRecorded env system.requests subjectID entry
  once : ∀ subjectID id, (sealedBy system.locker subjectID id).length ≤ 1

/-! ## Requests keep their call -/

/-- Every request of `requests` is still there, with the same call, and what
may have been sealed for it may still have been. -/
def Continues (requests later : ℕ → Option Request) : Prop :=
  ∀ id request, requests id = some request →
    ∃ after, later id = some after ∧ after.call = request.call ∧
      (mayHaveSealed request.locker = true → mayHaveSealed after.locker = true)

theorem Continues.refl (requests : ℕ → Option Request) :
    Continues requests requests :=
  fun _ request hrequest => ⟨request, hrequest, rfl, fun hmay => hmay⟩

variable {id : ℕ} {env : Environment} {request : Request}

variable {requests : ℕ → Option Request} {after : Request}

theorem continues_update (hrequest : requests id = some request)
    (hcall : after.call = request.call)
    (hmay : mayHaveSealed request.locker = true →
      mayHaveSealed after.locker = true) :
    Continues requests (Function.update requests id (some after)) := by
  intro other found hfound
  by_cases heq : other = id
  · subst heq
    obtain rfl : request = found := by simpa [hrequest] using hfound
    exact ⟨after, Function.update_self .., hcall, hmay⟩
  · exact ⟨found, by rwa [Function.update_of_ne heq], rfl, fun hkept => hkept⟩

theorem continues_insert (after : Request) (hfresh : requests id = none) :
    Continues requests (Function.update requests id (some after)) := by
  intro other found hfound
  have hne : other ≠ id := by
    rintro rfl
    rw [hfresh] at hfound
    cases hfound
  exact ⟨found, by rwa [Function.update_of_ne hne], rfl, fun hkept => hkept⟩

theorem EntryRecorded.mono {requests later : ℕ → Option Request}
    {subjectID : SubjectID} {entry : Entry}
    (hrecorded : EntryRecorded env requests subjectID entry)
    (hcontinues : Continues requests later) :
    EntryRecorded env later subjectID entry := by
  intro id hsealer
  obtain ⟨request, hrequest, hsubject, hmay, now, hwrapped⟩ :=
    hrecorded id hsealer
  obtain ⟨after, hafter, hcall, hkept⟩ := hcontinues id request hrequest
  exact ⟨after, hafter, by rw [hcall, hsubject], hkept hmay, now,
    by rwa [hcall]⟩

theorem RequestRecorded.mono {locker next : Locker}
    (hrecorded : RequestRecorded env locker id request) (hgrows : ∀ subjectID,
      locker.entries subjectID ⊆ next.entries subjectID) :
    RequestRecorded env next id request where
  wrapped := hrecorded.wrapped
  recorded := by
    intro hsealed
    obtain ⟨entry, hentry, hsealer⟩ := hrecorded.recorded hsealed
    exact ⟨entry, hgrows _ hentry, hsealer⟩
  waiting := hrecorded.waiting

/-! ## One step -/

section Step

variable {system next : System}

section

variable (hinv : Recorded env system)
  (hentries : ∀ subjectID, next.locker.entries subjectID =
    system.locker.entries subjectID)

include hinv hentries

/-- A step that appends nothing. -/
theorem Recorded.frame (hcontinues : Continues system.requests next.requests)
    (hrequests : ∀ id request, next.requests id = some request →
      RequestRecorded env next.locker id request) : Recorded env next where
  requests := hrequests
  entries := by
    intro subjectID entry hentry
    rw [hentries] at hentry
    exact (hinv.entries subjectID entry hentry).mono hcontinues
  once := by
    intro subjectID id
    rw [sealedBy, hentries]
    exact hinv.once subjectID id

theorem Recorded.same (hrequests : next.requests = system.requests) :
    Recorded env next := by
  apply hinv.frame hentries
  · rw [hrequests]
    exact .refl _
  · intro id request hrequest
    rw [hrequests] at hrequest
    apply (hinv.requests id request hrequest).mono
    intro subjectID
    rw [hentries]
    exact List.Subset.refl _

end

/-- A step that appends nothing and moves one request. -/
theorem Recorded.move (hinv : Recorded env system)
    (hrequest : system.requests id = some request) (hrequests : next.requests =
      Function.update system.requests id (some after))
    (hentries : ∀ subjectID, next.locker.entries subjectID =
      system.locker.entries subjectID) (hcall : after.call = request.call)
    (hmay : mayHaveSealed request.locker = true →
      mayHaveSealed after.locker = true)
    (hafter : RequestRecorded env system.locker id after) :
    Recorded env next := by
  have hsubset : ∀ subjectID, system.locker.entries subjectID ⊆
      next.locker.entries subjectID := by
    intro subjectID
    rw [hentries]
    exact List.Subset.refl _
  apply hinv.frame hentries
  · rw [hrequests]
    exact continues_update hrequest hcall hmay
  · rw [hrequests]
    apply forall_update
    · intro other found hfound
      exact (hinv.requests other found hfound).mono hsubset
    · exact hafter.mono hsubset

theorem Recorded.sealedBy_eq_nil (hinv : Recorded env system)
    (hrequest : system.requests id = some request)
    (hmay : mayHaveSealed request.locker = false) (subjectID : SubjectID) :
    sealedBy system.locker subjectID id = [] := by
  rw [sealedBy, List.filter_eq_nil_iff]
  intro entry hentry hsealer
  obtain ⟨found, hfound, -, hsealed, -⟩ :=
    hinv.entries subjectID entry hentry id (of_decide_eq_true hsealer)
  obtain rfl : request = found := by simpa [hrequest] using hfound
  rw [hmay] at hsealed
  cases hsealed

theorem sealedBy_add_self (locker : Locker) (subjectID : SubjectID)
    (entry : Entry) (id : ℕ) :
    sealedBy (locker.add subjectID entry) subjectID id =
      sealedBy locker subjectID id ++
        if entry.sealer = .admin id then [entry] else [] := by
  rw [sealedBy, entries_add_self, List.filter_append, sealedBy]
  by_cases hsealer : entry.sealer = .admin id <;> simp [hsealer]

theorem sealedBy_add_of_ne (locker : Locker) {subjectID other : SubjectID}
    (entry : Entry) (id : ℕ) (hne : other ≠ subjectID) :
    sealedBy (locker.add subjectID entry) other id =
      sealedBy locker other id := by
  rw [sealedBy, entries_add_of_ne locker entry hne, sealedBy]

theorem recorded_worker {event : WorkerEvent} (hinv : Recorded env system)
    (htransition : WorkerTransition env system event next) :
    Recorded env next := by
  cases htransition with
  | @added sequence ref hworker =>
    have hgrows := grows_add system.locker ref.subjectID
      ⟨ref.receiptBytes, .worker⟩
    refine ⟨fun id request hrequest => (hinv.requests id request
      hrequest).mono fun subjectID => (hgrows.entries subjectID).subset,
      ?_, ?_⟩
    · intro subjectID entry hentry
      obtain ⟨index, hindex⟩ := List.getElem?_of_mem hentry
      rcases getElem?_add system.locker hindex with hold | ⟨-, -, rfl⟩
      · exact hinv.entries subjectID entry (List.mem_of_getElem? hold)
      · intro id hsealer
        cases hsealer
    · intro subjectID id
      change (sealedBy (system.locker.add ref.subjectID _) subjectID
        id).length ≤ 1
      by_cases heq : subjectID = ref.subjectID
      · subst heq
        rw [sealedBy_add_self, if_neg (by simp), List.append_nil]
        exact hinv.once _ id
      · rw [sealedBy_add_of_ne _ _ _ heq]
        exact hinv.once subjectID id
  | _ => exact hinv.same (fun _ => rfl) rfl

theorem recorded_added {receipt : Bytes} (hinv : Recorded env system)
    (hrequest : system.requests id = some request)
    (hstage : request.locker = .sealing receipt) :
    Recorded env (system.adminAdd id request receipt none) := by
  have hgrows := grows_add system.locker (natsRequest request.call).subjectID
    ⟨receipt, .admin id⟩
  have hcontinues : Continues system.requests
      (system.adminAdd id request receipt none).requests :=
    continues_update hrequest rfl fun _ => rfl
  have hnone : ∀ subjectID, sealedBy system.locker subjectID id = [] :=
    hinv.sealedBy_eq_nil hrequest (by rw [hstage]; rfl)
  refine ⟨?_, ?_, ?_⟩
  · apply forall_update
    · intro other found hfound
      exact (hinv.requests other found hfound).mono
        fun subjectID => (hgrows.entries subjectID).subset
    · refine ⟨by simp, fun _ => ?_, ?_⟩
      · refine ⟨⟨receipt, .admin id⟩, ?_, rfl⟩
        change _ ∈ (system.locker.add (natsRequest request.call).subjectID
          _).entries request.call.subjectID
        rw [← natsRequest_subjectID, entries_add_self]
        simp
      · intro subjectID body operator hcall hgateway
        have hunsent := (hinv.requests id request hrequest).waiting subjectID
          body operator hcall hgateway
        rw [hstage] at hunsent
        cases hunsent
  · intro subjectID entry hentry
    obtain ⟨index, hindex⟩ := List.getElem?_of_mem hentry
    rcases getElem?_add system.locker hindex with hold | ⟨rfl, -, rfl⟩
    · exact (hinv.entries subjectID entry (List.mem_of_getElem? hold)).mono
        hcontinues
    · intro other hother
      obtain rfl : id = other := by simpa using hother
      exact ⟨_, Function.update_self .., (natsRequest_subjectID _).symm, rfl,
        (hinv.requests id request hrequest).wrapped receipt hstage⟩
  · intro subjectID other
    change (sealedBy (system.locker.add (natsRequest request.call).subjectID
      _) subjectID other).length ≤ 1
    by_cases heq : subjectID = (natsRequest request.call).subjectID
    · subst heq
      rw [sealedBy_add_self]
      by_cases hid : id = other
      · subst hid
        simp [hnone]
      · rw [if_neg (by simpa using hid), List.append_nil]
        exact hinv.once _ other
    · rw [sealedBy_add_of_ne _ _ _ heq]
      exact hinv.once subjectID other

variable {stage : AdminStage}

/-- The locker's side of a request moved to a stage that is not `sealing`. -/
theorem RequestRecorded.advance
    (hrecorded : RequestRecorded env system.locker id request)
    (hunsent : request.locker ≠ .unsent)
    (hsealing : ∀ receipt, stage ≠ .sealing receipt)
    (hsealed : hasSealed stage = true →
      ∃ entry ∈ system.locker.entries request.call.subjectID,
        entry.sealer = .admin id) :
    RequestRecorded env system.locker id { request with locker := stage } where
  wrapped := fun receipt hstage => absurd hstage (hsealing receipt)
  recorded := hsealed
  waiting := by
    intro subjectID body operator hcall hgateway
    exact absurd (hrecorded.waiting subjectID body operator hcall
      hgateway) hunsent

theorem recorded_admin {event : AdminEvent} (hinv : Recorded env system)
    (hrequest : system.requests id = some request)
    (htransition : AdminTransition env system id request event next) :
    Recorded env next := by
  have hrecorded := hinv.requests id request hrequest
  cases htransition with
  | received hstage =>
    refine hinv.move hrequest rfl (fun _ => rfl) rfl ?_ ?_
    · simp [hstage, mayHaveSealed, hasSealed]
    · exact hrecorded.advance (by simp [hstage]) (by simp)
        (by simp [hasSealed])
  | lost hstage =>
    refine hinv.move hrequest rfl (fun _ => rfl) rfl ?_ ?_
    · simp [mayHaveSealed]
    · exact hrecorded.advance (by simp [hstage]) (by simp)
        (by simp [hasSealed])
  | @acquired opening locker stage hstage hlocker houtcome =>
    refine hinv.move hrequest rfl (entries_of_acquired hlocker) rfl ?_ ?_
    · simp [hstage, mayHaveSealed, hasSealed]
    · rcases houtcome with
        ⟨error, herror, rfl, -⟩ | ⟨receipt, rfl, hwrapped, -⟩
      · exact hrecorded.advance (by simp [hstage]) (by simp)
          (by simp [hasSealed, herror])
      · refine ⟨?_, by simp [hasSealed], ?_⟩
        · intro found hfound
          obtain rfl : receipt = found := by simpa using hfound
          exact ⟨system.now, hwrapped⟩
        · intro subjectID body operator hcall hgateway
          have hunsent := hrecorded.waiting subjectID body operator
            hcall hgateway
          rw [hstage] at hunsent
          cases hunsent
  | @addFailed receipt err hstage =>
    refine hinv.move hrequest rfl (fun _ => rfl) rfl ?_ ?_
    · simp [hstage, mayHaveSealed, hasSealed]
    · exact hrecorded.advance (by simp [hstage]) (by simp)
        (by simp [hasSealed])
  | added hstage => exact recorded_added hinv hrequest hstage
  | @indexed receipt index hstage =>
    have hsealed := hrecorded.recorded (by rw [hstage]; rfl)
    refine hinv.move hrequest rfl (fun _ => rfl) rfl ?_ ?_
    · cases hcall : natsRequest request.call <;>
        simp [AdminRequest.afterSeal, mayHaveSealed, hasSealed]
    · apply hrecorded.advance (by simp [hstage])
      · cases hcall : natsRequest request.call <;> simp [AdminRequest.afterSeal]
      · exact fun _ => hsealed
  | announced hstage =>
    have hsealed := hrecorded.recorded (by rw [hstage]; rfl)
    refine hinv.move hrequest rfl (fun _ => rfl) rfl ?_ ?_
    · simp [mayHaveSealed, hasSealed]
    · exact hrecorded.advance (by simp [hstage]) (by simp) fun _ => hsealed

theorem ne_checkingSubject_of_outcome {call : AdminCall}
    {store after : TrustStore (List TrustEntry)} {stage : GatewayStage}
    (houtcome : Outcome trustCodec call store stage after .checkingSubject) :
    False := by
  generalize hstage : GatewayStage.checkingSubject = checking at houtcome
  cases houtcome with
  | @registered body operator _ _ hregistered =>
    subst hstage
    rcases hregistered with hnext | ⟨_, -, hfailed⟩
    · unfold afterRegistration at hnext
      split at hnext <;> cases hnext
    · cases hfailed
  | @written revision _ hwritten =>
    subst hstage
    rcases hwritten with hnext | hfailed
    · cases call <;> cases hnext
    · cases hfailed
  | _ => cases hstage

theorem recorded_gateway {event : GatewayEvent} (hinv : Recorded env system)
    (hrequest : system.requests id = some request)
    (htransition : GatewayTransition env system id request event next) :
    Recorded env next := by
  have hrecorded := hinv.requests id request hrequest
  rcases htransition.outcome with
    ⟨store, stage, houtcome, rfl⟩ | ⟨hearing, -, hstage, -, rfl⟩
  · by_cases hsends : stage = .requesting
    · subst hsends
      obtain ⟨⟨revision, hwriting⟩, subjectID, body, operator, hcall⟩ :=
        houtcome.requesting
      have hunsent := hrecorded.waiting subjectID body operator hcall
        (.inr (by rw [hwriting]; rfl))
      refine hinv.move hrequest rfl (fun _ => rfl) rfl ?_ ?_
      · simp [hunsent, mayHaveSealed, hasSealed]
      · refine ⟨by simp [lockerAfter], by simp [lockerAfter, hasSealed], ?_⟩
        simp [GatewayStage.pastLocker]
    · refine hinv.move hrequest rfl (fun _ => rfl) rfl ?_ ?_
      · simp [lockerAfter, hsends]
      · simp only [lockerAfter, if_neg hsends]
        refine ⟨hrecorded.wrapped, hrecorded.recorded, ?_⟩
        intro subjectID body operator hcall hgateway
        apply hrecorded.waiting subjectID body operator hcall
        rcases hgateway with hchecking | hpast
        · simp only at hchecking
          subst hchecking
          exact (ne_checkingSubject_of_outcome houtcome).elim
        · exact houtcome.pastLocker hpast
  · refine hinv.move hrequest rfl (fun _ => rfl) rfl (fun hmay => hmay) ?_
    refine ⟨hrecorded.wrapped, hrecorded.recorded, ?_⟩
    intro subjectID body operator hcall hgateway
    simp only at hcall
    rw [hcall] at hgateway
    simp [AdminCall.hear, GatewayStage.pastLocker] at hgateway

theorem recorded_call {call : AdminCall} (hinv : Recorded env system)
    (hstep : callStep env system id call = some next) : Recorded env next := by
  obtain ⟨hfresh, rfl⟩ := callStep_eq_some hstep
  refine hinv.frame (fun _ => rfl) (continues_insert _ hfresh)
    (forall_update hinv.requests ?_)
  unfold lockerAfter
  split
  · rename_i hsends
    refine ⟨by simp, by simp [hasSealed], ?_⟩
    rw [hsends]
    simp [GatewayStage.pastLocker]
  · exact ⟨by simp, by simp [hasSealed], fun _ _ _ _ _ => rfl⟩

theorem hasSealed_of_crash (hsealed : hasSealed stage.crash = true) :
    hasSealed stage = true := by
  cases stage <;> simp_all [AdminStage.crash, hasSealed]

theorem mayHaveSealed_crash (hmay : mayHaveSealed stage = true) :
    mayHaveSealed stage.crash = true := by
  cases stage <;> simp_all [AdminStage.crash, mayHaveSealed, hasSealed]

theorem recorded_restart (hinv : Recorded env system)
    (opening : SubjectID → Opening) :
    Recorded env (restartStep env system opening) := by
  refine hinv.frame (fun _ => rfl) ?_ ?_
  · intro id request hrequest
    exact ⟨{ request with locker := request.locker.crash },
      by simp [restartStep, hrequest], rfl, mayHaveSealed_crash⟩
  · intro id request hrequest
    simp only [restartStep, Option.map_eq_some_iff] at hrequest
    obtain ⟨before, hbefore, rfl⟩ := hrequest
    have hrecorded := hinv.requests id before hbefore
    refine ⟨?_, fun hsealed => hrecorded.recorded (hasSealed_of_crash hsealed),
      ?_⟩
    · intro receipt hsealing
      cases hstage : before.locker <;>
        simp [hstage, AdminStage.crash] at hsealing
    · intro subjectID body operator hcall hgateway
      have hunsent := hrecorded.waiting subjectID body operator hcall
        hgateway
      simp [hunsent, AdminStage.crash]

theorem recorded_step {action : Action} (hinv : Recorded env system)
    (hstep : step env system action = some next) : Recorded env next := by
  cases step_cases hstep with
  | worker htransition => exact recorded_worker hinv htransition
  | called => exact recorded_call hinv hstep
  | gateway hrequest htransition =>
    exact recorded_gateway hinv hrequest htransition
  | admin hrequest htransition => exact recorded_admin hinv hrequest htransition
  | restarted => exact recorded_restart hinv _
  | _ => exact hinv.same (fun _ => rfl) rfl

end Step

theorem recorded_initial (env : Environment) : Recorded env initial where
  requests := by simp [initial]
  entries := by simp [initial]
  once := by simp [initial, sealedBy]

theorem recorded_of_reaches {system : System} {guard : System → Action → Prop}
    (hreach : Reaches (step env) guard initial system) :
    Recorded env system :=
  hreach.invariant (recorded_initial env)
    fun _ _ _ hinv _ hstep => recorded_step hinv hstep

end ComplyTime.Pipeline
