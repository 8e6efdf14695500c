import ComplyTime.Pipeline.TrustReceipts
import ComplyTime.Pipeline.TrustWrites

/-!
# The audit of trust changes

`ModifyTrust` writes its list first and asks the locker for a receipt
afterwards.  Whatever comes of that request, the answer is 200; and if the
reply to the write is lost, the answer is 500 although the list has changed.
Without such failures a 200 stands for a sealed receipt, and a modification that
is answered with an error has changed no list.
-/

namespace ComplyTime.Pipeline

open TransitionSystem WorkQueue Subjects Ledgers Worker AdminSubscriber
open GatewayAdmin Trust

def isModification : AdminCall → Bool
  | .modifyTrust _ _ _ => true
  | .registerSubject _ _ => false

/-- The receipt of a modification of the subject's list by the operator. -/
def TrustReceipt (env : Environment) (subjectID : SubjectID)
    (list : Option (List TrustEntry)) (operator : PublisherIdentity)
    (receipt : Bytes) : Prop :=
  ∃ now, Wrapped env now
    (.sealTrust ⟨subjectID, list, operator.issuer, operator.sub⟩) receipt

/-! ## The record of changes -/

/-- A step of a request that left the subject with another list. -/
structure TrustChange where
  request : ℕ
  subjectID : SubjectID
  list : Option (List TrustEntry)
  deriving DecidableEq, Repr

def trustChanges (before : System) (action : Action) (after : System) :
    List TrustChange :=
  match action with
  | .gateway id _ =>
    match before.requests id with
    | none => []
    | some request =>
      if after.trustList request.call.subjectID =
          before.trustList request.call.subjectID then []
      else [⟨id, request.call.subjectID,
        after.trustList request.call.subjectID⟩]
  | _ => []

variable {before after : System} {action : Action} {id : ℕ}
  {event : GatewayEvent} {env : Environment} {request : Request}

theorem mem_trustChanges {change : TrustChange}
    (hmem : change ∈ trustChanges before action after) :
    ∃ event request, action = .gateway change.request event ∧
      before.requests change.request = some request ∧
      change.subjectID = request.call.subjectID ∧
      after.trustList change.subjectID ≠
        before.trustList change.subjectID := by
  unfold trustChanges at hmem
  split at hmem
  · rename_i id event
    split at hmem
    · cases hmem
    · rename_i request hrequest
      split at hmem
      · cases hmem
      · rename_i hchanged
        obtain rfl := List.mem_singleton.mp hmem
        exact ⟨event, request, rfl, hrequest, rfl, hchanged⟩
  · cases hmem

theorem mem_of_request_ne {changes : List TrustChange} {change : TrustChange}
    (hmem : change ∈ changes ++ trustChanges before (.gateway id event) after)
    (hne : change.request ≠ id) : change ∈ changes := by
  rcases List.mem_append.mp hmem with hold | hadded
  · exact hold
  · obtain ⟨_, _, haction, -⟩ := mem_trustChanges hadded
    cases haction
    exact absurd rfl hne

theorem trustChanges_of_kept
    (hkept : after.store.publisherKV = before.store.publisherKV) :
    trustChanges before action after = [] := by
  rw [List.eq_nil_iff_forall_not_mem]
  intro change hmem
  obtain ⟨_, _, _, _, _, hchanged⟩ := mem_trustChanges hmem
  exact hchanged (trustList_congr hkept change.subjectID)

/-- The list of the last change recorded for the subject. -/
def lastRecorded (changes : List TrustChange) (subjectID : SubjectID) :
    Option (List TrustEntry) :=
  ((changes.filter fun change =>
    decide (change.subjectID = subjectID)).getLast?).bind TrustChange.list

theorem lastRecorded_append (changes : List TrustChange)
    (change : TrustChange) (subjectID : SubjectID) :
    lastRecorded (changes ++ [change]) subjectID =
      if change.subjectID = subjectID then change.list
      else lastRecorded changes subjectID := by
  unfold lastRecorded
  by_cases heq : change.subjectID = subjectID <;> simp [heq]

/-- The stored lists are the last recorded ones. -/
def Explained (recorded : System × List TrustChange) : Prop :=
  ∀ subjectID,
    recorded.1.trustList subjectID = lastRecorded recorded.2 subjectID

theorem explained_step {system next : System} {changes : List TrustChange}
    (hstep : step env system action = some next)
    (hexplained : Explained (system, changes)) :
    Explained (next, changes ++ trustChanges system action next) := by
  intro subjectID
  have hlast : system.trustList subjectID = lastRecorded changes subjectID :=
    hexplained subjectID
  by_cases hgateway : ∃ id event, action = .gateway id event
  · obtain ⟨id, event, rfl⟩ := hgateway
    obtain ⟨request, hrequest, htransition⟩ := gatewayStep_cases hstep
    by_cases hkept : next.trustList request.call.subjectID =
        system.trustList request.call.subjectID
    · have hnone : trustChanges system (.gateway id event) next = [] := by
        simp [trustChanges, hrequest, hkept]
      rw [hnone, List.append_nil, ← hlast]
      by_cases heq : subjectID = request.call.subjectID
      · rw [heq, hkept]
      · exact trustList_of_other htransition heq
    · have hone : trustChanges system (.gateway id event) next =
          [⟨id, request.call.subjectID,
            next.trustList request.call.subjectID⟩] := by
        simp [trustChanges, hrequest, hkept]
      rw [hone, lastRecorded_append]
      by_cases heq : subjectID = request.call.subjectID
      · rw [if_pos heq.symm, heq]
      · rw [if_neg (Ne.symm heq), ← hlast]
        exact trustList_of_other htransition heq
  · have hstore := store_of_step hstep fun id event heq =>
      hgateway ⟨id, event, heq⟩
    rw [trustChanges_of_kept (by rw [hstore]), List.append_nil, ← hlast]
    exact trustList_congr (by rw [hstore]) subjectID

theorem explained_of_reaches {guard : System × List TrustChange → Action → Prop}
    {recorded : System × List TrustChange}
    (hreach : Reaches (recording (step env) trustChanges) guard (initial, [])
      recorded) : Explained recorded := by
  have hstart : Explained (initial, []) := fun _ => rfl
  refine hreach.invariant hstart fun before action after hinv _ hstep => ?_
  obtain ⟨hnext, hchanges⟩ := recording_eq_some hstep
  have hexplained := explained_step hnext hinv
  rw [← hchanges] at hexplained
  exact hexplained

/-! ## Runs without failures of the write's reply and of the seal -/

/-- The step is none of the failures that separate the answer of the trust
modification `id` from what was stored and sealed: a lost reply of the trust
write, a lost or failed seal request, a lost or garbled reply of the locker. -/
def Undisturbed (env : Environment) (system : System) (id : ℕ)
    (request : Request) : Action → Prop
  | .gateway other (.unanswered _) =>
    other = id → ∀ revision, request.gateway ≠ .writingTrust revision
  | .gateway other (.hear hearing) =>
    other = id → ∃ error, hearing = .reply error
  | .admin other .lose => other ≠ id
  | .admin other (.acquire _) =>
    other = id → (system.locker.ledgers request.call.subjectID).isSome ∧
      ∃ receipt, Wrapped env system.now (natsRequest request.call) receipt
  | .admin other (.add fault) => other = id → fault = none
  | .restart _ => request.locker.crash = request.locker
  | _ => True

/-- No trust modification is disturbed. -/
def ModificationsUndisturbed (env : Environment) (system : System)
    (action : Action) : Prop :=
  ∀ id request, system.requests id = some request →
    isModification request.call = true →
      Undisturbed env system id request action

/-- The seal request has failed. -/
def sealFailed : AdminStage → Bool
  | .dropped => true
  | .replied error => decide (error ≠ "")
  | _ => false

theorem eq_empty_of_replied {error : String}
    (honTrack : sealFailed (.replied error) = false) : error = "" := by
  simpa [sealFailed] using honTrack

/-- The locker's step on an undisturbed trust modification does not fail, and
does not forget that the receipt is sealed. -/
theorem onTrack_of_admin {system next : System} {event : AdminEvent}
    (htransition : AdminTransition env system id request event next)
    (hmodifies : isModification request.call = true)
    (hundisturbed : Undisturbed env system id request (.admin id event)) :
    ∃ locker stage,
      next = { system with locker := locker }.setRequest id
        { request with locker := stage } ∧
      sealFailed stage = false ∧
      (hasSealed request.locker = true → hasSealed stage = true) := by
  cases htransition with
  | received hstage =>
    exact ⟨system.locker, .started, rfl, rfl, by simp [hstage, hasSealed]⟩
  | lost hstage => exact absurd rfl hundisturbed
  | @acquired opening locker stage hstage hlocker houtcome =>
    refine ⟨locker, stage, rfl, ?_, by simp [hstage, hasSealed]⟩
    obtain ⟨hopen, receipt, hwrapped⟩ := hundisturbed rfl
    rcases houtcome with ⟨error, -, -, hreason⟩ | ⟨found, rfl, -⟩
    · refine absurd hwrapped (hreason ?_ receipt)
      rw [← natsRequest_subjectID] at hopen
      have hsame : locker = system.locker := by
        rcases hlocker with hsame | ⟨hclosed, -⟩
        · exact hsame
        · rw [hclosed] at hopen
          cases hopen
      cases hcall : request.call with
      | registerSubject input operator => simp [hcall, isModification]
          at hmodifies
      | modifyTrust subjectID body operator =>
        rw [hcall] at hopen
        obtain ⟨ledger, hledger⟩ := Option.isSome_iff_exists.mp hopen
        change system.locker.ledgers subjectID = some ledger at hledger
        simp [natsRequest, AdminRequest.acquireLedger, Locker.getLedger,
          hledger, hsame]
    · rfl
  | addFailed hstage => cases hundisturbed rfl
  | added hstage => exact ⟨_, _, rfl, rfl, fun _ => rfl⟩
  | indexed hstage =>
    refine ⟨_, _, rfl, ?_, fun _ => ?_⟩
    · cases natsRequest request.call <;> rfl
    · cases natsRequest request.call <;> rfl
  | announced hstage => exact ⟨_, _, rfl, rfl, fun _ => rfl⟩

/-! ## The invariant -/

/-- What the stage of a trust modification says about its receipt and about the
changes it has made. -/
structure ModificationKept (changes : List TrustChange) (id : ℕ)
    (request : Request) : Prop where
  onTrack : sealFailed request.locker = false
  answered : ∀ response, request.gateway = .responded response →
    response.status = 200 → hasSealed request.locker = true
  changed : ∀ change ∈ changes, change.request = id →
    request.gateway = .requesting ∨
      ∃ response, request.gateway = .responded response ∧ response.status = 200

structure AuditKept (recorded : System × List TrustChange) : Prop where
  modifications : ∀ id request, recorded.1.requests id = some request →
    isModification request.call = true → ModificationKept recorded.2 id request
  made : ∀ change ∈ recorded.2, (recorded.1.requests change.request).isSome

section Step

variable {system next : System} {changes : List TrustChange}

section

variable (hinv : AuditKept (system, changes))

include hinv

theorem AuditKept.same (hrequests : next.requests = system.requests) :
    AuditKept (next, changes) where
  modifications := by
    rw [hrequests]
    exact hinv.modifications
  made := by
    rw [hrequests]
    exact hinv.made

/-- A step that changes no list and moves one request. -/
theorem AuditKept.move {after : Request} (hrequests : next.requests =
      Function.update system.requests id (some after))
    (hafter : isModification after.call = true →
      ModificationKept changes id after) : AuditKept (next, changes) where
  modifications := by
    rw [hrequests]
    exact forall_update hinv.modifications hafter
  made := by
    intro change hchange
    rw [hrequests]
    by_cases heq : change.request = id
    · rw [heq, Function.update_self]
      rfl
    · rw [Function.update_of_ne heq]
      exact hinv.made change hchange

theorem auditKept_admin {event : AdminEvent}
    (hrequest : system.requests id = some request)
    (hguard : ModificationsUndisturbed env system (.admin id event))
    (htransition : AdminTransition env system id request event next) :
    AuditKept (next, changes) := by
  by_cases hmodifies : isModification request.call = true
  · have hkept := hinv.modifications id request hrequest hmodifies
    obtain ⟨locker, stage, rfl, honTrack, hsealed⟩ := onTrack_of_admin
      htransition hmodifies (hguard id request hrequest hmodifies)
    exact hinv.move rfl fun _ => ⟨honTrack,
      fun response hresponse hstatus =>
        hsealed (hkept.answered response hresponse hstatus), hkept.changed⟩
  · obtain ⟨locker, stage, rfl⟩ := htransition.frame
    exact hinv.move rfl fun hmodification => absurd hmodification hmodifies

end

theorem status_of_outcome {call : AdminCall} {response : Response}
    {store later : TrustStore (List TrustEntry)} {stage : GatewayStage}
    (hmodifies : isModification call = true)
    (houtcome : Outcome trustCodec call store stage later
      (.responded response)) : response.status ≠ 200 := by
  generalize hafter : GatewayStage.responded response = after at houtcome
  cases houtcome with
  | found _ _ => cases hafter
  | refused _ hfailed =>
    obtain rfl := GatewayStage.responded.inj hafter
    exact hfailed.1
  | read => cases hafter
  | written hwritten =>
    subst hafter
    rcases hwritten with hnext | hfailed
    · cases call <;> cases hnext
    · obtain rfl := GatewayStage.responded.inj hfailed
      exact (failed_trustFailure call).1
  | registered hcall _ =>
    rw [hcall] at hmodifies
    cases hmodifies
  | keyStored hcall _ =>
    rw [hcall] at hmodifies
    cases hmodifies

/-- A request to the trust store by an undisturbed trust modification. -/
theorem modificationKept_outcome
    (hmodifies : isModification request.call = true)
    (hkept : ModificationKept changes id request)
    (hundisturbed : Undisturbed env system id request (.gateway id event))
    {store : TrustStore (List TrustEntry)} {stage : GatewayStage}
    (houtcome : Outcome trustCodec request.call system.store request.gateway
      store stage) (hnext : next = { system with store := store }.setRequest id
      ⟨request.call, stage, lockerAfter stage request.locker⟩)
    (hwrite : GatewayWrite system id request event next) :
    ModificationKept (changes ++ trustChanges system (.gateway id event)
      next) id ⟨request.call, stage, lockerAfter stage request.locker⟩ := by
  obtain ⟨hnotWaiting, hnotAnswered⟩ := not_waiting_of_outcome houtcome
  refine ⟨?_, ?_, ?_⟩
  · simp only [lockerAfter]
    split
    · rfl
    · exact hkept.onTrack
  · intro response hresponse hstatus
    simp only at hresponse
    subst hresponse
    exact absurd hstatus (status_of_outcome hmodifies houtcome)
  · intro change hchange hid
    rcases List.mem_append.mp hchange with hold | hadded
    · rcases hkept.changed change hold hid with
        hwaiting | ⟨response, hanswered, -⟩
      · exact absurd hwaiting hnotWaiting
      · exact absurd hanswered (hnotAnswered response)
    · cases hwrite with
      | kept hsame _ =>
        rw [trustChanges_of_kept hsame] at hadded
        cases hadded
      | unanswered hstage => exact absurd hstage (hundisturbed rfl _)
      | written _ _ =>
        have hmoved := congrFun (congrArg System.requests hnext) id
        simp only [System.setRequest, Function.update_self,
          Option.some.injEq, Request.mk.injEq] at hmoved
        left
        rw [← hmoved.2.1]
        cases hcall : request.call with
        | registerSubject input operator =>
          simp [hcall, isModification] at hmodifies
        | modifyTrust subjectID body operator => rfl

/-- The answer of an undisturbed trust modification. -/
theorem modificationKept_hear {hearing : Hearing}
    (hmodifies : isModification request.call = true)
    (hkept : ModificationKept changes id request)
    (hundisturbed : Undisturbed env system id request
      (.gateway id (.hear hearing)))
    (hheard : heardFrom request.locker hearing = true) :
    ModificationKept changes id
      { request with gateway := request.call.hear hearing } := by
  obtain ⟨error, rfl⟩ := hundisturbed rfl
  have hreplied := replied_of_heardFrom hheard
  have hempty : error = "" := by
    apply eq_empty_of_replied
    rw [← hreplied]
    exact hkept.onTrack
  refine ⟨hkept.onTrack, fun _ _ _ => ?_, fun _ _ _ => .inr ?_⟩
  · simp [hreplied, hasSealed, hempty]
  · cases hcall : request.call with
    | registerSubject input operator =>
      simp [hcall, isModification] at hmodifies
    | modifyTrust subjectID body operator => exact ⟨_, rfl, rfl⟩

section

variable (hinv : AuditKept (system, changes))

include hinv

theorem auditKept_gateway (hrequest : system.requests id = some request)
    (hguard : ModificationsUndisturbed env system (.gateway id event))
    (htransition : GatewayTransition env system id request event next) :
    AuditKept (next, changes ++ trustChanges system (.gateway id event)
      next) := by
  have hothers : ∀ other found, system.requests other = some found →
      isModification found.call = true → other ≠ id →
        ModificationKept (changes ++ trustChanges system (.gateway id event)
          next) other found := by
    intro other found hfound hmodifies hne
    have hkept := hinv.modifications other found hfound hmodifies
    refine ⟨hkept.onTrack, hkept.answered, ?_⟩
    intro change hchange hother
    have hold := mem_of_request_ne hchange (hother ▸ hne)
    exact hkept.changed change hold hother
  have hown : ∃ after, next.requests =
        Function.update system.requests id (some after) ∧
      (isModification after.call = true →
        ModificationKept (changes ++ trustChanges system (.gateway id event)
          next) id after) := by
    have hwrite := gatewayWrite_of_transition htransition
    have hundisturbed := hguard id request hrequest
    have hkept := hinv.modifications id request hrequest
    rcases htransition.outcome with
      ⟨store, stage, houtcome, rfl⟩ | ⟨hearing, rfl, hstage, hheard, rfl⟩
    · refine ⟨_, rfl, fun hafter => ?_⟩
      have hmodifies : isModification request.call = true := hafter
      exact modificationKept_outcome hmodifies (hkept hmodifies)
        (hundisturbed hmodifies) houtcome rfl hwrite
    · refine ⟨_, rfl, fun hafter => ?_⟩
      have hmodifies : isModification request.call = true := hafter
      have hnone : trustChanges system (.gateway id (.hear hearing))
          (system.setRequest id { request with
            gateway := request.call.hear hearing }) = [] :=
        trustChanges_of_kept rfl
      rw [hnone, List.append_nil]
      exact modificationKept_hear hmodifies (hkept hmodifies)
        (hundisturbed hmodifies) hheard
  obtain ⟨after, hrequests, hafter⟩ := hown
  constructor
  · intro other found hfound hmodifies
    simp only [hrequests] at hfound
    rcases update_eq_some hfound with ⟨rfl, rfl⟩ | ⟨hne, hbefore⟩
    · exact hafter hmodifies
    · exact hothers other found hbefore hmodifies hne
  · intro change hchange
    simp only [hrequests]
    by_cases heq : change.request = id
    · rw [heq, Function.update_self]
      rfl
    · rw [Function.update_of_ne heq]
      exact hinv.made change (mem_of_request_ne hchange heq)

theorem auditKept_call {call : AdminCall}
    (hstep : callStep env system id call = some next) :
    AuditKept (next, changes) := by
  obtain ⟨hfresh, rfl⟩ := callStep_eq_some hstep
  refine hinv.move rfl fun _ => ⟨?_, ?_, ?_⟩
  · simp only [lockerAfter]
    split <;> rfl
  · intro response hresponse hstatus
    rcases begin_cases env.validators call with ⟨refusal, hfailed, hbegin⟩ |
      ⟨_, _, _, _, hbegin⟩ | ⟨_, _, _, _, _, hbegin⟩
    · simp only [hbegin, GatewayStage.responded.injEq] at hresponse
      subst hresponse
      exact absurd hstatus hfailed.1
    · simp [hbegin] at hresponse
    · simp [hbegin] at hresponse
  · rintro change hchange rfl
    have hmade := hinv.made change hchange
    simp [hfresh] at hmade

theorem auditKept_restart {opening : SubjectID → Opening}
    (hguard : ModificationsUndisturbed env system (.restart opening)) :
    AuditKept (restartStep env system opening, changes) := by
  constructor
  · intro id request hrequest hmodifies
    simp only [restartStep, Option.map_eq_some_iff] at hrequest
    obtain ⟨before, hbefore, rfl⟩ := hrequest
    have hsame : before.locker.crash = before.locker :=
      hguard id before hbefore hmodifies
    rw [hsame]
    exact hinv.modifications id before hbefore hmodifies
  · intro change hchange
    simpa [restartStep] using hinv.made change hchange

theorem auditKept_step (hguard : ModificationsUndisturbed env system action)
    (hstep : step env system action = some next) :
    AuditKept (next, changes ++ trustChanges system action next) := by
  by_cases hgateway : ∃ id event, action = .gateway id event
  · obtain ⟨id, event, rfl⟩ := hgateway
    obtain ⟨request, hrequest, htransition⟩ := gatewayStep_cases hstep
    exact auditKept_gateway hinv hrequest hguard htransition
  have hstore := store_of_step hstep fun id event heq =>
    hgateway ⟨id, event, heq⟩
  rw [trustChanges_of_kept (by rw [hstore]), List.append_nil]
  cases step_cases hstep with
  | worker htransition =>
    have hrequests : next.requests = system.requests := by
      cases htransition <;> rfl
    exact hinv.same hrequests
  | called => exact auditKept_call hinv hstep
  | gateway => exact absurd ⟨_, _, rfl⟩ hgateway
  | admin hrequest htransition =>
    exact auditKept_admin hinv hrequest hguard htransition
  | restarted => exact auditKept_restart hinv hguard
  | _ => exact hinv.same rfl

end

end Step

/-! ## Audit completeness -/

theorem auditKept_of_reaches {recorded : System × List TrustChange}
    (hreach : Reaches (recording (step env) trustChanges)
      (fun before action => ModificationsUndisturbed env before.1 action)
      (initial, []) recorded) : AuditKept recorded := by
  refine hreach.invariant ⟨by simp [initial], by simp⟩ ?_
  intro before action after hinv hguard hstep
  obtain ⟨hnext, hchanges⟩ := recording_eq_some hstep
  have hkept := auditKept_step hinv hguard hnext
  rw [← hchanges] at hkept
  exact hkept

/-- In every run in which no trust modification is disturbed, a modification
that was answered with 200 has the receipt of its list and operator in the
subject's ledger, and one that was answered with an error has made none of the
recorded changes, the last of which the stored lists are. -/
theorem modifications_audited {env : Environment} {system : System}
    {changes : List TrustChange}
    (hreach : Reaches (recording (step env) trustChanges)
      (fun before action => ModificationsUndisturbed env before.1 action)
      (initial, []) (system, changes))
    {id : ℕ} {subjectID : SubjectID} {body : Option ModifyBody}
    {operator : PublisherIdentity} {response : Response} {locker : AdminStage}
    (hrequest : system.requests id = some
      ⟨.modifyTrust subjectID body operator, .responded response, locker⟩) :
    (response.status = 200 →
      ∃ entry ∈ system.locker.entries subjectID,
        TrustReceipt env subjectID (requestedList body) operator
          entry.data) ∧
      (response.status ≠ 200 →
        (∀ change ∈ changes, change.request ≠ id) ∧
          ∀ subject, system.trustList subject =
            lastRecorded changes subject) := by
  have hkept := (auditKept_of_reaches hreach).modifications id _ hrequest rfl
  have hrecorded := recorded_of_reaches hreach.forget
  constructor
  · intro hstatus
    have hsealed := hkept.answered response rfl hstatus
    obtain ⟨entry, hentry, hsealer⟩ :=
      (hrecorded.requests id _ hrequest).recorded hsealed
    obtain ⟨found, hfound, -, -, now, hwrapped⟩ :=
      hrecorded.entries subjectID entry hentry id hsealer
    obtain rfl := Option.mem_unique hrequest hfound
    exact ⟨entry, hentry, now, hwrapped⟩
  · intro hstatus
    refine ⟨fun change hchange hid => ?_, explained_of_reaches hreach⟩
    rcases hkept.changed change hchange hid with
      hwaiting | ⟨answer, hanswer, hsuccess⟩
    · cases hwaiting
    · obtain rfl := GatewayStage.responded.inj hanswer
      exact hstatus hsuccess

/-! ## Concrete runs -/

/-- A computable check that a step disturbs no trust modification. -/
def undisturbedCheck (env : Environment) (system : System) : Action → Bool
  | .gateway _ (.advance _) => true
  | .gateway _ (.hear (.reply _)) => true
  | .admin id (.acquire _) =>
    match system.requests id with
    | none => true
    | some request =>
      !isModification request.call ||
        ((system.locker.ledgers request.call.subjectID).isSome &&
          (env.wrap system.now (env.marshal (natsRequest request.call).data)
            (natsRequest request.call).publisher
            (natsRequest request.call).subjectID
            (natsRequest request.call).artifactType).isOk)
  | .admin _ (.add fault) => fault.isNone
  | .admin _ .receive => true
  | .admin _ .index => true
  | .admin _ .announce => true
  | .call _ _ => true
  | _ => false

theorem exists_eq_ok_of_isOk {Failure Value : Type*}
    {result : Except Failure Value} (hok : result.isOk = true) :
    ∃ value, result = .ok value := by
  cases result with
  | error failure => cases hok
  | ok value => exact ⟨value, rfl⟩

theorem undisturbed_of_check {system : System}
    (hcheck : undisturbedCheck env system action = true) :
    ModificationsUndisturbed env system action := by
  intro id request hrequest hmodifies
  unfold undisturbedCheck at hcheck
  split at hcheck
  · trivial
  · intro _
    exact ⟨_, rfl⟩
  · rintro rfl
    simp only [hrequest, hmodifies, Bool.not_true, Bool.false_or,
      Bool.and_eq_true] at hcheck
    obtain ⟨hopen, hok⟩ := hcheck
    exact ⟨hopen, exists_eq_ok_of_isOk hok⟩
  · intro _
    simpa using hcheck
  all_goals trivial

/-- A registration and an undisturbed modification. -/
theorem deployed_modification_audited :
    ∃ system changes response locker,
      Reaches (recording (step deployment) trustChanges)
        (fun before action =>
          ModificationsUndisturbed deployment before.1 action)
        (initial, []) (system, changes) ∧
      system.requests 1 = some ⟨sampleModification [workload "builder"],
        .responded response, locker⟩ ∧
      response.status = 200 ∧
      ∃ entry ∈ system.locker.entries "alpha",
        TrustReceipt deployment "alpha" (some [workload "builder"])
          sampleOperator entry.data := by
  have hobserved : ((run (checked (recording (step deployment) trustChanges)
      fun recorded => undisturbedCheck deployment recorded.1) (initial, [])
      (sampleRegistration ++ sampleTrustWrite 1 [workload "builder"] ++
        sampleTrustSeal 1)).map fun recorded =>
          (recorded.1.requests 1).map Request.observed) =
      some (some ⟨sampleModification [workload "builder"], some 200,
        .replied ""⟩) := by
    rw [deployment_eq]
    decide +kernel
  obtain ⟨⟨system, changes⟩, hrun, hvalues⟩ :=
    Option.map_eq_some_iff.mp hobserved
  obtain ⟨response, hstatus, hrequest⟩ := exists_response_of_observed hvalues
  have hreach : Reaches (recording (step deployment) trustChanges)
      (fun before action => ModificationsUndisturbed deployment before.1 action)
      (initial, []) (system, changes) :=
    Reaches.run_checked .refl (fun _ _ _ => undisturbed_of_check) hrun
  exact ⟨system, changes, response, _, hreach, hrequest, hstatus,
    (modifications_audited hreach hrequest).1 hstatus⟩

/-- The locker does not answer the seal request: the list has changed, the
answer is 200, and no receipt of the change is sealed. -/
theorem deployed_modification_unsealed :
    ∃ system response locker,
      Reaches (step deployment) anyStep initial system ∧
      system.requests 1 = some ⟨sampleModification [workload "builder"],
        .responded response, locker⟩ ∧
      response.status = 200 ∧
      system.trustList "alpha" = some [workload "builder"] ∧
      ∀ entry ∈ system.locker.entries "alpha",
        ¬ TrustReceipt deployment "alpha" (some [workload "builder"])
          sampleOperator entry.data := by
  have hobserved : ((run (step deployment) initial (sampleRegistration ++
      sampleTrustWrite 1 [workload "builder"] ++
      [.gateway 1 (.hear (.failed (.message "nats: timeout")))])).map
      fun system => ((system.requests 0).map Request.call,
        (system.requests 1).map Request.observed, system.trustList "alpha",
        (system.locker.entries "alpha").map Entry.sealer)) =
      some (some sampleCall,
        some ⟨sampleModification [workload "builder"], some 200, .inFlight⟩,
        some [workload "builder"], [.admin 0]) := by
    rw [deployment_eq]
    decide +kernel
  obtain ⟨system, hrun, hvalues⟩ := Option.map_eq_some_iff.mp hobserved
  simp only [Prod.mk.injEq] at hvalues
  obtain ⟨hregistration, hmodification, hlist, hsealers⟩ := hvalues
  obtain ⟨response, hstatus, hmodification⟩ :=
    exists_response_of_observed hmodification
  have hreach := reaches_of_run hrun
  refine ⟨system, response, _, hreach, hmodification, hstatus, hlist, ?_⟩
  rintro entry hentry ⟨now, hwrapped⟩
  have hsealer : entry.sealer ∈ [Sealer.admin 0] := by
    rw [← hsealers]
    exact List.mem_map_of_mem hentry
  obtain ⟨request, hrequest, -, -, sealedAt, hregistered⟩ :=
    (recorded_of_reaches hreach).entries "alpha" entry hentry 0
      (List.mem_singleton.mp hsealer)
  rw [hrequest, Option.map_some, Option.some.injEq] at hregistration
  rw [hregistration] at hregistered
  have hnone := sealedTrustList_register wrapsReceipts_deployment hregistered
  have hsome := sealedTrustList_sealTrust wrapsReceipts_deployment hwrapped
  rw [hnone] at hsome
  cases hsome

end ComplyTime.Pipeline
