import ComplyTime.Pipeline.TrustAudit

/-!
# Registrations of one subject race for its ledger

Of any number of registrations of a subject that has no ledger, the locker lets
one create it; the others are refused there, before they have written anything.
The trust list is written much later and by the gateway, and only a
registration that heard of its success gets that far.
-/

namespace ComplyTime.Pipeline

open TransitionSystem WorkQueue Subjects Ledgers Worker AdminSubscriber
open GatewayAdmin Trust

/-! ## Who holds the ledger -/

/-- The locker has the ledger of the request and has not failed since. -/
def hasLedger : AdminStage → Bool
  | .sealing _ => true
  | stage => hasSealed stage

/-- A registration that is past the creation of its ledger on either side. -/
def Request.holds (request : Request) : Bool :=
  hasLedger request.locker || request.gateway.pastLocker ||
    decide (statusOf request.gateway = some 201)

/-- The locker does nothing for the request any more, or not yet. -/
def isIdle : AdminStage → Bool
  | .unsent => true
  | .replied _ => true
  | .dropped => true
  | _ => false

/-- Both sides are done with the request. -/
structure Request.Finished (request : Request) : Prop where
  returned : ∃ response, request.gateway = .responded response
  idle : isIdle request.locker = true

/-- The request by whose step the subject's ledger comes to be open. -/
def creations (subjectID : SubjectID) (before : System) (action : Action)
    (after : System) : List ℕ :=
  match action with
  | .admin id (.acquire _) =>
    if (before.locker.ledgers subjectID).isNone &&
        (after.locker.ledgers subjectID).isSome then [id]
    else []
  | _ => []

variable {id : ℕ} {request : Request} {event : AdminEvent}

section Step

variable {env : Environment} {system next : System} {action : Action}
  {subjectID : SubjectID}

/-! ### Finished requests -/

theorem not_idle_of_admin
    (htransition : AdminTransition env system id request event next) :
    isIdle request.locker = false := by
  cases htransition with
  | received hstage => simp [hstage, isIdle]
  | lost hstage => simp [hstage, isIdle]
  | acquired hstage _ _ => simp [hstage, isIdle]
  | addFailed hstage => simp [hstage, isIdle]
  | added hstage => simp [hstage, isIdle]
  | indexed hstage => simp [hstage, isIdle]
  | announced hstage => simp [hstage, isIdle]

theorem crash_of_idle {stage : AdminStage} (hidle : isIdle stage = true) :
    stage.crash = stage := by
  cases stage <;> simp_all [isIdle, AdminStage.crash]

theorem finished_of_step (hstep : step env system action = some next)
    (hrequest : system.requests id = some request)
    (hfinished : request.Finished) : next.requests id = some request := by
  obtain ⟨response, hresponse⟩ := hfinished.returned
  cases requestStep_of_step hstep id with
  | untouched hsame => rw [hsame, hrequest]
  | called hfresh _ =>
    rw [hfresh] at hrequest
    cases hrequest
  | gateway hfound htransition =>
    obtain rfl := Option.mem_unique hrequest hfound
    rcases htransition.outcome with
      ⟨store, stage, houtcome, -⟩ | ⟨hearing, -, hstage, -, -⟩
    · exact absurd hresponse ((not_waiting_of_outcome houtcome).2 response)
    · rw [hstage] at hresponse
      cases hresponse
  | admin hfound htransition =>
    obtain rfl := Option.mem_unique hrequest hfound
    have hactive := not_idle_of_admin htransition
    rw [hfinished.idle] at hactive
    cases hactive
  | restarted hnext =>
    rw [hnext, hrequest, Option.map_some, crash_of_idle hfinished.idle]

/-! ### Holding the ledger -/

theorem holds_of_outcome {call : AdminCall}
    {store later : TrustStore (List TrustEntry)} {stage after : GatewayStage}
    {locker : AdminStage} (hregistration : isModification call = false)
    (houtcome : Outcome trustCodec call store stage later after)
    (hholds : (⟨call, after, lockerAfter after locker⟩ : Request).holds =
      true) : (⟨call, stage, locker⟩ : Request).holds = true := by
  have hsent : after ≠ .requesting := by
    rintro rfl
    obtain ⟨-, _, _, _, rfl⟩ := houtcome.requesting
    cases hregistration
  simp only [lockerAfter, if_neg hsent] at hholds
  cases houtcome with
  | found hcall _ =>
    rw [hcall] at hregistration
    cases hregistration
  | refused _ hfailed =>
    have hstatus := hfailed.2
    simp only [Request.holds, GatewayStage.pastLocker, statusOf,
      Bool.or_false, Option.some.injEq, hstatus, decide_false] at hholds
    simp [Request.holds, hholds]
  | _ => simp [Request.holds, GatewayStage.pastLocker]

theorem holds_of_heard {hearing : Hearing}
    (hregistration : isModification request.call = false)
    (hheard : heardFrom request.locker hearing = true) (hholds : ({ request with
      gateway := request.call.hear hearing } : Request).holds = true) :
    request.holds = true := by
  rcases hear_cases request.call hearing with
    ⟨rfl, -⟩ | ⟨response, hresponse, hfailed | ⟨_, _, _, hcall⟩⟩
  · simp [Request.holds, replied_of_heardFrom hheard, hasLedger, hasSealed]
  · have hstatus := hfailed.2
    simp only [Request.holds, hresponse, GatewayStage.pastLocker, statusOf,
      Bool.or_false, Option.some.injEq, hstatus, decide_false] at hholds
    simp [Request.holds, hholds]
  · rw [hcall] at hregistration
    cases hregistration

/-- Apart from the creation of its ledger, the locker's steps do not make a
request hold one. -/
theorem hasLedger_of_admin {request after : Request}
    (htransition : AdminTransition env system id request event next)
    (hevent : ∀ opening, event ≠ .acquire opening)
    (hafter : next.requests id = some after)
    (hledger : hasLedger after.locker = true) :
    hasLedger request.locker = true := by
  cases htransition with
  | received hstage =>
    obtain rfl := eq_of_setRequest hafter
    cases hledger
  | lost hstage =>
    obtain rfl := eq_of_setRequest hafter
    cases hledger
  | acquired _ _ _ => exact absurd rfl (hevent _)
  | addFailed hstage => simp [hstage, hasLedger]
  | added hstage => simp [hstage, hasLedger]
  | indexed hstage => simp [hstage, hasLedger, hasSealed]
  | announced hstage => simp [hstage, hasLedger, hasSealed]

theorem not_holds_begin (env : Environment) (call : AdminCall) :
    (⟨call, call.begin env.validators,
      lockerAfter (call.begin env.validators) .unsent⟩ : Request).holds =
        false := by
  rcases begin_cases env.validators call with ⟨refusal, hfailed, hbegin⟩ |
    ⟨_, _, _, _, hbegin⟩ | ⟨_, _, _, _, _, hbegin⟩
  · have hstatus := hfailed.2
    simp [hbegin, Request.holds, lockerAfter, hasLedger, hasSealed,
      GatewayStage.pastLocker, statusOf, hstatus]
  · simp [hbegin, Request.holds, lockerAfter, hasLedger, hasSealed,
      GatewayStage.pastLocker, statusOf]
  · simp [hbegin, Request.holds, lockerAfter, hasLedger, hasSealed,
      GatewayStage.pastLocker, statusOf]

section

variable (hstep : step env system action = some next)
  (hcreates : ∀ other opening, action ≠ .admin other (.acquire opening))

include hstep hcreates

/-- A registration that holds a ledger after a step that creates none held it
before. -/
theorem holds_of_step {after : Request} (hafter : next.requests id = some after)
    (hregistration : isModification after.call = false)
    (hholds : after.holds = true) :
    ∃ before, system.requests id = some before ∧
      before.call = after.call ∧ before.holds = true := by
  cases requestStep_of_step hstep id with
  | untouched hsame => exact ⟨after, hsame.symm.trans hafter, rfl, hholds⟩
  | called _ hnext =>
    obtain rfl := Option.mem_unique hafter hnext
    rw [not_holds_begin] at hholds
    cases hholds
  | @gateway event request hrequest htransition =>
    refine ⟨request, hrequest, ?_⟩
    rcases htransition.outcome with
      ⟨store, stage, houtcome, rfl⟩ | ⟨hearing, -, -, hheard, rfl⟩
    · obtain rfl := eq_of_setRequest hafter
      exact ⟨rfl, holds_of_outcome hregistration houtcome hholds⟩
    · obtain rfl := eq_of_setRequest hafter
      exact ⟨rfl, holds_of_heard hregistration hheard hholds⟩
  | @admin event request hrequest htransition =>
    have hledger := hasLedger_of_admin htransition
      (fun opening heq => hcreates id opening (by rw [heq])) hafter
    obtain ⟨locker, stage, rfl⟩ := htransition.frame
    obtain rfl := eq_of_setRequest hafter
    refine ⟨request, hrequest, rfl, ?_⟩
    simp only [Request.holds, Bool.or_eq_true] at hholds ⊢
    exact hholds.imp_left (Or.imp_left hledger)
  | restarted hnext =>
    rw [hafter] at hnext
    obtain ⟨before, hbefore, rfl⟩ := Option.map_eq_some_iff.mp hnext.symm
    refine ⟨before, hbefore, rfl, ?_⟩
    simp only [Request.holds, Bool.or_eq_true] at hholds ⊢
    refine hholds.imp_left (Or.imp_left fun hledger => ?_)
    cases hstage : before.locker <;>
      simp_all [AdminStage.crash, hasLedger, hasSealed]

/-! ### The open ledger -/

/-- Only a restart and the acquisition of a ledger change which are open. -/
theorem isSome_ledgers_of_step
    (hrestart : ∀ opening, action ≠ .restart opening) :
    (next.locker.ledgers subjectID).isSome =
      (system.locker.ledgers subjectID).isSome := by
  cases step_cases hstep with
  | worker htransition =>
    cases htransition with
    | indexed _ => exact isSome_ledgers_record _ _ _ _ _
    | _ => rfl
  | gateway _ htransition =>
    obtain ⟨store, requests, rfl⟩ := htransition.frame
    rfl
  | admin _ htransition =>
    cases htransition with
    | acquired _ _ _ => exact absurd rfl (hcreates _ _)
    | indexed _ => exact isSome_ledgers_record _ _ _ _ _
    | _ => rfl
  | restarted => exact absurd rfl (hrestart _)
  | _ => rfl

end

end Step

/-! ## The invariant of the race -/

/-- The recorded creation, if there is one, has opened the ledger, and the
registrations that hold it are the one that created it.  Requests from before
the race take no part in it. -/
structure Claimed (start : System) (subjectID : SubjectID)
    (recorded : System × List ℕ) : Prop where
  ledger : (recorded.2 = [] ∧
      recorded.1.locker.ledgers subjectID = none) ∨
    ∃ id, recorded.2 = [id] ∧ (recorded.1.locker.ledgers subjectID).isSome
  holder : ∀ id request, recorded.1.requests id = some request →
    request.call.subjectID = subjectID →
      isModification request.call = false → start.requests id = none →
      request.holds = true → recorded.2 = [id]
  earlier : ∀ id, (start.requests id).isSome →
    ∃ request, recorded.1.requests id = some request ∧
      (request.call.subjectID = subjectID → request.Finished)

section Race

variable {env : Environment} {start system next : System} {action : Action}
  {subjectID : SubjectID} {created : List ℕ}

theorem earlier_step (hinv : Claimed start subjectID (system, created))
    (hstep : step env system action = some next)
    (hearlier : (start.requests id).isSome) :
    ∃ request, next.requests id = some request ∧
      (request.call.subjectID = subjectID → request.Finished) := by
  obtain ⟨request, hrequest, hfinished⟩ := hinv.earlier id hearlier
  obtain ⟨after, hafter, hdescends⟩ := exists_request_of_step hstep hrequest
  refine ⟨after, hafter, fun hsubject => ?_⟩
  rw [hdescends.call] at hsubject
  have hsame := finished_of_step hstep hrequest (hfinished hsubject)
  obtain rfl := Option.mem_unique hafter hsame
  exact hfinished hsubject

variable {opening : Opening}

/-- What the acquisition of a ledger does: it keeps the open ledgers open, and
a registration that gets one has opened it. -/
theorem ledgers_of_acquired {request after : Request}
    (htransition : AdminTransition env system id request (.acquire opening)
      next) (hafter : next.requests id = some after) :
    ((system.locker.ledgers subjectID).isSome →
        (next.locker.ledgers subjectID).isSome) ∧
      (isModification request.call = false →
        request.call.subjectID = subjectID →
        hasLedger after.locker = true →
          system.locker.ledgers subjectID = none ∧
            (next.locker.ledgers subjectID).isSome) := by
  cases htransition with
  | @acquired _ locker stage hstage hlocker houtcome =>
    obtain rfl := eq_of_setRequest hafter
    constructor
    · intro hopen
      rcases hlocker with rfl | ⟨-, rfl⟩
      · exact hopen
      · exact isSome_ledgers_openLedger _ _ _ hopen
    · intro hregistration hsubject hledger
      rcases houtcome with ⟨error, hnonempty, rfl, -⟩ | ⟨_, -, -, hacquire⟩
      · simp [hasLedger, hasSealed, hnonempty] at hledger
      · have hopened := isSome_ledgers_of_acquireLedger hacquire
        rw [natsRequest_subjectID, hsubject] at hopened
        refine ⟨?_, hopened⟩
        cases hcall : request.call with
        | modifyTrust subject body operator =>
          simp [hcall, isModification] at hregistration
        | registerSubject input operator =>
          rw [hcall] at hacquire hsubject
          have hclosed := ledgers_eq_none_of_acquireLedger hacquire
          rwa [hsubject] at hclosed

theorem requests_of_ne {id other : ℕ} {request found : Request}
    (htransition : AdminTransition env system id request event next)
    (hne : other ≠ id) (hfound : next.requests other = some found) :
    system.requests other = some found := by
  obtain ⟨locker, stage, rfl⟩ := htransition.frame
  exact (Function.update_of_ne hne _ _).symm.trans hfound

section

variable (hinv : Claimed start subjectID (system, created))
  (hstep : step env system (.admin id (.acquire opening)) = some next)

include hinv hstep

/-- The request that opens the ledger is recorded and holds it. -/
theorem claimed_opened
    (htransition : AdminTransition env system id request (.acquire opening)
      next) (hclosed : system.locker.ledgers subjectID = none)
    (hopened : (next.locker.ledgers subjectID).isSome = true) :
    Claimed start subjectID (next, created ++
      creations subjectID system (.admin id (.acquire opening)) next) := by
  have hnone : created = [] := by
    rcases hinv.ledger with ⟨hempty, -⟩ | ⟨winner, -, hopen⟩
    · exact hempty
    · simp [hclosed] at hopen
  have hnoted : creations subjectID system (.admin id (.acquire opening))
      next = [id] := by
    simp [creations, hclosed, hopened]
  rw [hnoted, hnone, List.nil_append]
  refine ⟨.inr ⟨id, rfl, hopened⟩, ?_,
    fun other hearlier => earlier_step hinv hstep hearlier⟩
  intro other found hfound hsubject hregistration hfresh hholds
  by_cases heq : other = id
  · rw [heq]
  · have hheld : created = [other] := hinv.holder other found
      (requests_of_ne htransition heq hfound) hsubject hregistration hfresh
      hholds
    rw [hnone] at hheld
    cases hheld

/-- Nobody gets hold of the ledger in a step that does not open it. -/
theorem claimed_unopened (hrequest : system.requests id = some request)
    (htransition : AdminTransition env system id request (.acquire opening)
      next) (hopens : ¬ (system.locker.ledgers subjectID = none ∧
      (next.locker.ledgers subjectID).isSome = true)) :
    Claimed start subjectID (next, created ++
      creations subjectID system (.admin id (.acquire opening)) next) := by
  obtain ⟨locker, stage, hnext⟩ := htransition.frame
  have hown : next.requests id = some { request with locker := stage } := by
    rw [hnext]
    exact Function.update_self ..
  obtain ⟨hkept, hgained⟩ := ledgers_of_acquired htransition hown
  have hnoted : creations subjectID system (.admin id (.acquire opening))
      next = [] := by
    simp only [creations]
    rw [if_neg]
    simpa using hopens
  rw [hnoted, List.append_nil]
  refine ⟨?_, ?_, fun other hearlier => earlier_step hinv hstep hearlier⟩
  · refine hinv.ledger.imp (fun hclosed => ⟨hclosed.1, ?_⟩)
      fun ⟨winner, hwinner, hopen⟩ => ⟨winner, hwinner, hkept hopen⟩
    rw [← Option.not_isSome_iff_eq_none]
    exact fun hopened => hopens ⟨hclosed.2, hopened⟩
  · intro other found hfound hsubject hregistration hfresh hholds
    by_cases heq : other = id
    · subst heq
      obtain rfl := Option.mem_unique hown hfound
      refine hinv.holder other request hrequest hsubject hregistration
        hfresh ?_
      simp only [Request.holds, Bool.or_eq_true] at hholds ⊢
      refine hholds.imp_left (Or.imp_left fun hledger => ?_)
      exact absurd (hgained hregistration hsubject hledger) hopens
    · exact hinv.holder other found (requests_of_ne htransition heq hfound)
        hsubject hregistration hfresh hholds

theorem claimed_acquire :
    Claimed start subjectID (next, created ++
      creations subjectID system (.admin id (.acquire opening)) next) := by
  obtain ⟨request, hrequest, htransition⟩ := adminStep_cases hstep
  by_cases hopens : system.locker.ledgers subjectID = none ∧
      (next.locker.ledgers subjectID).isSome = true
  · exact claimed_opened hinv hstep htransition hopens.1 hopens.2
  · exact claimed_unopened hinv hstep hrequest htransition hopens

end

theorem creations_eq_nil
    (hcreates : ∀ other opening, action ≠ .admin other (.acquire opening)) :
    creations subjectID system action next = [] := by
  unfold creations
  split
  · exact absurd rfl (hcreates _ _)
  · rfl

theorem claimed_step (hinv : Claimed start subjectID (system, created))
    (hrestart : ∀ opening, action ≠ .restart opening)
    (hstep : step env system action = some next) :
    Claimed start subjectID
      (next, created ++ creations subjectID system action next) := by
  by_cases hacquires : ∃ id opening, action = .admin id (.acquire opening)
  · obtain ⟨id, opening, rfl⟩ := hacquires
    exact claimed_acquire hinv hstep
  · have hcreates : ∀ other opening,
        action ≠ .admin other (.acquire opening) :=
      fun other opening heq => hacquires ⟨other, opening, heq⟩
    have hsame : (next.locker.ledgers subjectID).isSome =
        (system.locker.ledgers subjectID).isSome :=
      isSome_ledgers_of_step hstep hcreates hrestart
    rw [creations_eq_nil hcreates, List.append_nil]
    refine ⟨?_, ?_, fun other hearlier => earlier_step hinv hstep hearlier⟩
    · refine hinv.ledger.imp (fun hclosed => ⟨hclosed.1, ?_⟩)
        fun ⟨winner, hwinner, hopen⟩ => ⟨winner, hwinner, ?_⟩
      · rw [← Option.not_isSome_iff_eq_none, hsame]
        simpa using hclosed.2
      · rwa [hsame]
    · intro id after hafter hsubject hregistration hfresh hholds
      obtain ⟨before, hbefore, hcall, hheld⟩ :=
        holds_of_step hstep hcreates hafter hregistration hholds
      rw [← hcall] at hsubject hregistration
      exact hinv.holder id before hbefore hsubject hregistration hfresh hheld

theorem creations_of_claimed {winner : ℕ}
    (hinv : Claimed start subjectID (system, [winner])) :
    creations subjectID system action next = [] := by
  have hopen : (system.locker.ledgers subjectID).isNone = false := by
    rcases hinv.ledger with ⟨hempty, -⟩ | ⟨_, -, hopen⟩
    · cases hempty
    · simpa using hopen
  unfold creations
  split
  · simp [hopen]
  · rfl

theorem created_kept (hinv : Claimed start subjectID (system, created))
    (hcreated : created = [id]) :
    created ++ creations subjectID system action next = [id] := by
  subst hcreated
  rw [creations_of_claimed hinv, List.append_nil]

theorem fresh_of_unfinished (hinv : Claimed start subjectID (system, created))
    (hrequest : system.requests id = some request)
    (hsubject : request.call.subjectID = subjectID)
    (hunfinished : ¬ request.Finished) : start.requests id = none := by
  rw [← Option.not_isSome_iff_eq_none]
  intro hearlier
  obtain ⟨found, hfound, hfinished⟩ := hinv.earlier id hearlier
  obtain rfl := Option.mem_unique hrequest hfound
  exact hunfinished (hfinished hsubject)

end Race

/-! ## What the winner leaves behind -/

/-- The locker keeps running, and the subject is only registered. -/
def OnlyRegisters (subjectID : SubjectID) : Action → Prop
  | .call _ call => call.subjectID = subjectID → isModification call = false
  | .restart _ => False
  | _ => True

/-- The entries of the log that admin requests have sealed. -/
def adminEntries (entries : List Entry) : List Entry :=
  entries.filter fun entry => decide (entry.sealer ≠ .worker)

structure SoleWinner (start : System) (subjectID : SubjectID)
    (recorded : System × List ℕ) : Prop where
  claimed : Claimed start subjectID recorded
  registers : ∀ id request, recorded.1.requests id = some request →
    request.call.subjectID = subjectID → start.requests id = none →
      isModification request.call = false
  sealers : ∀ entry ∈ recorded.1.locker.entries subjectID, ∀ id,
    entry.sealer = .admin id → recorded.2 = [id] ∧
      ∃ request, recorded.1.requests id = some request ∧
        isModification request.call = false ∧
        hasSealed request.locker = true
  once : (adminEntries (recorded.1.locker.entries subjectID)).length ≤ 1
  trust : recorded.1.trustList subjectID = none ∨
    ∃ id request, recorded.2 = [id] ∧
      recorded.1.requests id = some request ∧
      recorded.1.trustList subjectID = some request.call.trustedPublishers

section Winner

variable {env : Environment} {start system next : System} {action : Action}
  {subjectID : SubjectID} {created : List ℕ}

theorem hasSealed_of_admin
    (htransition : AdminTransition env system id request event next)
    (hsealed : hasSealed request.locker = true) :
    ∃ after, next.requests id = some after ∧ after.call = request.call ∧
      hasSealed after.locker = true := by
  cases htransition with
  | received hstage => simp [hstage, hasSealed] at hsealed
  | lost hstage => simp [hstage, hasSealed] at hsealed
  | acquired hstage _ _ => simp [hstage, hasSealed] at hsealed
  | addFailed hstage => simp [hstage, hasSealed] at hsealed
  | added hstage => simp [hstage, hasSealed] at hsealed
  | indexed hstage =>
    refine ⟨_, requests_setRequest_self _ _ _, rfl, ?_⟩
    cases natsRequest request.call <;> rfl
  | announced hstage => exact ⟨_, requests_setRequest_self _ _ _, rfl, rfl⟩

theorem hasSealed_of_gateway {event : GatewayEvent}
    (htransition : GatewayTransition env system id request event next)
    (hregistration : isModification request.call = false)
    (hsealed : hasSealed request.locker = true) :
    ∃ after, next.requests id = some after ∧ after.call = request.call ∧
      hasSealed after.locker = true := by
  rcases htransition.outcome with
    ⟨store, stage, houtcome, rfl⟩ | ⟨hearing, -, -, -, rfl⟩
  · have hsent : stage ≠ .requesting := by
      rintro rfl
      obtain ⟨-, _, _, _, hcall⟩ := houtcome.requesting
      rw [hcall] at hregistration
      cases hregistration
    refine ⟨_, requests_setRequest_self _ _ _, rfl, ?_⟩
    simpa only [lockerAfter, if_neg hsent] using hsealed
  · exact ⟨_, requests_setRequest_self _ _ _, rfl, hsealed⟩

/-- Without a restart, a sealed registration stays sealed. -/
theorem hasSealed_of_step {before : Request}
    (hstep : step env system action = some next)
    (hrestart : ∀ opening, action ≠ .restart opening)
    (hbefore : system.requests id = some before)
    (hregistration : isModification before.call = false)
    (hsealed : hasSealed before.locker = true) :
    ∃ after, next.requests id = some after ∧ after.call = before.call ∧
      hasSealed after.locker = true := by
  cases requestStep_of_step hstep id with
  | untouched hsame => exact ⟨before, hsame.trans hbefore, rfl, hsealed⟩
  | called hfresh _ =>
    rw [hfresh] at hbefore
    cases hbefore
  | gateway hrequest htransition =>
    obtain rfl := Option.mem_unique hbefore hrequest
    exact hasSealed_of_gateway htransition hregistration hsealed
  | admin hrequest htransition =>
    obtain rfl := Option.mem_unique hbefore hrequest
    exact hasSealed_of_admin htransition hsealed
  | restarted _ => exact absurd rfl (hrestart _)

section

variable (hinv : SoleWinner start subjectID (system, created))

include hinv

/-- An active request for the subject is a registration, and holds the ledger
if it is past its creation. -/
theorem SoleWinner.winner (hrequest : system.requests id = some request)
    (hsubject : request.call.subjectID = subjectID)
    (hunfinished : ¬ request.Finished) (hholds : request.holds = true) :
    isModification request.call = false ∧ created = [id] := by
  have hfresh := fresh_of_unfinished hinv.claimed hrequest hsubject hunfinished
  have hregistration := hinv.registers id request hrequest hsubject hfresh
  exact ⟨hregistration, hinv.claimed.holder id request hrequest hsubject
    hregistration hfresh hholds⟩

theorem registers_step (hguard : OnlyRegisters subjectID action)
    (hstep : step env system action = some next) {after : Request}
    (hafter : next.requests id = some after)
    (hsubject : after.call.subjectID = subjectID)
    (hfresh : start.requests id = none) :
    isModification after.call = false := by
  rcases request_of_step hstep hafter with
    ⟨-, rfl⟩ | ⟨before, hbefore, hdescends⟩
  · exact hguard hsubject
  · rw [hdescends.call] at hsubject ⊢
    exact hinv.registers id before hbefore hsubject hfresh

/-- A request whose receipt the locker is sealing for the subject is the
winner, and nothing was sealed before. -/
theorem SoleWinner.sealing {receipt : Bytes}
    (hrequest : system.requests id = some request)
    (hsubject : request.call.subjectID = subjectID)
    (hstage : request.locker = .sealing receipt) :
    isModification request.call = false ∧ created = [id] ∧
      adminEntries (system.locker.entries subjectID) = [] := by
  have hunfinished : ¬ request.Finished := by
    intro hfinished
    have hidle := hfinished.idle
    rw [hstage] at hidle
    cases hidle
  have hholds : request.holds = true := by
    simp [Request.holds, hstage, hasLedger]
  obtain ⟨hregistration, hcreated⟩ :=
    hinv.winner hrequest hsubject hunfinished hholds
  refine ⟨hregistration, hcreated, ?_⟩
  rw [adminEntries, List.filter_eq_nil_iff]
  intro entry hentry
  cases hsealer : entry.sealer with
  | worker => simp
  | admin other =>
    obtain ⟨hother, found, hfound, -, hsealed⟩ :=
      hinv.sealers entry hentry other hsealer
    have hsame : [id] = [other] := hcreated.symm.trans hother
    obtain rfl := (List.cons.inj hsame).1
    obtain rfl := Option.mem_unique hrequest hfound
    rw [hstage] at hsealed
    cases hsealed

end

theorem exists_sealed_of_added
    (hstep : step env system (.admin id (.add none)) = some next)
    (hrequest : system.requests id = some request) :
    ∃ after, next.requests id = some after ∧ after.call = request.call ∧
      hasSealed after.locker = true := by
  obtain ⟨found, hfound, htransition⟩ := adminStep_cases hstep
  obtain rfl := Option.mem_unique hrequest hfound
  cases htransition with
  | added _ => exact ⟨_, requests_setRequest_self _ _ _, rfl, rfl⟩

section

variable (hinv : SoleWinner start subjectID (system, created))

include hinv

theorem sealers_step (hrestart : ∀ opening, action ≠ .restart opening)
    (hstep : step env system action = some next) {entry : Entry}
    (hentry : entry ∈ next.locker.entries subjectID)
    (hsealer : entry.sealer = .admin id) :
    created ++ creations subjectID system action next = [id] ∧
      ∃ request, next.requests id = some request ∧
        isModification request.call = false ∧
        hasSealed request.locker = true := by
  have hold : entry ∈ system.locker.entries subjectID →
      created ++ creations subjectID system action next = [id] ∧
        ∃ request, next.requests id = some request ∧
          isModification request.call = false ∧
          hasSealed request.locker = true := by
    intro hmem
    obtain ⟨hcreated, request, hrequest, hregistration, hsealed⟩ :=
      hinv.sealers entry hmem id hsealer
    obtain ⟨after, hafter, hcall, hstill⟩ :=
      hasSealed_of_step hstep hrestart hrequest hregistration hsealed
    rw [← hcall] at hregistration
    exact ⟨created_kept hinv.claimed hcreated, after, hafter, hregistration,
      hstill⟩
  have hlog := logStep_of_step hstep subjectID
  generalize next.locker.entries subjectID = entries at hlog hentry
  cases hlog with
  | kept => exact hold hentry
  | workerSealed _ _ _ =>
    rcases List.mem_append.mp hentry with hmem | hnew
    · exact hold hmem
    · obtain rfl := List.mem_singleton.mp hnew
      cases hsealer
  | adminSealed haction hrequest hsubject hstage =>
    rcases List.mem_append.mp hentry with hmem | hnew
    · exact hold hmem
    · obtain rfl := List.mem_singleton.mp hnew
      cases hsealer
      subst haction
      obtain ⟨hregistration, hcreated, -⟩ :=
        hinv.sealing hrequest hsubject hstage
      obtain ⟨after, hafter, hcall, hsealed⟩ :=
        exists_sealed_of_added hstep hrequest
      rw [← hcall] at hregistration
      exact ⟨created_kept hinv.claimed hcreated, after, hafter, hregistration,
        hsealed⟩

theorem once_step (hstep : step env system action = some next) :
    (adminEntries (next.locker.entries subjectID)).length ≤ 1 := by
  have hlog := logStep_of_step hstep subjectID
  generalize next.locker.entries subjectID = entries at hlog ⊢
  cases hlog with
  | kept => exact hinv.once
  | workerSealed _ _ _ =>
    rw [adminEntries, List.filter_append, ← adminEntries]
    simpa using hinv.once
  | adminSealed _ hrequest hsubject hstage =>
    obtain ⟨-, -, hnone⟩ := hinv.sealing hrequest hsubject hstage
    rw [adminEntries, List.filter_append, ← adminEntries, hnone]
    simp

theorem SoleWinner.writing {revision : Option ℕ}
    (hrequest : system.requests id = some request)
    (hsubject : request.call.subjectID = subjectID)
    (hstage : request.gateway = .writingTrust revision) : created = [id] := by
  have hunfinished : ¬ request.Finished := by
    intro hfinished
    obtain ⟨response, hresponse⟩ := hfinished.returned
    rw [hstage] at hresponse
    cases hresponse
  have hholds : request.holds = true := by
    simp [Request.holds, hstage, GatewayStage.pastLocker]
  exact (hinv.winner hrequest hsubject hunfinished hholds).2

theorem trust_step (hstep : step env system action = some next) :
    next.trustList subjectID = none ∨
      ∃ id request,
        created ++ creations subjectID system action next = [id] ∧
        next.requests id = some request ∧
        next.trustList subjectID = some request.call.trustedPublishers := by
  rcases trustList_of_step hstep subjectID with hkept |
    ⟨id, event, request, revision, rfl, hrequest, hsubject, hstage, hlist⟩
  · rw [hkept]
    refine hinv.trust.imp_right fun ⟨id, request, hcreated, hrequest, hlist⟩ =>
      ?_
    obtain ⟨after, hafter, hdescends⟩ := exists_request_of_step hstep hrequest
    refine ⟨id, after, created_kept hinv.claimed hcreated, hafter, ?_⟩
    rw [hdescends.call]
    exact hlist
  · obtain ⟨after, hafter, hdescends⟩ := exists_request_of_step hstep hrequest
    refine .inr ⟨id, after,
      created_kept hinv.claimed (hinv.writing hrequest hsubject hstage),
      hafter, ?_⟩
    rw [hdescends.call]
    exact hlist

theorem soleWinner_step (hguard : OnlyRegisters subjectID action)
    (hstep : step env system action = some next) :
    SoleWinner start subjectID
      (next, created ++ creations subjectID system action next) := by
  have hrestart : ∀ opening, action ≠ .restart opening := by
    rintro opening rfl
    exact hguard
  exact ⟨claimed_step hinv.claimed hrestart hstep,
    fun id after hafter hsubject hfresh =>
      registers_step hinv hguard hstep hafter hsubject hfresh,
    fun entry hentry id hsealer =>
      sealers_step hinv hrestart hstep hentry hsealer,
    once_step hinv hstep, trust_step hinv hstep⟩

end

end Winner

/-! ## A single registration wins -/

/-- The subject has no ledger and no trust list, and nothing is under way for
it. -/
structure Unclaimed (subjectID : SubjectID) (system : System) : Prop where
  closed : system.locker.ledgers subjectID = none
  unlogged : system.locker.logs subjectID = none
  untrusted : system.trustList subjectID = none
  quiet : ∀ id request, system.requests id = some request →
    request.call.subjectID = subjectID → request.Finished

theorem soleWinner_of_reaches {env : Environment} {start : System}
    {subjectID : SubjectID} {recorded : System × List ℕ}
    (hstart : Unclaimed subjectID start)
    (hreach : Reaches (recording (step env) (creations subjectID))
      (fun _ action => OnlyRegisters subjectID action) (start, [])
      recorded) : SoleWinner start subjectID recorded := by
  have hentries : start.locker.entries subjectID = [] := by
    simp [Locker.entries, hstart.unlogged]
  have hfirst : SoleWinner start subjectID (start, []) := by
    refine ⟨⟨.inl ⟨rfl, hstart.closed⟩, ?_, ?_⟩, ?_, ?_, ?_,
      .inl hstart.untrusted⟩
    · intro id request hrequest _ _ hfresh
      rw [hfresh] at hrequest
      cases hrequest
    · intro id hearlier
      obtain ⟨request, hrequest⟩ := Option.isSome_iff_exists.mp hearlier
      exact ⟨request, hrequest, hstart.quiet id request hrequest⟩
    · intro id request hrequest _ hfresh
      rw [hfresh] at hrequest
      cases hrequest
    · simp [hentries]
    · simp [hentries, adminEntries]
  refine hreach.invariant hfirst fun before action after hinv hguard hstep => ?_
  obtain ⟨hnext, hcreated⟩ := recording_eq_some hstep
  have hwins := soleWinner_step hinv hguard hnext
  rw [← hcreated] at hwins
  exact hwins

/-- From a state in which the subject has no ledger and no trust list, in every
run that only registers it and in which the locker keeps running: at most one
request creates the ledger; a registration that is answered with 201 is that
one; at most one registration receipt is sealed; the trust list is absent or
that of this request; and a step that changes the list is a step of it. -/
theorem single_registration_wins {env : Environment} {start system : System}
    {subjectID : SubjectID} {created : List ℕ}
    (hstart : Unclaimed subjectID start)
    (hreach : Reaches (recording (step env) (creations subjectID))
      (fun _ action => OnlyRegisters subjectID action) (start, [])
      (system, created)) :
    created.length ≤ 1 ∧
      (∀ id request, system.requests id = some request →
        request.call.subjectID = subjectID → start.requests id = none →
        statusOf request.gateway = some 201 → created = [id]) ∧
      (adminEntries (system.locker.entries subjectID)).length ≤ 1 ∧
      (system.trustList subjectID = none ∨
        ∃ id request, created = [id] ∧
          system.requests id = some request ∧
          system.trustList subjectID = some request.call.trustedPublishers) ∧
      ∀ action next, step env system action = some next →
        next.trustList subjectID ≠ system.trustList subjectID →
          ∃ id event, action = .gateway id event ∧ created = [id] := by
  have hwins := soleWinner_of_reaches hstart hreach
  refine ⟨?_, ?_, hwins.once, hwins.trust, ?_⟩
  · rcases hwins.claimed.ledger with ⟨hnone, -⟩ | ⟨id, hone, -⟩
    · simp only at hnone
      simp [hnone]
    · simp only at hone
      simp [hone]
  · intro id request hrequest hsubject hfresh hstatus
    refine hwins.claimed.holder id request hrequest hsubject
      (hwins.registers id request hrequest hsubject hfresh) hfresh ?_
    simp [Request.holds, hstatus]
  · intro action next hstep hchanged
    rcases trustList_of_step hstep subjectID with hkept |
      ⟨id, event, request, revision, rfl, hrequest, hsubject, hstage, -⟩
    · exact absurd hkept hchanged
    · exact ⟨id, event, rfl, hwins.writing hrequest hsubject hstage⟩

/-- Two registrations of `alpha`; the locker handles the second one while it
seals the receipt of the first. -/
def sampleRace : List Action :=
  [.call 0 sampleCall,
    .call 1 (.registerSubject (some ⟨"alpha", [workload "rival"], none⟩)
      sampleOperator),
    .admin 1 .receive, .admin 0 .receive, .admin 0 (.acquire (.opened 0)),
    .admin 1 (.acquire (.opened 0)), .admin 0 (.add none), .admin 0 .index,
    .gateway 1 (.hear (.reply ("creating ledger: " ++
      (GoError.wrap "" .ledgerExists ": alpha").error))),
    .admin 0 .announce, .gateway 0 (.hear (.reply "")),
    .gateway 0 (.advance none), .gateway 0 (.advance none),
    .gateway 0 (.advance none)]

theorem onlyRegisters_sampleRace :
    ∀ action ∈ sampleRace, OnlyRegisters "alpha" action := by
  simp [sampleRace, OnlyRegisters, sampleCall, isModification]

theorem unclaimed_initial (subjectID : SubjectID) :
    Unclaimed subjectID initial where
  closed := rfl
  unlogged := rfl
  untrusted := rfl
  quiet := fun _ _ hrequest => by cases hrequest

/-- The first registration of the race wins. -/
theorem deployed_registration_wins :
    ∃ system created,
      Reaches (recording (step deployment) (creations "alpha"))
        (fun _ action => OnlyRegisters "alpha" action) (initial, [])
        (system, created) ∧
      (system.requests 0).map (fun request => statusOf request.gateway) =
        some (some 201) ∧
      (system.requests 1).map (fun request => statusOf request.gateway) =
        some (some 500) ∧
      created = [0] ∧
      (adminEntries (system.locker.entries "alpha")).length ≤ 1 := by
  have hobserved : ((run (recording (step deployment) (creations "alpha"))
      (initial, []) sampleRace).map fun recorded =>
        ((recorded.1.requests 0).map Request.observed,
          (recorded.1.requests 1).map fun request =>
            statusOf request.gateway)) =
      some (some ⟨sampleCall, some 201, .replied ""⟩, some (some 500)) := by
    rw [deployment_eq]
    decide +kernel
  obtain ⟨⟨system, created⟩, hrun, hvalues⟩ :=
    Option.map_eq_some_iff.mp hobserved
  obtain ⟨hwinner, hloser⟩ := Prod.mk.inj hvalues
  obtain ⟨response, hstatus, hrequest⟩ := exists_response_of_observed hwinner
  have hreach : Reaches (recording (step deployment) (creations "alpha"))
      (fun _ action => OnlyRegisters "alpha" action) (initial, [])
      (system, created) :=
    reaches_of_run_all (fun _ => onlyRegisters_sampleRace) hrun
  obtain ⟨-, hanswered, honce, -, -⟩ :=
    single_registration_wins (unclaimed_initial "alpha") hreach
  refine ⟨system, created, hreach, ?_, hloser, ?_, honce⟩
  · simp only at hrequest
    simp [hrequest, statusOf, hstatus]
  · exact hanswered 0 _ hrequest rfl rfl (by simp [statusOf, hstatus])

end ComplyTime.Pipeline
