import ComplyTime.Pipeline.TrustAudit

/-!
# The order of the audit

A trust modification writes its list to the bucket and then has the locker
append a receipt, and nothing couples the two orders: of two modifications that
have both written, the first may be sealed last.  If no write takes effect
while another list waits for its receipt, the last receipt shows the stored
list whenever no modification is under way.
-/

namespace ComplyTime.Pipeline

open TransitionSystem WorkQueue Subjects Ledgers Worker AdminSubscriber
open GatewayAdmin Trust Receipt

/-- The locker was asked for a receipt and has not appended it. -/
def awaitsSeal : AdminStage → Bool
  | .inFlight => true
  | .started => true
  | .sealing _ => true
  | _ => false

/-- A trust modification that waits for its receipt. -/
def Request.unsealed (request : Request) : Bool :=
  isModification request.call && awaitsSeal request.locker

/-- No trust modification of the subject waits for its receipt. -/
def AllSealed (subjectID : SubjectID) (system : System) : Prop :=
  ∀ id request, system.requests id = some request →
    request.call.subjectID = subjectID → request.unsealed = false

/-! ## Runs in which lists are written in turn -/

/-- No artifact that calls itself a trust modification is sealed for the
subject. -/
def SealsNoForgery (library : Library) (subjectID : SubjectID)
    (system : System) : Action → Prop
  | .worker (.add none) => ∀ sequence ref,
      system.worker = .sealing sequence ref → ref.subjectID = subjectID →
        sealedTrustList library ref.receiptBytes = none
  | _ => True

/-- The trust modifications of the subject are undisturbed. -/
def SealsSucceed (env : Environment) (subjectID : SubjectID)
    (system : System) (action : Action) : Prop :=
  ∀ id request, system.requests id = some request →
    request.call.subjectID = subjectID → isModification request.call = true →
      Undisturbed env system id request action

/-- No trust modification of the subject writes its list while another one
waits for its receipt. -/
def WritesInTurn (subjectID : SubjectID) (system : System) : Action → Prop
  | .gateway id (.advance fault) => ∀ request revision,
      system.requests id = some request →
      request.call.subjectID = subjectID →
      isModification request.call = true →
      request.gateway = .writingTrust revision →
      (Trust.writeTrust trustCodec system.store fault subjectID
        request.call.trustedPublishers revision).isOk = true →
      AllSealed subjectID system
  | _ => True

structure AuditedInTurn (env : Environment) (library : Library)
    (subjectID : SubjectID) (system : System) (action : Action) : Prop where
  genuine : SealsNoForgery library subjectID system action
  seals : SealsSucceed env subjectID system action
  turns : WritesInTurn subjectID system action

/-! ## The invariant -/

/-- At most one modification waits for its receipt, and then its list is
stored; otherwise the last receipt, if there is one, shows the stored list. -/
structure AuditOrdered (library : Library) (subjectID : SubjectID)
    (system : System) : Prop where
  pending : ∀ id request, system.requests id = some request →
    request.call.subjectID = subjectID → request.unsealed = true →
      request.gateway = .requesting ∧
        system.trustList subjectID = some request.call.trustedPublishers
  unique : ∀ id request other found, system.requests id = some request →
    request.call.subjectID = subjectID → request.unsealed = true →
      system.requests other = some found →
      found.call.subjectID = subjectID → found.unsealed = true → other = id
  agreed : AllSealed subjectID system →
    auditedTrustList library (system.locker.entries subjectID) = none ∨
      auditedTrustList library (system.locker.entries subjectID) =
        system.trustList subjectID

/-- A registration writes the list only while nothing is sealed about it. -/
def RegistersFirst (library : Library) (subjectID : SubjectID)
    (system : System) : Prop :=
  ∀ id request revision, system.requests id = some request →
    request.call.subjectID = subjectID →
      isModification request.call = false →
      request.gateway = .writingTrust revision →
        auditedTrustList library (system.locker.entries subjectID) = none ∧
          AllSealed subjectID system

variable {id : ℕ} {request : Request} {action : Action} {system : System}

section Step

variable {env : Environment} {library : Library} {clock : ℕ → String}
  {subjectID : SubjectID} {next : System}

/-- What a request was before a step that neither starts nor ends its wait for
a receipt. -/
structure Resembles (before after : Request) : Prop where
  call : after.call = before.call
  unsealed : after.unsealed = before.unsealed
  waiting : before.unsealed = true → after.gateway = before.gateway

theorem Resembles.refl (request : Request) : Resembles request request :=
  ⟨rfl, rfl, fun _ => rfl⟩

section

variable (hinv : AuditOrdered library subjectID system)
  (hlist : next.trustList subjectID = system.trustList subjectID)
  (haudited : auditedTrustList library (next.locker.entries subjectID) =
    auditedTrustList library (system.locker.entries subjectID))

include hinv hlist haudited

/-- A step that keeps the list and what the log shows, and after which the
requests for the subject resemble those before it; new ones wait for nothing. -/
theorem AuditOrdered.frame (hafter : ∀ id after, next.requests id = some after →
      after.call.subjectID = subjectID → after.unsealed = true →
        ∃ before, system.requests id = some before ∧ Resembles before after)
    (hbefore : ∀ id before, system.requests id = some before →
      before.call.subjectID = subjectID →
        ∃ after, next.requests id = some after ∧ Resembles before after) :
    AuditOrdered library subjectID next := by
  refine ⟨?_, ?_, ?_⟩
  · intro id after hrequest hsubject hwaits
    obtain ⟨before, hold, hsame⟩ := hafter id after hrequest hsubject hwaits
    rw [hsame.call] at hsubject ⊢
    rw [hsame.unsealed] at hwaits
    rw [hsame.waiting hwaits, hlist]
    exact hinv.pending id before hold hsubject hwaits
  · intro id after other found hrequest hsubject hwaits hother hsubject'
      hwaits'
    obtain ⟨before, hold, hsame⟩ := hafter id after hrequest hsubject hwaits
    obtain ⟨earlier, hearlier, hsame'⟩ :=
      hafter other found hother hsubject' hwaits'
    rw [hsame.call] at hsubject
    rw [hsame.unsealed] at hwaits
    rw [hsame'.call] at hsubject'
    rw [hsame'.unsealed] at hwaits'
    exact hinv.unique id before other earlier hold hsubject hwaits hearlier
      hsubject' hwaits'
  · intro hsealed
    rw [haudited, hlist]
    apply hinv.agreed
    intro id before hold hsubject
    obtain ⟨after, hrequest, hsame⟩ := hbefore id before hold hsubject
    rw [← hsame.unsealed]
    exact hsealed id after hrequest (by rw [hsame.call, hsubject])

theorem AuditOrdered.same (hrequests : next.requests = system.requests) :
    AuditOrdered library subjectID next := by
  refine hinv.frame hlist haudited ?_ ?_
  · intro id after hrequest _ _
    rw [hrequests] at hrequest
    exact ⟨after, hrequest, .refl after⟩
  · intro id before hrequest _
    rw [← hrequests] at hrequest
    exact ⟨before, hrequest, .refl before⟩

end

variable {after : Request}

/-- A step that moves one request, which resembles what it was if it is a
request for the subject. -/
theorem AuditOrdered.move (hinv : AuditOrdered library subjectID system)
    (hrequest : system.requests id = some request)
    (hlist : next.trustList subjectID = system.trustList subjectID)
    (haudited : auditedTrustList library (next.locker.entries subjectID) =
      auditedTrustList library (system.locker.entries subjectID))
    (hrequests : next.requests =
      Function.update system.requests id (some after))
    (hcall : after.call = request.call)
    (hsame : request.call.subjectID = subjectID → Resembles request after) :
    AuditOrdered library subjectID next := by
  refine hinv.frame hlist haudited ?_ ?_
  · intro other found hfound hsubject _
    rw [hrequests] at hfound
    rcases update_eq_some hfound with ⟨rfl, rfl⟩ | ⟨-, hbefore⟩
    · rw [hcall] at hsubject
      exact ⟨request, hrequest, hsame hsubject⟩
    · exact ⟨found, hbefore, .refl found⟩
  · intro other before hbefore hsubject
    rw [hrequests]
    by_cases heq : other = id
    · subst heq
      obtain rfl := Option.mem_unique hrequest hbefore
      exact ⟨after, Function.update_self .., hsame hsubject⟩
    · exact ⟨before, by rwa [Function.update_of_ne heq], .refl before⟩

theorem unsealed_of_registration
    (hregistration : isModification request.call = false) :
    request.unsealed = false := by
  simp [Request.unsealed, hregistration]

/-! ### The worker -/

theorem auditedTrustList_add (locker : Locker) {subject : SubjectID}
    {entry : Entry} (hnone : subject = subjectID →
      sealedTrustList library entry.data = none) :
    auditedTrustList library ((locker.add subject entry).entries subjectID) =
      auditedTrustList library (locker.entries subjectID) := by
  by_cases heq : subject = subjectID
  · subst heq
    rw [entries_add_self, auditedTrustList_append, hnone rfl, Option.none_or]
  · rw [entries_add_of_ne locker entry (Ne.symm heq)]

theorem auditOrdered_worker {event : WorkerEvent}
    (hinv : AuditOrdered library subjectID system)
    (hgenuine : SealsNoForgery library subjectID system (.worker event))
    (htransition : WorkerTransition env system event next) :
    AuditOrdered library subjectID next := by
  cases htransition with
  | @added sequence ref hworker =>
    exact hinv.same rfl (auditedTrustList_add system.locker
      fun hsubject => hgenuine sequence ref hworker hsubject) rfl
  | _ => exact hinv.same rfl rfl rfl

/-! ### The admin subscriber -/

/-- Nothing waits for a receipt, and the last one shows the stored list. -/
theorem AuditOrdered.of_allSealed (hsealed : AllSealed subjectID next)
    (hagreed : auditedTrustList library (next.locker.entries subjectID) =
        none ∨
      auditedTrustList library (next.locker.entries subjectID) =
        next.trustList subjectID) : AuditOrdered library subjectID next where
  pending := by
    intro id request hrequest hsubject hwaits
    rw [hsealed id request hrequest hsubject] at hwaits
    cases hwaits
  unique := by
    intro id request other found hrequest hsubject hwaits
    rw [hsealed id request hrequest hsubject] at hwaits
    cases hwaits
  agreed := fun _ => hagreed

/-- The locker's side of a request moves without an append. -/
theorem AuditOrdered.advance (hinv : AuditOrdered library subjectID system)
    {stage : AdminStage} (hrequest : system.requests id = some request)
    (hlist : next.trustList subjectID = system.trustList subjectID)
    (haudited : auditedTrustList library (next.locker.entries subjectID) =
      auditedTrustList library (system.locker.entries subjectID))
    (hrequests : next.requests = Function.update system.requests id
      (some { request with locker := stage }))
    (hawaits : request.call.subjectID = subjectID →
      isModification request.call = true →
        awaitsSeal stage = awaitsSeal request.locker) :
    AuditOrdered library subjectID next := by
  refine hinv.move hrequest hlist haudited hrequests rfl
    fun hsubject => ⟨rfl, ?_, fun _ => rfl⟩
  cases hmodifies : isModification request.call with
  | false => simp [Request.unsealed, hmodifies]
  | true => simp [Request.unsealed, hmodifies, hawaits hsubject hmodifies]

/-- The append of the receipt a modification of the subject has waited for. -/
theorem auditOrdered_sealed {receipt : Bytes}
    (hinv : AuditOrdered library subjectID system)
    (hrequest : system.requests id = some request)
    (hsubject : request.call.subjectID = subjectID)
    (hunsealed : request.unsealed = true)
    (hlist : sealedTrustList library receipt =
      some request.call.trustedPublishers) :
    AuditOrdered library subjectID
      (system.adminAdd id request receipt none) := by
  apply AuditOrdered.of_allSealed
  · intro other found hfound hother
    rcases update_eq_some hfound with ⟨rfl, rfl⟩ | ⟨hne, hbefore⟩
    · simp [Request.unsealed, awaitsSeal]
    · rw [← Bool.not_eq_true]
      intro hwaits
      exact hne (hinv.unique id request other found hrequest hsubject
        hunsealed hbefore hother hwaits)
  · right
    obtain ⟨-, hstored⟩ := hinv.pending id request hrequest hsubject hunsealed
    have hentries : (system.adminAdd id request receipt
        none).locker.entries subjectID =
        system.locker.entries subjectID ++ [⟨receipt, .admin id⟩] := by
      subst hsubject
      rw [← natsRequest_subjectID]
      exact entries_add_self _ _ _
    rw [hentries, auditedTrustList_append, hlist, Option.some_or]
    exact hstored.symm

section

variable (hwraps : WrapsReceipts env library clock)
  (hknown : Recorded env system) (hinv : AuditOrdered library subjectID system)
  (hrequest : system.requests id = some request)

include hwraps hknown hinv hrequest

theorem auditOrdered_added {receipt : Bytes}
    (hstage : request.locker = .sealing receipt) :
    AuditOrdered library subjectID
      (system.adminAdd id request receipt none) := by
  obtain ⟨now, hwrapped⟩ :=
    (hknown.requests id request hrequest).wrapped receipt hstage
  cases hcall : request.call with
  | registerSubject input operator =>
    rw [hcall] at hwrapped
    have hnone := sealedTrustList_register hwraps hwrapped
    refine hinv.advance hrequest rfl
      (auditedTrustList_add system.locker fun _ => hnone) rfl ?_
    simp [hcall, isModification]
  | modifyTrust subject body operator =>
    rw [hcall] at hwrapped
    have hlist := sealedTrustList_sealTrust hwraps hwrapped
    by_cases hsubject : request.call.subjectID = subjectID
    · refine auditOrdered_sealed hinv hrequest hsubject ?_ ?_
      · simp [Request.unsealed, hcall, isModification, hstage, awaitsSeal]
      · rw [hlist, hcall]
        rfl
    · refine hinv.advance hrequest rfl
        (auditedTrustList_add system.locker fun heq => ?_) rfl
        fun heq => absurd heq hsubject
      rw [natsRequest_subjectID] at heq
      exact absurd heq hsubject

theorem auditOrdered_admin {event : AdminEvent}
    (hseals : SealsSucceed env subjectID system (.admin id event))
    (htransition : AdminTransition env system id request event next) :
    AuditOrdered library subjectID next := by
  have hundisturbed := hseals id request hrequest
  cases htransition with
  | received hstage =>
    exact hinv.advance hrequest rfl rfl rfl fun _ _ => by
      rw [hstage]
      rfl
  | lost hstage =>
    exact hinv.advance hrequest rfl rfl rfl fun hsubject hmodifies =>
      absurd rfl (hundisturbed hsubject hmodifies)
  | @acquired opening locker stage hstage hlocker houtcome =>
    have hentries := entries_of_acquired hlocker subjectID
    refine hinv.advance hrequest rfl (congrArg _ hentries) rfl
      fun hsubject hmodifies => ?_
    obtain ⟨_, _, hnext, honTrack, -⟩ := onTrack_of_admin
      (.acquired hstage hlocker houtcome) hmodifies
      (hundisturbed hsubject hmodifies)
    have hmoved := congrFun (congrArg System.requests hnext) id
    simp only [System.setRequest, Function.update_self, Option.some.injEq,
      Request.mk.injEq, true_and] at hmoved
    subst hmoved
    rcases houtcome with ⟨error, herror, rfl, -⟩ | ⟨receipt, rfl, -⟩
    · simp [sealFailed, herror] at honTrack
    · rw [hstage]
      rfl
  | addFailed hstage =>
    exact hinv.advance hrequest rfl rfl rfl fun hsubject hmodifies => by
      cases hundisturbed hsubject hmodifies rfl
  | added hstage => exact auditOrdered_added hwraps hknown hinv hrequest hstage
  | indexed hstage =>
    refine hinv.advance hrequest rfl rfl rfl fun _ _ => ?_
    rw [hstage]
    cases natsRequest request.call <;> rfl
  | announced hstage =>
    exact hinv.advance hrequest rfl rfl rfl fun _ _ => by
      rw [hstage]
      rfl

end

/-! ### The gateway -/

/-- The subject's list is written while nothing is sealed about it and nothing
waits, by a registration. -/
theorem auditOrdered_registered
    (hnone : auditedTrustList library (system.locker.entries subjectID) =
      none) (hsealed : AllSealed subjectID system)
    (hlocker : next.locker = system.locker) (hrequests : next.requests =
      Function.update system.requests id (some after))
    (hcall : after.call = request.call)
    (hregistration : isModification request.call = false) :
    AuditOrdered library subjectID next := by
  apply AuditOrdered.of_allSealed
  · unfold AllSealed
    rw [hrequests]
    refine forall_update hsealed fun _ => ?_
    rw [← hcall] at hregistration
    exact unsealed_of_registration hregistration
  · left
    rw [hlocker]
    exact hnone

/-- The subject's list is written while nothing waits, by a modification that
then waits for its receipt. -/
theorem auditOrdered_modified {after : Request}
    (hsealed : AllSealed subjectID system) (hrequests : next.requests =
      Function.update system.requests id (some after))
    (hsubject : after.call.subjectID = subjectID)
    (hunsealed : after.unsealed = true)
    (hgateway : after.gateway = .requesting)
    (hlist : next.trustList subjectID = some after.call.trustedPublishers) :
    AuditOrdered library subjectID next := by
  have honly : ∀ other found, next.requests other = some found →
      found.call.subjectID = subjectID → found.unsealed = true →
        other = id ∧ found = after := by
    intro other found hfound hother hwaits
    rw [hrequests] at hfound
    rcases update_eq_some hfound with hown | ⟨-, hbefore⟩
    · exact hown
    · rw [hsealed other found hbefore hother] at hwaits
      cases hwaits
  refine ⟨?_, ?_, ?_⟩
  · intro other found hfound hother hwaits
    obtain ⟨-, rfl⟩ := honly other found hfound hother hwaits
    exact ⟨hgateway, hlist⟩
  · intro first request second found hrequest hfirst hwaits hfound hsecond
      hwaits'
    rw [(honly first request hrequest hfirst hwaits).1]
    exact (honly second found hfound hsecond hwaits').1
  · intro hall
    have hown : next.requests id = some after := by
      rw [hrequests, Function.update_self]
    rw [hall id after hown hsubject] at hunsealed
    cases hunsealed

/-- A handler that talks to the trust store and does not turn to the locker
keeps waiting for nothing. -/
theorem resembles_of_outcome (hinv : AuditOrdered library subjectID system)
    (hrequest : system.requests id = some request)
    (hsubject : request.call.subjectID = subjectID)
    {store : TrustStore (List TrustEntry)} {stage : GatewayStage}
    (houtcome : Outcome trustCodec request.call system.store request.gateway
      store stage) (hsent : stage ≠ .requesting) :
    Resembles request
      ⟨request.call, stage, lockerAfter stage request.locker⟩ := by
  simp only [lockerAfter, if_neg hsent]
  refine ⟨rfl, rfl, fun hwaits => ?_⟩
  obtain ⟨hrequesting, -⟩ := hinv.pending id request hrequest hsubject hwaits
  exact absurd hrequesting (not_waiting_of_outcome houtcome).1

/-- The reply of the locker is heard after the receipt was sealed. -/
theorem resembles_of_heard {hearing : Hearing}
    (hundisturbed : isModification request.call = true →
      Undisturbed env system id request (.gateway id (.hear hearing)))
    (hheard : heardFrom request.locker hearing = true) :
    Resembles request
      { request with gateway := request.call.hear hearing } := by
  refine ⟨rfl, rfl, fun hwaits => ?_⟩
  simp only [Request.unsealed, Bool.and_eq_true] at hwaits
  obtain ⟨hmodifies, hawaits⟩ := hwaits
  obtain ⟨error, rfl⟩ := hundisturbed hmodifies rfl
  rw [replied_of_heardFrom hheard] at hawaits
  cases hawaits

theorem resembles_of_kept {event : GatewayEvent}
    (hinv : AuditOrdered library subjectID system)
    (hrequest : system.requests id = some request)
    (hsubject : request.call.subjectID = subjectID)
    (hundisturbed : isModification request.call = true →
      Undisturbed env system id request (.gateway id event))
    (htransition : GatewayTransition env system id request event next)
    (hafter : next.requests id = some after)
    (hsent : after.gateway ≠ .requesting) : Resembles request after := by
  rcases htransition.outcome with
    ⟨store, stage, houtcome, rfl⟩ | ⟨hearing, rfl, -, hheard, rfl⟩
  · obtain rfl := eq_of_setRequest hafter
    exact resembles_of_outcome hinv hrequest hsubject houtcome hsent
  · obtain rfl := eq_of_setRequest hafter
    exact resembles_of_heard hundisturbed hheard

theorem auditOrdered_gateway {event : GatewayEvent}
    (hfirst : RegistersFirst library subjectID system)
    (hinv : AuditOrdered library subjectID system)
    (hrequest : system.requests id = some request)
    (hseals : SealsSucceed env subjectID system (.gateway id event))
    (hturns : WritesInTurn subjectID system (.gateway id event))
    (htransition : GatewayTransition env system id request event next) :
    AuditOrdered library subjectID next := by
  obtain ⟨after, hrequests, hcall, hlocker⟩ : ∃ after : Request,
      next.requests = Function.update system.requests id (some after) ∧
      after.call = request.call ∧ next.locker = system.locker := by
    cases htransition <;> exact ⟨_, rfl, rfl, rfl⟩
  have haudited : auditedTrustList library (next.locker.entries subjectID) =
      auditedTrustList library (system.locker.entries subjectID) := by
    rw [hlocker]
  by_cases hsubject : request.call.subjectID = subjectID
  swap
  · exact hinv.move hrequest (trustList_of_other htransition (Ne.symm hsubject))
      haudited hrequests hcall fun heq => absurd heq hsubject
  have hundisturbed := hseals id request hrequest hsubject
  cases gatewayWrite_of_transition htransition with
  | kept hkept hsent =>
    have hafter : next.requests id = some after := by
      rw [hrequests, Function.update_self]
    exact hinv.move hrequest (trustList_congr hkept subjectID) haudited
      hrequests hcall fun _ => resembles_of_kept hinv hrequest hsubject
        hundisturbed htransition hafter (hsent after hafter)
  | @written revision fault hstage hwrite =>
    cases hmodifies : isModification request.call with
    | false =>
      obtain ⟨hnone, hsealed⟩ :=
        hfirst id request _ hrequest hsubject hmodifies hstage
      exact auditOrdered_registered hnone hsealed rfl rfl rfl hmodifies
    | true =>
      have hok : (Trust.writeTrust trustCodec system.store fault subjectID
          request.call.trustedPublishers revision).isOk = true := by
        rw [← hsubject, hwrite]
        rfl
      have hsealed := hturns request revision hrequest hsubject hmodifies
        hstage hok
      have hturned : request.call.afterTrust = .requesting := by
        cases hcall : request.call with
        | registerSubject input operator =>
          simp [hcall, isModification] at hmodifies
        | modifyTrust subject body operator => rfl
      refine auditOrdered_modified hsealed rfl hsubject ?_ hturned ?_
      · simp [Request.unsealed, hmodifies, hturned, lockerAfter, awaitsSeal]
      · rw [← hsubject]
        exact storedTrustList_trustWritten_self
  | unanswered hstage =>
    cases hmodifies : isModification request.call with
    | false =>
      obtain ⟨hnone, hsealed⟩ :=
        hfirst id request _ hrequest hsubject hmodifies hstage
      exact auditOrdered_registered hnone hsealed rfl rfl rfl hmodifies
    | true => exact absurd hstage (hundisturbed hmodifies rfl _)

/-! ### Other steps -/

theorem auditOrdered_call {call : AdminCall}
    (hinv : AuditOrdered library subjectID system)
    (hstep : callStep env system id call = some next) :
    AuditOrdered library subjectID next := by
  obtain ⟨hfresh, rfl⟩ := callStep_eq_some hstep
  have hidle : (⟨call, call.begin env.validators,
      lockerAfter (call.begin env.validators) .unsent⟩ :
        Request).unsealed = false := by
    cases call with
    | registerSubject input operator => exact unsealed_of_registration rfl
    | modifyTrust subject body operator =>
      simp only [Request.unsealed, AdminCall.begin]
      cases validateSubjectID subject <;> rfl
  refine hinv.frame rfl rfl ?_ ?_
  · intro other found hfound _ hwaits
    rcases update_eq_some hfound with ⟨rfl, rfl⟩ | ⟨-, hbefore⟩
    · rw [hidle] at hwaits
      cases hwaits
    · exact ⟨found, hbefore, .refl found⟩
  · intro other before hbefore _
    refine ⟨before, ?_, .refl before⟩
    have hne : other ≠ id := by
      rintro rfl
      rw [hfresh] at hbefore
      cases hbefore
    change Function.update system.requests id (some _) other = some before
    rwa [Function.update_of_ne hne]

theorem auditOrdered_restart {opening : SubjectID → Opening}
    (hinv : AuditOrdered library subjectID system)
    (hseals : SealsSucceed env subjectID system (.restart opening)) :
    AuditOrdered library subjectID (restartStep env system opening) := by
  have hsame : ∀ id before, system.requests id = some before →
      before.call.subjectID = subjectID →
        Resembles before { before with locker := before.locker.crash } := by
    intro id before hbefore hsubject
    refine ⟨rfl, ?_, fun _ => rfl⟩
    cases hmodifies : isModification before.call with
    | false => simp [Request.unsealed, hmodifies]
    | true =>
      have hkept : before.locker.crash = before.locker :=
        hseals id before hbefore hsubject hmodifies
      rw [hkept]
  refine hinv.frame rfl rfl ?_ ?_
  · intro id after hafter hsubject _
    obtain ⟨before, hbefore, rfl⟩ := Option.map_eq_some_iff.mp hafter
    exact ⟨before, hbefore, hsame id before hbefore hsubject⟩
  · intro id before hbefore hsubject
    refine ⟨{ before with locker := before.locker.crash }, ?_,
      hsame id before hbefore hsubject⟩
    simp [restartStep, hbefore]

theorem auditOrdered_step (hwraps : WrapsReceipts env library clock)
    (hknown : Recorded env system)
    (hfirst : RegistersFirst library subjectID system)
    (hinv : AuditOrdered library subjectID system)
    (hguard : AuditedInTurn env library subjectID system action)
    (hstep : step env system action = some next) :
    AuditOrdered library subjectID next := by
  cases step_cases hstep with
  | worker htransition =>
    exact auditOrdered_worker hinv hguard.genuine htransition
  | called => exact auditOrdered_call hinv hstep
  | gateway hrequest htransition =>
    exact auditOrdered_gateway hfirst hinv hrequest hguard.seals
      hguard.turns htransition
  | admin hrequest htransition =>
    exact auditOrdered_admin hwraps hknown hinv hrequest hguard.seals
      htransition
  | restarted => exact auditOrdered_restart hinv hguard.seals
  | _ => exact hinv.same rfl rfl rfl

end Step

/-! ## The audit follows the stored list -/

/-- The calls for the subject are trust modifications. -/
def OnlyModifies (subjectID : SubjectID) : Action → Prop
  | .call _ call => call.subjectID = subjectID → isModification call = true
  | _ => True

/-- Undisturbed trust modifications of the subject, in any order. -/
structure Modifies (env : Environment) (library : Library)
    (subjectID : SubjectID) (system : System) (action : Action) : Prop where
  genuine : SealsNoForgery library subjectID system action
  seals : SealsSucceed env subjectID system action
  only : OnlyModifies subjectID action

/-- All requests for the subject have returned. -/
def AllReturned (subjectID : SubjectID) (system : System) : Prop :=
  ∀ id request, system.requests id = some request →
    request.call.subjectID = subjectID →
      ∃ response, request.gateway = .responded response

/-- Nothing is under way for the subject, and what is sealed about its list, if
anything, is the stored list. -/
structure Settled (library : Library) (subjectID : SubjectID)
    (system : System) : Prop where
  returned : AllReturned subjectID system
  allSealed : AllSealed subjectID system
  agreed : auditedTrustList library (system.locker.entries subjectID) = none ∨
    auditedTrustList library (system.locker.entries subjectID) =
      system.trustList subjectID

section Runs

variable {env : Environment} {library : Library} {clock : ℕ → String}
  {subjectID : SubjectID} {start : System}

/-- Every registration of the subject has returned. -/
def RegistrationsReturned (subjectID : SubjectID) (system : System) : Prop :=
  ∀ id request, system.requests id = some request →
    request.call.subjectID = subjectID →
      isModification request.call = false →
        ∃ response, request.gateway = .responded response

theorem registrationsReturned_of_reaches {guard : System → Action → Prop}
    (hreach : Reaches (step env) guard start system)
    (honly : ∀ before action, guard before action →
      OnlyModifies subjectID action)
    (hstart : RegistrationsReturned subjectID start) :
    RegistrationsReturned subjectID system := by
  refine hreach.invariant hstart fun before action next hinv hguard hnext => ?_
  intro id request hrequest hsubject hregistration
  rcases request_of_step hnext hrequest with
    ⟨-, rfl⟩ | ⟨earlier, hearlier, hdescends⟩
  · rw [honly _ _ hguard hsubject] at hregistration
    cases hregistration
  · rw [hdescends.call] at hsubject hregistration
    obtain ⟨response, hresponse⟩ :=
      hinv id earlier hearlier hsubject hregistration
    exact ⟨response, hdescends.responded response hresponse⟩

theorem registersFirst_of_returned
    (hreturned : RegistrationsReturned subjectID system) :
    RegistersFirst library subjectID system := by
  intro id request revision hrequest hsubject hregistration hstage
  obtain ⟨response, hresponse⟩ :=
    hreturned id request hrequest hsubject hregistration
  rw [hstage] at hresponse
  cases hresponse

theorem auditOrdered_of_reaches (hwraps : WrapsReceipts env library clock)
    (hstart : Reaches (step env) anyStep initial start)
    (hsettled : Settled library subjectID start)
    (hreach : Reaches (step env) (fun before action =>
      AuditedInTurn env library subjectID before action ∧
        OnlyModifies subjectID action) start system) :
    AuditOrdered library subjectID system := by
  have hknown : ∀ reached, Reaches (step env) (fun before action =>
      AuditedInTurn env library subjectID before action ∧
        OnlyModifies subjectID action) start reached →
      Recorded env reached ∧ RegistersFirst library subjectID reached := by
    intro reached hpath
    constructor
    · exact recorded_of_reaches
        (hstart.trans (hpath.mono fun _ _ _ => trivial))
    · exact registersFirst_of_returned (registrationsReturned_of_reaches hpath
        (fun _ _ hguard => hguard.2)
        fun id request hrequest hsubject _ =>
          hsettled.returned id request hrequest hsubject)
  refine hreach.invariant_with hknown
    (.of_allSealed hsettled.allSealed hsettled.agreed) ?_
  intro before action next hbase hinv hguard hnext
  exact auditOrdered_step hwraps hbase.1 hbase.2 hinv hguard.1 hnext

theorem AuditOrdered.allSealed (hinv : AuditOrdered library subjectID system)
    (hreturned : AllReturned subjectID system) :
    AllSealed subjectID system := by
  intro id request hrequest hsubject
  rw [← Bool.not_eq_true]
  intro hwaits
  obtain ⟨hrequesting, -⟩ := hinv.pending id request hrequest hsubject hwaits
  obtain ⟨response, hresponse⟩ := hreturned id request hrequest hsubject
  rw [hrequesting] at hresponse
  cases hresponse

/-- From a state in which nothing is under way for the subject, in every run
in which its trust modifications are undisturbed and no list is written while
another one waits for its receipt: once all of them have returned, the list in
the last trust modification receipt of the ledger is the stored one. -/
theorem last_receipt_shows_stored_list
    (hwraps : WrapsReceipts env library clock)
    (hstart : Reaches (step env) anyStep initial start)
    (hsettled : Settled library subjectID start)
    (hreach : Reaches (step env) (fun before action =>
      AuditedInTurn env library subjectID before action ∧
        OnlyModifies subjectID action) start system)
    (hreturned : AllReturned subjectID system) {list : List TrustEntry}
    (hlast : auditedTrustList library (system.locker.entries subjectID) =
      some list) :
    system.trustList subjectID = some list := by
  have hordered := auditOrdered_of_reaches hwraps hstart hsettled hreach
  rcases hordered.agreed (hordered.allSealed hreturned) with hnone | hagreed
  · rw [hnone] at hlast
    cases hlast
  · rw [← hagreed, hlast]

end Runs

/-! ## Concrete runs -/

section Concrete

variable {env : Environment} {library : Library} {clock : ℕ → String}
  {subjectID : SubjectID}

/-- If a modification has sealed the last entry, its list is the audited one. -/
theorem auditedTrustList_of_sealers (hwraps : WrapsReceipts env library clock)
    (hrecorded : Recorded env system) {body : Option ModifyBody}
    {operator : PublisherIdentity} {gateway : GatewayStage}
    {locker : AdminStage} {earlier : List Sealer}
    (hrequest : system.requests id = some
      ⟨.modifyTrust subjectID body operator, gateway, locker⟩)
    (hsealers : (system.locker.entries subjectID).map Entry.sealer =
      earlier ++ [.admin id]) :
    auditedTrustList library (system.locker.entries subjectID) =
      some ((requestedList body).getD []) := by
  obtain ⟨entries, last, hentries, -, hlast⟩ :=
    List.map_eq_append_iff.mp hsealers
  obtain ⟨entry, rfl, hsealer⟩ := List.map_eq_singleton_iff.mp hlast
  have hmem : entry ∈ system.locker.entries subjectID := by
    rw [hentries]
    simp
  obtain ⟨request, hfound, -, -, now, hwrapped⟩ :=
    hrecorded.entries subjectID entry hmem id hsealer
  obtain rfl := Option.mem_unique hrequest hfound
  rw [hentries, auditedTrustList_append,
    sealedTrustList_sealTrust hwraps hwrapped]
  rfl

/-- A ledger with the receipt of a registration only says nothing. -/
theorem auditedTrustList_of_registered
    (hwraps : WrapsReceipts env library clock)
    (hrecorded : Recorded env system)
    (hrequest : system.requests id = some request)
    (hregistration : isModification request.call = false)
    (hsealers : (system.locker.entries subjectID).map Entry.sealer =
      [.admin id]) :
    auditedTrustList library (system.locker.entries subjectID) = none := by
  obtain ⟨entry, hentries, hsealer⟩ := List.map_eq_singleton_iff.mp hsealers
  have hmem : entry ∈ system.locker.entries subjectID := by
    rw [hentries]
    simp
  obtain ⟨found, hfound, -, -, now, hwrapped⟩ :=
    hrecorded.entries subjectID entry hmem id hsealer
  obtain rfl := Option.mem_unique hrequest hfound
  cases hcall : request.call with
  | modifyTrust subject body operator =>
    simp [hcall, isModification] at hregistration
  | registerSubject input operator =>
    rw [hcall] at hwrapped
    have hnone := sealedTrustList_register hwraps hwrapped
    rw [hentries]
    simp [auditedTrustList, hnone]

end Concrete

variable {subjectID : SubjectID} {check : System → Action → Bool}

theorem allReturned_of_check {bound : ℕ} (hbelow : RequestsBelow bound system)
    (hevery : everyRequest bound (fun request =>
      (statusOf request.gateway).isSome) system = true) :
    AllReturned subjectID system := by
  intro id request hrequest _
  have hstatus := of_everyRequest hbelow hevery hrequest
  cases hgateway : request.gateway with
  | responded response => exact ⟨response, rfl⟩
  | _ => simp [hgateway, statusOf] at hstatus

theorem allSealed_of_check {bound : ℕ} (hbelow : RequestsBelow bound system)
    (hevery : everyRequest bound (fun request => !request.unsealed) system =
      true) : AllSealed subjectID system := by
  intro id request hrequest _
  simpa using of_everyRequest hbelow hevery hrequest

/-- A call uses a number below the bound. -/
def numberedBelow (bound : ℕ) : Action → Bool
  | .call id _ => decide (id < bound)
  | _ => true

theorem settled_of_sampleRegistration {start : System}
    (hrun : run (step deployment) initial sampleRegistration = some start) :
    RequestsBelow 3 start ∧ Settled plainLibrary "alpha" start := by
  have hbelow : RequestsBelow 3 start := by
    have hreach : Reaches (step deployment)
        (fun _ action => numberedBelow 3 action = true) initial start :=
      reaches_of_run_all (fun _ => by decide) hrun
    exact requestsBelow_of_reaches hreach
      (fun _ id call hnumber => by simpa [numberedBelow] using hnumber)
      fun _ _ => rfl
  have hobserved : ((run (step deployment) initial sampleRegistration).map
      fun system => (everyRequest 3 (fun request =>
          (statusOf request.gateway).isSome) system,
        everyRequest 3 (fun request => !request.unsealed) system,
        (system.requests 0).map Request.call,
        (system.locker.entries "alpha").map Entry.sealer)) =
      some (true, true, some sampleCall, [.admin 0]) := by
    rw [deployment_eq]
    decide +kernel
  rw [hrun, Option.map_some, Option.some.injEq] at hobserved
  simp only [Prod.mk.injEq] at hobserved
  obtain ⟨hreturned, hsealed, hcall, hsealers⟩ := hobserved
  obtain ⟨request, hrequest, hcall⟩ := Option.map_eq_some_iff.mp hcall
  have hregistration : isModification request.call = false := by
    rw [hcall]
    rfl
  refine ⟨hbelow, allReturned_of_check hbelow hreturned,
    allSealed_of_check hbelow hsealed, .inl ?_⟩
  exact auditedTrustList_of_registered wrapsReceipts_deployment
    (recorded_of_reaches (reaches_of_run hrun)) hrequest hregistration
    hsealers

/-- Undisturbed modifications, the first three of them. -/
def modifiesCheck (system : System) (action : Action) : Bool :=
  undisturbedCheck deployment system action && numberedBelow 3 action &&
    match action with
    | .call _ call => isModification call
    | _ => true

/-- Nothing waits for a receipt when the gateway turns to the trust store. -/
def inTurnCheck (system : System) (action : Action) : Bool :=
  modifiesCheck system action &&
    match action with
    | .gateway _ (.advance _) =>
      everyRequest 3 (fun request => !request.unsealed) system
    | _ => true

theorem modifies_of_check (hcheck : modifiesCheck system action = true) :
    Modifies deployment plainLibrary "alpha" system action := by
  simp only [modifiesCheck, Bool.and_eq_true] at hcheck
  obtain ⟨⟨hundisturbed, -⟩, hcalls⟩ := hcheck
  refine ⟨?_, ?_, ?_⟩
  · cases action with
    | worker event => cases hundisturbed
    | _ => trivial
  · intro id request hrequest _ hmodifies
    exact undisturbed_of_check hundisturbed id request hrequest hmodifies
  · cases action with
    | call id call => exact fun _ => hcalls
    | _ => trivial

theorem requestsBelow_of_modifiesCheck {start system : System}
    (hcheck : ∀ before action, check before action = true →
      modifiesCheck before action = true) (hreach : Reaches (step deployment)
      (fun before action => check before action = true) start system)
    (hstart : RequestsBelow 3 start) : RequestsBelow 3 system := by
  refine requestsBelow_of_reaches hreach (fun before id call hpassed => ?_)
    hstart
  have hmodifies := hcheck _ _ hpassed
  simp only [modifiesCheck, Bool.and_eq_true] at hmodifies
  simpa [numberedBelow] using hmodifies.1.2

theorem writesInTurn_of_check (hbelow : RequestsBelow 3 system)
    (hcheck : inTurnCheck system action = true) :
    WritesInTurn "alpha" system action := by
  simp only [inTurnCheck, Bool.and_eq_true] at hcheck
  cases action with
  | gateway id event =>
    cases event with
    | advance fault =>
      intro request revision _ _ _ _ _
      exact allSealed_of_check hbelow hcheck.2
    | _ => trivial
  | _ => trivial

/-- What a run of checked modifications after the sample registration leaves
behind, with the `id`-th request sealed last. -/
theorem modified_of_observed (actions : List Action) (id : ℕ)
    (list stored : List TrustEntry) (sealers : List Sealer)
    (hcheck : ∀ before action, check before action = true →
      modifiesCheck before action = true)
    (hobserved : (((run (step deployment) initial sampleRegistration).bind
      fun start => run (checked (step deployment) check) start actions).map
        fun system => (everyRequest 3 (fun request =>
            (statusOf request.gateway).isSome) system,
          (system.requests id).map Request.observed,
          system.trustList "alpha",
          (system.locker.entries "alpha").map Entry.sealer)) =
      some (true, some ⟨sampleModification list, some 200, .replied ""⟩,
        some stored, sealers ++ [.admin id])) :
    ∃ start system, Reaches (step deployment) anyStep initial start ∧
      RequestsBelow 3 start ∧ Settled plainLibrary "alpha" start ∧
      Reaches (step deployment)
        (fun before action => check before action = true) start system ∧
      AllReturned "alpha" system ∧
      auditedTrustList plainLibrary (system.locker.entries "alpha") =
        some list ∧
      system.trustList "alpha" = some stored := by
  obtain ⟨system, hruns, hvalues⟩ := Option.map_eq_some_iff.mp hobserved
  obtain ⟨start, hfirst, hsecond⟩ := Option.bind_eq_some_iff.mp hruns
  obtain ⟨hbelow, hsettled⟩ := settled_of_sampleRegistration hfirst
  simp only [Prod.mk.injEq] at hvalues
  obtain ⟨hreturned, hmodification, hlist, hsealers⟩ := hvalues
  obtain ⟨response, -, hrequest⟩ := exists_response_of_observed hmodification
  have hchecked : Reaches (step deployment)
      (fun before action => check before action = true) start system :=
    Reaches.run_checked .refl (fun _ _ _ hpassed => hpassed) hsecond
  have hstart := reaches_of_run hfirst
  have hwhole := hstart.trans (hchecked.mono fun _ _ _ => trivial)
  exact ⟨start, system, hstart, hbelow, hsettled, hchecked,
    allReturned_of_check
      (requestsBelow_of_modifiesCheck hcheck hchecked hbelow) hreturned,
    auditedTrustList_of_sealers wrapsReceipts_deployment
      (recorded_of_reaches hwhole) hrequest hsealers, hlist⟩

/-- Two modifications, one after the other. -/
theorem deployed_modifications_in_turn :
    ∃ start system, Reaches (step deployment) anyStep initial start ∧
      Settled plainLibrary "alpha" start ∧
      Reaches (step deployment) (fun before action =>
        AuditedInTurn deployment plainLibrary "alpha" before action ∧
          OnlyModifies "alpha" action) start system ∧
      AllReturned "alpha" system ∧
      auditedTrustList plainLibrary (system.locker.entries "alpha") =
        some [workload "tester"] ∧
      system.trustList "alpha" = some [workload "tester"] := by
  have hmodifies : ∀ before action, inTurnCheck before action = true →
      modifiesCheck before action = true := by
    intro before action hpassed
    simp only [inTurnCheck, Bool.and_eq_true] at hpassed
    exact hpassed.1
  obtain ⟨start, system, hstart, hbelow, hsettled, hchecked, hall, hlast, -⟩ :=
    modified_of_observed (sampleTrustWrite 1 [workload "builder"] ++
        sampleTrustSeal 1 ++ sampleTrustWrite 2 [workload "tester"] ++
        sampleTrustSeal 2) 2 [workload "tester"] [workload "tester"]
      [.admin 0, .admin 1] hmodifies (by
        unfold inTurnCheck modifiesCheck
        rw [deployment_eq]
        decide +kernel)
  have hreach : Reaches (step deployment) (fun before action =>
      AuditedInTurn deployment plainLibrary "alpha" before action ∧
        OnlyModifies "alpha" action) start system := by
    refine hchecked.mono_with (fun reached hpath =>
      requestsBelow_of_modifiesCheck hmodifies hpath hbelow) ?_
    intro before action hbounded hpassed
    obtain ⟨hgenuine, hseals, honly⟩ :=
      modifies_of_check (hmodifies before action hpassed)
    exact ⟨⟨hgenuine, hseals, writesInTurn_of_check hbounded hpassed⟩, honly⟩
  exact ⟨start, system, hstart, hsettled, hreach, hall, hlast,
    last_receipt_shows_stored_list wrapsReceipts_deployment hstart hsettled
      hreach hall hlast⟩

/-- Both modifications write their lists, and the first one is sealed last:
the ledger ends with a list that was overwritten before. -/
theorem deployed_modifications_out_of_turn :
    ∃ start system, Reaches (step deployment) anyStep initial start ∧
      Settled plainLibrary "alpha" start ∧
      Reaches (step deployment)
        (Modifies deployment plainLibrary "alpha") start system ∧
      AllReturned "alpha" system ∧
      auditedTrustList plainLibrary (system.locker.entries "alpha") =
        some [workload "builder"] ∧
      system.trustList "alpha" = some [workload "tester"] := by
  obtain ⟨start, system, hstart, -, hsettled, hchecked, hall, hlast, hlist⟩ :=
    modified_of_observed (sampleTrustWrite 1 [workload "builder"] ++
        sampleTrustWrite 2 [workload "tester"] ++ sampleTrustSeal 2 ++
        sampleTrustSeal 1) 1 [workload "builder"] [workload "tester"]
      [.admin 0, .admin 2] (fun _ _ hpassed => hpassed) (by
        unfold modifiesCheck
        rw [deployment_eq]
        decide +kernel)
  exact ⟨start, system, hstart, hsettled,
    hchecked.mono fun _ _ hpassed => modifies_of_check hpassed, hall, hlast,
    hlist⟩

end ComplyTime.Pipeline
