import ComplyTime.Pipeline.AuditOrder
import ComplyTime.Pipeline.Provenance
import ComplyTime.Pipeline.SingleRegistration

/-!
# Rebuilding a trust list from the ledger

The trust list of a subject is kept in a bucket, the receipts of its changes in
the ledger.  A registration seals no list, so two runs may end with the same
ledger and different lists.  Once a trust modification is sealed, and if lists
are written in turn, the last such receipt shows the stored list, so that equal
ledgers have equal lists.
-/

namespace ComplyTime.Pipeline

open TransitionSystem WorkQueue Subjects Ledgers Worker AdminSubscriber
open GatewayAdmin Trust Receipt KeyValue

/-- A step of a registration or a trust modification in which nothing fails:
every request to a store or to the locker is served and answered, ledgers open,
receipts are wrapped and appended. -/
def FailureFree (env : Environment) (system : System) : Action → Prop
  | .call _ _ => True
  | .gateway _ (.advance fault) => fault = none
  | .gateway _ (.hear (.reply _)) => True
  | .admin _ .receive => True
  | .admin id (.acquire opening) => (∃ fetched, opening = .opened fetched) ∧
      ∀ request, system.requests id = some request →
        ∃ receipt, Wrapped env system.now (natsRequest request.call) receipt
  | .admin _ (.add fault) => fault = none
  | .admin _ .index => True
  | .admin _ .announce => True
  | .tick _ => True
  | _ => False

/-! ## Registration before modification -/

/-- The handler has written the registry, or has stopped. -/
def pastRegistry : GatewayStage → Bool
  | .storingJWK => true
  | .responded _ => true
  | _ => false

section Outcome

variable {call : AdminCall} {store later : TrustStore (List TrustEntry)}
  {stage after : GatewayStage} {subjectID : SubjectID}

theorem pastRegistry_of_outcome
    (houtcome : Outcome trustCodec call store stage later after)
    (hpast : pastRegistry stage = true) : pastRegistry after = true := by
  cases houtcome with
  | refused _ _ => rfl
  | keyStored _ _ => rfl
  | _ => cases hpast

theorem pastRegistry_of_registering
    (houtcome : Outcome trustCodec call store .registering later after) :
    pastRegistry after = true := by
  generalize hstage : GatewayStage.registering = before at houtcome
  cases houtcome with
  | refused _ _ => rfl
  | @registered body _ _ _ hafter =>
    rcases hafter with rfl | ⟨response, -, rfl⟩
    · unfold afterRegistration
      split <;> rfl
    · rfl
  | _ => cases hstage

theorem registered_after_outcome
    (houtcome : Outcome trustCodec call store stage later after)
    (hregistered : Registered store subjectID) :
    Registered later subjectID := by
  cases houtcome with
  | @registered body _ _ _ _ =>
    unfold Registered at hregistered ⊢
    by_cases heq : subjectID = body.subjectID
    · subst heq
      simp
    · rwa [entries_write_of_ne _ _ heq]
  | _ => exact hregistered

end Outcome

variable {id : ℕ} {request : Request} {call : AdminCall}

section Step

variable {env : Environment} {system next : System} {action : Action}
  {subjectID : SubjectID} {created : List ℕ}

section

variable (hstep : step env system action = some next)

include hstep

theorem registered_of_step (hregistered : Registered system.store subjectID) :
    Registered next.store subjectID := by
  by_cases hgateway : ∃ id event, action = .gateway id event
  · obtain ⟨id, event, rfl⟩ := hgateway
    obtain ⟨request, -, htransition⟩ := gatewayStep_cases hstep
    rcases htransition.outcome with
      ⟨store, stage, houtcome, rfl⟩ | ⟨hearing, -, -, -, rfl⟩
    · exact registered_after_outcome houtcome hregistered
    · exact hregistered
  · rw [store_of_step hstep fun id event heq => hgateway ⟨id, event, heq⟩]
    exact hregistered

/-- A subject enters the registry by the step of a registration. -/
theorem registered_before_step (hregistered : Registered next.store subjectID) :
    Registered system.store subjectID ∨
      ∃ id request after, system.requests id = some request ∧
        request.call.subjectID = subjectID ∧
        isModification request.call = false ∧
        request.gateway = .registering ∧
        next.requests id = some after ∧ pastRegistry after.gateway = true := by
  by_cases hgateway : ∃ id event, action = .gateway id event
  · obtain ⟨id, event, rfl⟩ := hgateway
    obtain ⟨request, hrequest, htransition⟩ := gatewayStep_cases hstep
    rcases htransition.outcome with
      ⟨store, stage, houtcome, rfl⟩ | ⟨hearing, -, -, -, rfl⟩
    · rcases registered_before_outcome houtcome hregistered with
        hbefore | ⟨hregistering, hsubject, body, operator, hcall⟩
      · exact .inl hbefore
      · rw [hregistering] at houtcome
        refine .inr ⟨id, request, _, hrequest, hsubject.symm, ?_, hregistering,
          requests_setRequest_self _ _ _,
          pastRegistry_of_registering houtcome⟩
        rw [hcall]
        rfl
    · exact .inl hregistered
  · left
    rwa [store_of_step hstep fun id event heq => hgateway ⟨id, event, heq⟩]
      at hregistered

theorem pastRegistry_of_step {before : Request}
    (hbefore : system.requests id = some before)
    (hpast : pastRegistry before.gateway = true) :
    ∃ after, next.requests id = some after ∧
      pastRegistry after.gateway = true := by
  cases requestStep_of_step hstep id with
  | untouched hsame => exact ⟨before, hsame.trans hbefore, hpast⟩
  | called hfresh _ =>
    rw [hfresh] at hbefore
    cases hbefore
  | gateway hrequest htransition =>
    obtain rfl := Option.mem_unique hbefore hrequest
    rcases htransition.outcome with
      ⟨store, stage, houtcome, rfl⟩ | ⟨hearing, -, hstage, -, rfl⟩
    · exact ⟨_, requests_setRequest_self _ _ _,
        pastRegistry_of_outcome houtcome hpast⟩
    · rw [hstage] at hpast
      cases hpast
  | admin hrequest htransition =>
    obtain rfl := Option.mem_unique hbefore hrequest
    obtain ⟨locker, stage, rfl⟩ := htransition.frame
    exact ⟨_, requests_setRequest_self _ _ _, hpast⟩
  | restarted hnext =>
    rw [hbefore, Option.map_some] at hnext
    exact ⟨_, hnext, hpast⟩

end

/-- A trust modification that is past the check of its subject. -/
def Request.modifying (request : Request) : Bool :=
  request.gateway.pastLocker || decide (request.locker ≠ .unsent)

theorem modifying_of_sent (hsent : request.locker ≠ .unsent) :
    request.modifying = true := by
  simp [Request.modifying, hsent]

theorem not_modifying_begin (hmodifies : isModification call = true) :
    (⟨call, call.begin env.validators,
      lockerAfter (call.begin env.validators) .unsent⟩ : Request).modifying =
        false := by
  rcases begin_cases env.validators call with ⟨refusal, -, hbegin⟩ |
    ⟨_, _, rfl, _, -⟩ | ⟨_, _, _, _, _, hbegin⟩
  · simp [hbegin, Request.modifying, lockerAfter, GatewayStage.pastLocker]
  · cases hmodifies
  · simp [hbegin, Request.modifying, lockerAfter, GatewayStage.pastLocker]

theorem modifying_of_outcome {store later : TrustStore (List TrustEntry)}
    {stage after : GatewayStage} {locker : AdminStage}
    (houtcome : Outcome trustCodec call store stage later after)
    (hmodifying : (⟨call, after, lockerAfter after locker⟩ :
      Request).modifying = true) :
    Registered store call.subjectID ∨
      (⟨call, stage, locker⟩ : Request).modifying = true := by
  by_cases hgoes : after.pastLocker = true ∨ after = .requesting
  · rcases started_of_outcome houtcome hgoes with hpast | hregistered
    · simp [Request.modifying, hpast]
    · exact .inl hregistered
  · obtain ⟨hpast, hsent⟩ := not_or.mp hgoes
    right
    simp only [Request.modifying, lockerAfter, if_neg hsent, hpast,
      Bool.false_or] at hmodifying
    simp [Request.modifying, hmodifying]

/-- A trust modification gets past the check of a registered subject only. -/
theorem modifying_of_step {after : Request}
    (hstep : step env system action = some next)
    (hafter : next.requests id = some after)
    (hmodifies : isModification after.call = true)
    (hmodifying : after.modifying = true) :
    Registered system.store after.call.subjectID ∨
      ∃ before, system.requests id = some before ∧
        before.call = after.call ∧ before.modifying = true := by
  cases requestStep_of_step hstep id with
  | untouched hsame =>
    exact .inr ⟨after, hsame.symm.trans hafter, rfl, hmodifying⟩
  | called _ hnext =>
    obtain rfl := Option.mem_unique hafter hnext
    rw [not_modifying_begin hmodifies] at hmodifying
    cases hmodifying
  | @gateway event request hrequest htransition =>
    rcases htransition.outcome with
      ⟨store, stage, houtcome, rfl⟩ | ⟨hearing, -, hstage, -, rfl⟩
    · obtain rfl := eq_of_setRequest hafter
      exact (modifying_of_outcome houtcome hmodifying).imp_right
        fun hbefore => ⟨request, hrequest, rfl, hbefore⟩
    · obtain rfl := eq_of_setRequest hafter
      refine .inr ⟨request, hrequest, rfl, ?_⟩
      cases hcall : request.call with
      | registerSubject input operator =>
        simp [hcall, isModification] at hmodifies
      | modifyTrust subject body operator =>
        simpa [Request.modifying, hcall, AdminCall.hear, hstage,
          GatewayStage.pastLocker] using hmodifying
  | @admin event request hrequest htransition =>
    have hsent := htransition.sent
    obtain ⟨locker, stage, rfl⟩ := htransition.frame
    obtain rfl := eq_of_setRequest hafter
    exact .inr ⟨request, hrequest, rfl, modifying_of_sent hsent⟩
  | restarted hnext =>
    rw [hafter] at hnext
    obtain ⟨before, hbefore, rfl⟩ := Option.map_eq_some_iff.mp hnext.symm
    refine .inr ⟨before, hbefore, rfl, ?_⟩
    cases hstage : before.locker <;>
      simp_all [Request.modifying, AdminStage.crash]

end Step

/-! ## The invariant of runs without failures -/

/-- The subject is in the registry only if the registration that created the
ledger is past it, a modification is past the check of its subject only if the
subject is in the registry, and nothing else is sealed. -/
structure Sequenced (subjectID : SubjectID) (recorded : System × List ℕ) :
    Prop where
  claimed : Claimed initial subjectID recorded
  registered : Registered recorded.1.store subjectID →
    ∃ id request, recorded.2 = [id] ∧
      recorded.1.requests id = some request ∧
      pastRegistry request.gateway = true
  modifying : ∀ id request, recorded.1.requests id = some request →
    request.call.subjectID = subjectID →
      isModification request.call = true → request.modifying = true →
        Registered recorded.1.store subjectID
  admins : ∀ entry ∈ recorded.1.locker.entries subjectID, entry.sealer ≠ .worker

section Sequence

variable {env : Environment} {library : Library} {clock : ℕ → String}
  {system next : System} {action : Action} {subjectID : SubjectID}
  {created : List ℕ}

theorem sequenced_step (hinv : Sequenced subjectID (system, created))
    (hguard : FailureFree env system action)
    (hstep : step env system action = some next) :
    Sequenced subjectID
      (next, created ++ creations subjectID system action next) := by
  have hrestart : ∀ opening, action ≠ .restart opening := by
    rintro opening rfl
    exact hguard
  refine ⟨claimed_step hinv.claimed hrestart hstep, ?_, ?_, ?_⟩
  · intro hregistered
    rcases registered_before_step hstep hregistered with hbefore |
      ⟨id, request, after, hrequest, hsubject, hregistration, hstage, hafter,
        hpast⟩
    · obtain ⟨id, request, hcreated, hrequest, hpast⟩ :=
        hinv.registered hbefore
      obtain ⟨after, hafter, hstill⟩ :=
        pastRegistry_of_step hstep hrequest hpast
      exact ⟨id, after, created_kept hinv.claimed hcreated, hafter, hstill⟩
    · have hholds : request.holds = true := by
        simp [Request.holds, hstage, GatewayStage.pastLocker]
      have hcreated := hinv.claimed.holder id request hrequest hsubject
        hregistration rfl hholds
      exact ⟨id, after, created_kept hinv.claimed hcreated, hafter, hpast⟩
  · intro id after hafter hsubject hmodifies hmodifying
    apply registered_of_step hstep
    rcases modifying_of_step hstep hafter hmodifies hmodifying with
      hregistered | ⟨before, hbefore, hcall, hearlier⟩
    · rwa [hsubject] at hregistered
    · rw [← hcall] at hsubject hmodifies
      exact hinv.modifying id before hbefore hsubject hmodifies hearlier
  · intro entry hentry
    have hlog := logStep_of_step hstep subjectID
    generalize next.locker.entries subjectID = entries at hlog hentry
    cases hlog with
    | kept => exact hinv.admins entry hentry
    | workerSealed haction _ _ =>
      subst haction
      exact hguard.elim
    | adminSealed _ _ _ _ =>
      rcases List.mem_append.mp hentry with hmem | hnew
      · exact hinv.admins entry hmem
      · obtain rfl := List.mem_singleton.mp hnew
        simp

theorem sequenced_of_reaches {recorded : System × List ℕ}
    (hreach : Reaches (recording (step env) (creations subjectID))
      (fun before action => FailureFree env before.1 action) (initial, [])
      recorded) : Sequenced subjectID recorded := by
  have hfirst : Sequenced subjectID (initial, []) := by
    refine ⟨⟨.inl ⟨rfl, rfl⟩, ?_, ?_⟩, ?_, ?_, ?_⟩
    · intro id request hrequest
      cases hrequest
    · intro id hearlier
      cases hearlier
    · intro hregistered
      cases hregistered
    · intro id request hrequest
      cases hrequest
    · intro entry hentry
      cases hentry
  refine hreach.invariant hfirst fun before action after hinv hguard hstep => ?_
  obtain ⟨hnext, hcreated⟩ := recording_eq_some hstep
  have hsequenced := sequenced_step hinv hguard hnext
  rw [← hcreated] at hsequenced
  exact hsequenced

/-- A receipt of a trust modification is sealed only for a registered
subject. -/
theorem registered_of_audited (hwraps : WrapsReceipts env library clock)
    (hrecorded : Recorded env system)
    (hinv : Sequenced subjectID (system, created)) {list : List TrustEntry}
    (haudited : auditedTrustList library (system.locker.entries subjectID) =
      some list) : Registered system.store subjectID := by
  obtain ⟨entry, hentry, hlist⟩ :=
    List.mem_filterMap.mp (List.mem_of_getLast? haudited)
  cases hsealer : entry.sealer with
  | worker => exact absurd hsealer (hinv.admins entry hentry)
  | admin id =>
    obtain ⟨request, hrequest, hsubject, hmay, now, hwrapped⟩ :=
      hrecorded.entries subjectID entry hentry id hsealer
    cases hcall : request.call with
    | registerSubject input operator =>
      rw [hcall] at hwrapped
      rw [sealedTrustList_register hwraps hwrapped] at hlist
      cases hlist
    | modifyTrust subject body operator =>
      refine hinv.modifying id request hrequest hsubject
        (by rw [hcall]; rfl) ?_
      apply modifying_of_sent
      intro hunsent
      rw [hunsent] at hmay
      cases hmay

/-- While a registration is at its write, the subject is not registered. -/
theorem not_registered_of_writing
    (hinv : Sequenced subjectID (system, created)) {revision : Option ℕ}
    (hrequest : system.requests id = some request)
    (hsubject : request.call.subjectID = subjectID)
    (hregistration : isModification request.call = false)
    (hstage : request.gateway = .writingTrust revision) :
    ¬ Registered system.store subjectID := by
  intro hregistered
  have hholds : request.holds = true := by
    simp [Request.holds, hstage, GatewayStage.pastLocker]
  have hcreated := hinv.claimed.holder id request hrequest hsubject
    hregistration rfl hholds
  obtain ⟨winner, found, hwinner, hfound, hpast⟩ := hinv.registered hregistered
  have hsame : [id] = [winner] := hcreated.symm.trans hwinner
  obtain rfl := (List.cons.inj hsame).1
  obtain rfl := Option.mem_unique hrequest hfound
  rw [hstage] at hpast
  cases hpast

theorem registersFirst_of_sequenced (hwraps : WrapsReceipts env library clock)
    (hrecorded : Recorded env system)
    (hinv : Sequenced subjectID (system, created)) :
    RegistersFirst library subjectID system := by
  intro id request revision hrequest hsubject hregistration hstage
  have hunregistered :=
    not_registered_of_writing hinv hrequest hsubject hregistration hstage
  constructor
  · rw [Option.eq_none_iff_forall_not_mem]
    intro list hlist
    exact hunregistered (registered_of_audited hwraps hrecorded hinv hlist)
  · intro other found hfound hother
    rw [← Bool.not_eq_true]
    intro hunsealed
    simp only [Request.unsealed, Bool.and_eq_true] at hunsealed
    refine hunregistered
      (hinv.modifying other found hfound hother hunsealed.1 ?_)
    apply modifying_of_sent
    intro hunsent
    rw [hunsent] at hunsealed
    cases hunsealed.2

section

variable (hinv : Sequenced subjectID (system, created))

include hinv

/-- The seal request of a trust modification finds the ledger open. -/
theorem isSome_ledgers_of_modifying
    (hrequest : system.requests id = some request)
    (hsubject : request.call.subjectID = subjectID)
    (hmodifies : isModification request.call = true)
    (hmodifying : request.modifying = true) :
    (system.locker.ledgers subjectID).isSome := by
  obtain ⟨winner, found, hwinner, -, -⟩ := hinv.registered
    (hinv.modifying id request hrequest hsubject hmodifies hmodifying)
  rcases hinv.claimed.ledger with ⟨hnone, -⟩ | ⟨other, -, hopen⟩
  · rw [hwinner] at hnone
    cases hnone
  · exact hopen

theorem sealsSucceed_of_failureFree (hguard : FailureFree env system action)
    (hstep : step env system action = some next) :
    SealsSucceed env subjectID system action := by
  intro id request hrequest hsubject hmodifies
  cases action with
  | gateway other event =>
    cases event with
    | advance fault => trivial
    | unanswered err => exact hguard.elim
    | hear hearing =>
      cases hearing with
      | reply error => exact fun _ => ⟨error, rfl⟩
      | failed err => exact hguard.elim
      | undecodable err => exact hguard.elim
  | admin other event =>
    cases event with
    | lose => exact hguard.elim
    | add fault => exact fun _ => hguard
    | acquire opening =>
      rintro rfl
      obtain ⟨found, hfound, htransition⟩ := adminStep_cases hstep
      obtain rfl := Option.mem_unique hrequest hfound
      refine ⟨?_, hguard.2 request hrequest⟩
      rw [hsubject]
      exact isSome_ledgers_of_modifying hinv hrequest hsubject hmodifies
        (modifying_of_sent htransition.sent)
    | _ => trivial
  | restart opening => exact hguard.elim
  | _ => trivial

theorem auditedInTurn_of_failureFree (hguard : FailureFree env system action)
    (hturns : WritesInTurn subjectID system action)
    (hstep : step env system action = some next) :
    AuditedInTurn env library subjectID system action := by
  refine ⟨?_, sealsSucceed_of_failureFree hinv hguard hstep, hturns⟩
  cases action with
  | worker event => exact hguard.elim
  | _ => trivial

end

end Sequence

/-! ## Equal ledgers have equal lists -/

section Rebuild

variable {env : Environment} {library : Library} {clock : ℕ → String}
  {subjectID : SubjectID} {system : System}

section

variable (hwraps : WrapsReceipts env library clock)
  (hreach : Reaches (step env) (fun before action =>
    FailureFree env before action ∧
      WritesInTurn subjectID before action) initial system)

include hwraps hreach

theorem auditOrdered_of_failureFree :
    AuditOrdered library subjectID system := by
  have hstart : AuditOrdered library subjectID initial :=
    .of_allSealed (fun id request hrequest => by cases hrequest) (.inl rfl)
  refine hreach.invariant_with (fun _ hpath => hpath) hstart
    fun before action next hpath hinv hguard hstep => ?_
  have hrecorded := recorded_of_reaches (hpath.mono fun _ _ _ => trivial)
  obtain ⟨created, hrun⟩ :=
    (hpath.mono fun _ _ hpassed => hpassed.1).record (creations subjectID)
  have hsequenced := sequenced_of_reaches hrun
  exact auditOrdered_step hwraps hrecorded
    (registersFirst_of_sequenced hwraps hrecorded hsequenced) hinv
    (auditedInTurn_of_failureFree hsequenced hguard.1 hguard.2 hstep) hstep

theorem trustList_eq_audited (hreturned : AllReturned subjectID system)
    (hmodified : (auditedTrustList library
      (system.locker.entries subjectID)).isSome) :
    system.trustList subjectID =
      auditedTrustList library (system.locker.entries subjectID) := by
  have hordered := auditOrdered_of_failureFree hwraps hreach
  rcases hordered.agreed (hordered.allSealed hreturned) with hnone | hagreed
  · rw [hnone] at hmodified
    cases hmodified
  · exact hagreed.symm

end

/-- Two runs of registrations and trust modifications without failures, in
both of which no list of the subject is written while another one waits for its
receipt: if they end with the same ledger, and a trust modification is sealed
in it, they end with the same trust list. -/
theorem equal_ledgers_have_equal_lists
    (hwraps : WrapsReceipts env library clock) {left right : System}
    (hleft : Reaches (step env) (fun before action =>
      FailureFree env before action ∧
        WritesInTurn subjectID before action) initial left)
    (hright : Reaches (step env) (fun before action =>
      FailureFree env before action ∧
        WritesInTurn subjectID before action) initial right)
    (hreturnedLeft : AllReturned subjectID left)
    (hreturnedRight : AllReturned subjectID right)
    (hsame : (left.locker.entries subjectID).map Entry.data =
      (right.locker.entries subjectID).map Entry.data)
    (hmodified : (auditedTrustList library
      (left.locker.entries subjectID)).isSome) :
    left.trustList subjectID = right.trustList subjectID := by
  have haudited := auditedTrustList_congr library hsame
  calc left.trustList subjectID
      = auditedTrustList library (left.locker.entries subjectID) :=
        trustList_eq_audited hwraps hleft hreturnedLeft hmodified
    _ = auditedTrustList library (right.locker.entries subjectID) := haudited
    _ = right.trustList subjectID := by
        rw [haudited] at hmodified
        exact (trustList_eq_audited hwraps hright hreturnedRight
          hmodified).symm

end Rebuild

/-! ## Concrete runs -/

/-- A computable check that nothing fails in a step. -/
def failureFreeCheck (env : Environment) (system : System) : Action → Bool
  | .call _ _ => true
  | .gateway _ (.advance fault) => fault.isNone
  | .gateway _ (.hear (.reply _)) => true
  | .admin _ .receive => true
  | .admin id (.acquire (.opened _)) => (system.requests id).all fun request =>
    (env.wrap system.now (env.marshal (natsRequest request.call).data)
      (natsRequest request.call).publisher
      (natsRequest request.call).subjectID
      (natsRequest request.call).artifactType).isOk
  | .admin _ (.add fault) => fault.isNone
  | .admin _ .index => true
  | .admin _ .announce => true
  | .tick _ => true
  | _ => false

theorem failureFree_of_check {env : Environment} {system : System}
    {action : Action} (hcheck : failureFreeCheck env system action = true) :
    FailureFree env system action := by
  unfold failureFreeCheck at hcheck
  split at hcheck
  · trivial
  · exact Option.isNone_iff_eq_none.mp hcheck
  · trivial
  · trivial
  · refine ⟨⟨_, rfl⟩, fun request hrequest => ?_⟩
    rw [hrequest] at hcheck
    exact exists_eq_ok_of_isOk hcheck
  · exact Option.isNone_iff_eq_none.mp hcheck
  all_goals trivial

/-- Receipts of the deployment do not depend on the instant. -/
theorem wrapped_unique {now later : ℕ} {message : AdminRequest}
    {receipt other : Bytes} (hwrapped : Wrapped deployment now message receipt)
    (hother : Wrapped deployment later message other) : receipt = other :=
  Except.ok.inj (hwrapped.symm.trans hother)

/-- Logs that admin requests with equal messages have filled in the same order
are equal. -/
theorem data_eq_of_sealers {left right : System} {subjectID : SubjectID}
    (hleft : Recorded deployment left) (hright : Recorded deployment right)
    (hsealers : (left.locker.entries subjectID).map Entry.sealer =
      (right.locker.entries subjectID).map Entry.sealer)
    (hmessages : ∀ entry ∈ left.locker.entries subjectID,
      ∃ id request found, entry.sealer = .admin id ∧
        left.requests id = some request ∧ right.requests id = some found ∧
        natsRequest request.call = natsRequest found.call) :
    (left.locker.entries subjectID).map Entry.data =
      (right.locker.entries subjectID).map Entry.data := by
  have hlength := congrArg List.length hsealers
  simp only [List.length_map] at hlength
  apply List.ext_getElem
  · simpa using hlength
  · intro index hindexLeft hindexRight
    rw [List.length_map] at hindexLeft hindexRight
    rw [List.getElem_map, List.getElem_map]
    have hmemLeft := List.getElem_mem hindexLeft
    have hmemRight := List.getElem_mem hindexRight
    obtain ⟨id, request, found, hsealer, hrequest, hfound, hmessage⟩ :=
      hmessages _ hmemLeft
    have hsame : (right.locker.entries subjectID)[index].sealer =
        .admin id := by
      rw [← hsealer, ← List.getElem_map Entry.sealer (h := by simpa),
        ← List.getElem_map Entry.sealer (h := by simpa)]
      simp only [hsealers]
    obtain ⟨first, hfirst, -, -, now, hwrapped⟩ :=
      hleft.entries subjectID _ hmemLeft id hsealer
    obtain ⟨second, hsecond, -, -, later, hother⟩ :=
      hright.entries subjectID _ hmemRight id hsame
    obtain rfl := Option.mem_unique hrequest hfirst
    obtain rfl := Option.mem_unique hfound hsecond
    rw [hmessage] at hwrapped
    exact wrapped_unique hwrapped hother

/-- What is observed of the subject `alpha` at the end of a run. -/
structure Ending where
  returned : Bool
  calls : List (Option AdminCall)
  sealers : List Sealer
  trustList : Option (List TrustEntry)
  deriving DecidableEq

def System.ending (system : System) : Ending where
  returned := everyRequest 3 (fun request =>
    (statusOf request.gateway).isSome) system
  calls := (List.range 3).map fun id => (system.requests id).map Request.call
  sealers := (system.locker.entries "alpha").map Entry.sealer
  trustList := system.trustList "alpha"

/-- Nothing fails, and nothing waits for a receipt when the gateway turns to the
trust store. -/
def rebuildCheck (system : System) (action : Action) : Bool :=
  failureFreeCheck deployment system action && numberedBelow 3 action &&
    match action with
    | .gateway _ (.advance _) =>
      everyRequest 3 (fun request => !request.unsealed) system
    | _ => true

theorem exists_call_of_ending {system : System}
    (hcall : system.ending.calls[id]? = some (some call)) :
    ∃ request, system.requests id = some request ∧ request.call = call := by
  simp only [System.ending, List.getElem?_map, Option.map_eq_some_iff] at hcall
  obtain ⟨number, hnumber, request, hrequest, rfl⟩ := hcall
  obtain ⟨hlt, hvalue⟩ := List.getElem?_eq_some_iff.mp hnumber
  rw [List.getElem_range] at hvalue
  subst hvalue
  exact ⟨request, hrequest, rfl⟩

theorem data_eq_of_endings {left right : System}
    (hleft : Recorded deployment left) (hright : Recorded deployment right)
    (hsealers : left.ending.sealers = right.ending.sealers)
    (hmessages : ∀ sealer ∈ left.ending.sealers, ∃ id call other,
      sealer = .admin id ∧ left.ending.calls[id]? = some (some call) ∧
        right.ending.calls[id]? = some (some other) ∧
        natsRequest call = natsRequest other) :
    (left.locker.entries "alpha").map Entry.data =
      (right.locker.entries "alpha").map Entry.data := by
  refine data_eq_of_sealers hleft hright hsealers fun entry hentry => ?_
  obtain ⟨id, call, other, hsealer, hcall, hother, hmessage⟩ :=
    hmessages entry.sealer (List.mem_map_of_mem hentry)
  obtain ⟨request, hrequest, rfl⟩ := exists_call_of_ending hcall
  obtain ⟨found, hfound, rfl⟩ := exists_call_of_ending hother
  exact ⟨id, request, found, hsealer, hrequest, hfound, hmessage⟩

theorem exists_ending {actions : List Action} {ending : Ending}
    (hobserved : (run (checked (step deployment) rebuildCheck) initial
      actions).map System.ending = some ending)
    (hreturned : ending.returned = true) :
    ∃ system, Reaches (step deployment) (fun before action =>
        FailureFree deployment before action ∧
          WritesInTurn "alpha" before action) initial system ∧
      AllReturned "alpha" system ∧ system.ending = ending := by
  obtain ⟨system, hrun, rfl⟩ := Option.map_eq_some_iff.mp hobserved
  have hchecked : Reaches (step deployment)
      (fun before action => rebuildCheck before action = true) initial
      system :=
    Reaches.run_checked .refl (fun _ _ _ hpassed => hpassed) hrun
  have hbelow : ∀ reached, Reaches (step deployment)
      (fun before action => rebuildCheck before action = true) initial
      reached → RequestsBelow 3 reached := by
    intro reached hpath
    refine requestsBelow_of_reaches hpath (fun before id call hpassed => ?_)
      fun _ _ => rfl
    simp only [rebuildCheck, Bool.and_eq_true] at hpassed
    simpa [numberedBelow] using hpassed.1.2
  refine ⟨system, ?_, allReturned_of_check (hbelow system hchecked) hreturned,
    rfl⟩
  refine hchecked.mono_with hbelow fun before action hbounded hpassed => ?_
  simp only [rebuildCheck, Bool.and_eq_true] at hpassed
  refine ⟨failureFree_of_check hpassed.1.1, ?_⟩
  cases action with
  | gateway id event =>
    cases event with
    | advance fault =>
      intro request revision _ _ _ _ _
      exact allSealed_of_check hbounded hpassed.2
    | _ => trivial
  | _ => trivial

def registrationCall (publishers : List TrustEntry) : AdminCall :=
  .registerSubject (some ⟨"alpha", publishers, none⟩) sampleOperator

/-- The registration of `alpha` with a list of the caller's choice. -/
def registrationOf (publishers : List TrustEntry) : List Action :=
  .call 0 (registrationCall publishers) :: sampleRegistration.tail

/-- Two registrations that differ in their lists alone: the ledgers are equal,
the stored lists are not. -/
theorem deployed_list_not_rebuildable :
    ∃ left right,
      Reaches (step deployment) (FailureFree deployment) initial left ∧
      Reaches (step deployment) (FailureFree deployment) initial right ∧
      AllReturned "alpha" left ∧ AllReturned "alpha" right ∧
      (left.locker.entries "alpha").map Entry.data =
        (right.locker.entries "alpha").map Entry.data ∧
      left.trustList "alpha" = some [workload "scanner"] ∧
      right.trustList "alpha" = some [workload "rival"] := by
  have hscanner : (run (checked (step deployment) rebuildCheck) initial
      (registrationOf [workload "scanner"])).map System.ending =
      some ⟨true, [some (registrationCall [workload "scanner"]), none,
        none], [.admin 0], some [workload "scanner"]⟩ := by
    unfold rebuildCheck
    rw [deployment_eq]
    decide +kernel
  have hrival : (run (checked (step deployment) rebuildCheck) initial
      (registrationOf [workload "rival"])).map System.ending =
      some ⟨true, [some (registrationCall [workload "rival"]), none,
        none], [.admin 0], some [workload "rival"]⟩ := by
    unfold rebuildCheck
    rw [deployment_eq]
    decide +kernel
  obtain ⟨left, hleft, hreturnedLeft, hendingLeft⟩ := exists_ending hscanner rfl
  obtain ⟨right, hright, hreturnedRight, hendingRight⟩ :=
    exists_ending hrival rfl
  refine ⟨left, right, hleft.mono fun _ _ hguard => hguard.1,
    hright.mono fun _ _ hguard => hguard.1, hreturnedLeft, hreturnedRight, ?_,
    congrArg Ending.trustList hendingLeft,
    congrArg Ending.trustList hendingRight⟩
  apply data_eq_of_endings
    (recorded_of_reaches (hleft.mono fun _ _ _ => trivial))
    (recorded_of_reaches (hright.mono fun _ _ _ => trivial))
  · rw [hendingLeft, hendingRight]
  · rw [hendingLeft, hendingRight]
    intro sealer hmem
    obtain rfl := List.mem_singleton.mp hmem
    exact ⟨0, _, _, rfl, rfl, rfl, rfl⟩

/-- The same two registrations, each followed by the same modification. -/
theorem deployed_list_rebuildable :
    ∃ left right,
      Reaches (step deployment) (fun before action =>
        FailureFree deployment before action ∧
          WritesInTurn "alpha" before action) initial left ∧
      Reaches (step deployment) (fun before action =>
        FailureFree deployment before action ∧
          WritesInTurn "alpha" before action) initial right ∧
      left.requests 0 ≠ right.requests 0 ∧
      (left.locker.entries "alpha").map Entry.data =
        (right.locker.entries "alpha").map Entry.data ∧
      left.trustList "alpha" = right.trustList "alpha" := by
  have hscanner : (run (checked (step deployment) rebuildCheck) initial
      (registrationOf [workload "scanner"] ++
        sampleTrustWrite 1 [workload "builder"] ++
        sampleTrustSeal 1)).map System.ending =
      some ⟨true, [some (registrationCall [workload "scanner"]),
        some (sampleModification [workload "builder"]), none],
        [.admin 0] ++ [.admin 1], some [workload "builder"]⟩ := by
    unfold rebuildCheck
    rw [deployment_eq]
    decide +kernel
  have hrival : (run (checked (step deployment) rebuildCheck) initial
      (registrationOf [workload "rival"] ++
        sampleTrustWrite 1 [workload "builder"] ++
        sampleTrustSeal 1)).map System.ending =
      some ⟨true, [some (registrationCall [workload "rival"]),
        some (sampleModification [workload "builder"]), none],
        [.admin 0] ++ [.admin 1], some [workload "builder"]⟩ := by
    unfold rebuildCheck
    rw [deployment_eq]
    decide +kernel
  obtain ⟨left, hleft, hreturnedLeft, hendingLeft⟩ := exists_ending hscanner rfl
  obtain ⟨right, hright, hreturnedRight, hendingRight⟩ :=
    exists_ending hrival rfl
  have hrecorded := recorded_of_reaches (hleft.mono fun _ _ _ => trivial)
  have hsame : (left.locker.entries "alpha").map Entry.data =
      (right.locker.entries "alpha").map Entry.data := by
    apply data_eq_of_endings hrecorded
      (recorded_of_reaches (hright.mono fun _ _ _ => trivial))
    · rw [hendingLeft, hendingRight]
    · rw [hendingLeft, hendingRight]
      intro sealer hmem
      rcases List.mem_append.mp hmem with hfirst | hsecond
      · obtain rfl := List.mem_singleton.mp hfirst
        exact ⟨0, _, _, rfl, rfl, rfl, rfl⟩
      · obtain rfl := List.mem_singleton.mp hsecond
        exact ⟨1, _, _, rfl, rfl, rfl, rfl⟩
  have hcalls : left.requests 0 ≠ right.requests 0 := by
    intro heq
    have hcall : left.ending.calls[0]? = right.ending.calls[0]? := by
      simp [System.ending, heq]
    rw [hendingLeft, hendingRight] at hcall
    revert hcall
    decide
  have hmodified : (auditedTrustList plainLibrary
      (left.locker.entries "alpha")).isSome := by
    have hcall : left.ending.calls[1]? =
        some (some (sampleModification [workload "builder"])) := by
      rw [hendingLeft]
      rfl
    obtain ⟨⟨call, gateway, locker⟩, hrequest, rfl⟩ :=
      exists_call_of_ending hcall
    rw [auditedTrustList_of_sealers wrapsReceipts_deployment hrecorded
      hrequest (congrArg Ending.sealers hendingLeft)]
    rfl
  exact ⟨left, right, hleft, hright, hcalls, hsame,
    equal_ledgers_have_equal_lists wrapsReceipts_deployment hleft hright
      hreturnedLeft hreturnedRight hsame hmodified⟩

end ComplyTime.Pipeline
