import ComplyTime.Pipeline.Receipts

/-!
# Writes to the stored trust lists

Only the second request of `SetPublisherTrust` changes a stored list, and only
the list of the handler's own subject.  Either the handler learns that its
write went through, or the reply is lost and it reports a failure.
-/

namespace ComplyTime.Pipeline

open TransitionSystem WorkQueue Subjects Ledgers Worker AdminSubscriber
open GatewayAdmin Trust KeyValue

/-- The trust list that a lookup for the subject finds. -/
def System.trustList (system : System) (subjectID : SubjectID) :
    Option (List TrustEntry) :=
  storedTrustList trustCodec system.store subjectID

/-! ## Outcomes -/

section Outcome

variable {call : AdminCall} {store later : TrustStore (List TrustEntry)}
  {stage after : GatewayStage}

theorem storedTrustList_trustWritten_self :
    storedTrustList trustCodec (call.trustWritten trustCodec store)
      call.subjectID = some call.trustedPublishers := by
  simp [storedTrustList, AdminCall.trustWritten, trustCodec, Except.toOption]

theorem storedTrustList_trustWritten_of_ne {subjectID : SubjectID}
    (hne : subjectID ≠ call.subjectID) :
    storedTrustList trustCodec (call.trustWritten trustCodec store)
      subjectID = storedTrustList trustCodec store subjectID := by
  have hkey : subjectKey subjectID ≠ subjectKey call.subjectID :=
    subjectKey_injective.ne hne
  simp [storedTrustList, AdminCall.trustWritten, entries_write_of_ne _ _ hkey]

theorem publisherKV_of_outcome
    (houtcome : Outcome trustCodec call store stage later after)
    (hstage : ∀ revision, stage ≠ .writingTrust revision) :
    later.publisherKV = store.publisherKV := by
  cases houtcome with
  | written _ => exact absurd rfl (hstage _)
  | _ => rfl

/-- The write goes through and the handler knows it, or nothing happens. -/
theorem advance_writingTrust_cases {validators : Validators}
    {fault : Option GoError} {revision : Option ℕ}
    (hadvance : call.advance trustCodec store fault validators
      (.writingTrust revision) = some (later, after)) :
    (later = store ∧ after = .responded call.trustFailure) ∨
      (Trust.writeTrust trustCodec store fault call.subjectID
          call.trustedPublishers revision =
        .ok (call.trustWritten trustCodec store) ∧
      later = call.trustWritten trustCodec store ∧
      after = call.afterTrust) := by
  have hwrite : call.writeTrust trustCodec store fault revision =
      (later, after) := Option.some.inj hadvance
  unfold AdminCall.writeTrust at hwrite
  cases hresult : Trust.writeTrust trustCodec store fault call.subjectID
      call.trustedPublishers revision with
  | error err =>
    rw [hresult] at hwrite
    obtain ⟨rfl, rfl⟩ := Prod.mk.inj hwrite
    exact .inl ⟨rfl, rfl⟩
  | ok written =>
    rw [hresult] at hwrite
    obtain ⟨rfl, rfl⟩ := Prod.mk.inj hwrite
    obtain ⟨-, rfl⟩ := writeTrust_eq_ok hresult
    exact .inr ⟨rfl, rfl, rfl⟩

theorem unanswered_writingTrust_cases {validators : Validators}
    {err : GoError} {revision : Option ℕ}
    (hunanswered : call.unanswered trustCodec store err validators
      (.writingTrust revision) = some (later, after)) :
    (later = store ∨ later = call.trustWritten trustCodec store) ∧
      after = .responded call.trustFailure := by
  obtain ⟨⟨stages, hperformed⟩, stores, hfailed⟩ :=
    unanswered_eq_some hunanswered
  constructor
  · rcases advance_writingTrust_cases hperformed with
      ⟨hsame, -⟩ | ⟨-, hwritten, -⟩
    · exact .inl hsame
    · exact .inr hwritten
  · rcases after_of_fault hfailed with
      ⟨response, -, hresponded, hwriting⟩ | ⟨hreading, -⟩
    · rw [hresponded, hwriting revision rfl]
    · cases hreading

end Outcome

/-! ## Steps -/

section Step

variable {env : Environment} {system next : System} {action : Action}
  {subjectID : SubjectID}

theorem trustList_congr
    (hkept : next.store.publisherKV = system.store.publisherKV)
    (subjectID : SubjectID) :
    next.trustList subjectID = system.trustList subjectID := by
  rw [System.trustList, storedTrustList, hkept, System.trustList,
    storedTrustList]

/-- What one step of the gateway can do to the stored lists.  A handler that
keeps them does not turn to the locker. -/
inductive GatewayWrite (system : System) (id : ℕ) (request : Request) :
    GatewayEvent → System → Prop
  | kept {event : GatewayEvent} {next : System}
      (hkept : next.store.publisherKV = system.store.publisherKV)
      (hsent : ∀ after, next.requests id = some after →
        after.gateway ≠ .requesting) :
      GatewayWrite system id request event next
  | written {revision : Option ℕ} {fault : Option GoError}
      (hstage : request.gateway = .writingTrust revision)
      (hwrite : Trust.writeTrust trustCodec system.store fault
          request.call.subjectID request.call.trustedPublishers revision =
        .ok (request.call.trustWritten trustCodec system.store)) :
      GatewayWrite system id request (.advance fault)
        ({ system with
          store := request.call.trustWritten trustCodec system.store
        }.setRequest id ⟨request.call, request.call.afterTrust,
          lockerAfter request.call.afterTrust request.locker⟩)
  | unanswered {revision : Option ℕ} {err : GoError}
      (hstage : request.gateway = .writingTrust revision) :
      GatewayWrite system id request (.unanswered err)
        ({ system with
          store := request.call.trustWritten trustCodec system.store
        }.setRequest id ⟨request.call,
          .responded request.call.trustFailure, request.locker⟩)

variable {id : ℕ} {event : GatewayEvent} {request : Request}

theorem GatewayWrite.of_kept {request after : Request}
    (hkept : next.store.publisherKV = system.store.publisherKV)
    (hrequests : next.requests =
      Function.update system.requests id (some after))
    (hsent : after.gateway ≠ .requesting) :
    GatewayWrite system id request event next := by
  refine .kept hkept fun found hfound => ?_
  rw [hrequests, Function.update_self, Option.some.injEq] at hfound
  rwa [← hfound]

theorem hear_ne_requesting (call : AdminCall) (hearing : Hearing) :
    call.hear hearing ≠ .requesting := by
  rcases hear_cases call hearing with ⟨-, hread⟩ | ⟨response, hresponse, -⟩
  · simp [hread]
  · simp [hresponse]

/-- Away from the write, a handler keeps the lists and does not turn to the
locker. -/
theorem gatewayWrite_of_outcome {store : TrustStore (List TrustEntry)}
    {stage : GatewayStage}
    (houtcome : Outcome trustCodec request.call system.store request.gateway
      store stage)
    (hstage : ∀ revision, request.gateway ≠ .writingTrust revision) :
    GatewayWrite system id request event
      ({ system with store := store }.setRequest id
        ⟨request.call, stage, lockerAfter stage request.locker⟩) := by
  refine .of_kept (publisherKV_of_outcome houtcome hstage) rfl ?_
  rintro rfl
  obtain ⟨⟨revision, hwriting⟩, -⟩ := houtcome.requesting
  exact hstage revision hwriting

theorem gatewayWrite_of_transition
    (htransition : GatewayTransition env system id request event next) :
    GatewayWrite system id request event next := by
  cases htransition with
  | heard hstage hheard =>
    exact .of_kept rfl rfl (hear_ne_requesting request.call _)
  | @advanced fault store stage hadvance =>
    by_cases hstage : ∃ revision, request.gateway = .writingTrust revision
    · obtain ⟨revision, hstage⟩ := hstage
      rw [hstage] at hadvance
      rcases advance_writingTrust_cases hadvance with
        ⟨rfl, rfl⟩ | ⟨hwrite, rfl, rfl⟩
      · exact .of_kept rfl rfl (by simp)
      · exact .written hstage hwrite
    · exact gatewayWrite_of_outcome (outcome_of_advance hadvance)
        (not_exists.mp hstage)
  | @unanswered err store stage hunanswered =>
    by_cases hstage : ∃ revision, request.gateway = .writingTrust revision
    · obtain ⟨revision, hstage⟩ := hstage
      rw [hstage] at hunanswered
      obtain ⟨rfl | rfl, rfl⟩ := unanswered_writingTrust_cases hunanswered
      · exact .of_kept rfl rfl (by simp)
      · exact .unanswered hstage
    · exact gatewayWrite_of_outcome (outcome_of_unanswered hunanswered)
        (not_exists.mp hstage)

theorem store_of_step (hstep : step env system action = some next)
    (hother : ∀ id event, action ≠ .gateway id event) :
    next.store = system.store := by
  cases step_cases hstep with
  | worker htransition => cases htransition <;> rfl
  | gateway => exact absurd rfl (hother _ _)
  | admin _ htransition => cases htransition <;> rfl
  | _ => rfl

theorem trustList_of_other
    (htransition : GatewayTransition env system id request event next)
    (hne : subjectID ≠ request.call.subjectID) :
    next.trustList subjectID = system.trustList subjectID := by
  cases gatewayWrite_of_transition htransition with
  | kept hkept _ => exact trustList_congr hkept subjectID
  | written _ _ => exact storedTrustList_trustWritten_of_ne hne
  | unanswered _ => exact storedTrustList_trustWritten_of_ne hne

/-- A step keeps the list of a subject, or a request for the subject is at the
write of its own list. -/
theorem trustList_of_step (hstep : step env system action = some next)
    (subjectID : SubjectID) :
    next.trustList subjectID = system.trustList subjectID ∨
      ∃ id event request revision, action = .gateway id event ∧
        system.requests id = some request ∧
        request.call.subjectID = subjectID ∧
        request.gateway = .writingTrust revision ∧
        next.trustList subjectID = some request.call.trustedPublishers := by
  by_cases hgateway : ∃ id event, action = .gateway id event
  · obtain ⟨id, event, rfl⟩ := hgateway
    obtain ⟨request, hrequest, htransition⟩ := gatewayStep_cases hstep
    by_cases hsubject : request.call.subjectID = subjectID
    · cases gatewayWrite_of_transition htransition with
      | kept hkept _ => exact .inl (trustList_congr hkept subjectID)
      | written hstage _ =>
        refine .inr ⟨id, _, request, _, rfl, hrequest, hsubject, hstage, ?_⟩
        rw [← hsubject]
        exact storedTrustList_trustWritten_self
      | unanswered hstage =>
        refine .inr ⟨id, _, request, _, rfl, hrequest, hsubject, hstage, ?_⟩
        rw [← hsubject]
        exact storedTrustList_trustWritten_self
    · exact .inl (trustList_of_other htransition (Ne.symm hsubject))
  · left
    have hstore := store_of_step hstep fun id event heq =>
      hgateway ⟨id, event, heq⟩
    exact trustList_congr (by rw [hstore]) subjectID

end Step

end ComplyTime.Pipeline
