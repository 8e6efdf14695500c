import ComplyTime.Trust.Store

/-!
# Gateway admin handlers

`RegisterSubject` and `ModifyTrust` validate their request, then write several
stores and call the locker in a fixed order with no rollback.  Validation is a
function; the remaining work is a sequence of stages, one for each request the
handler sends to NATS.
-/

namespace ComplyTime.GatewayAdmin

open Subjects Trust KeyValue

structure ScannerJWK where
  jwk : Bytes
  notAfter : Time
  deriving DecidableEq

/-- The decoded body of `POST /admin/subjects`. -/
structure RegisterBody where
  subjectID : SubjectID
  trustedPublishers : List TrustEntry
  scannerJWK : Option ScannerJWK
  deriving DecidableEq

/-- The decoded body of `PUT /admin/subjects/{subjectId}/trust`; the list
is nil when the body has none or `null`. -/
structure ModifyBody where
  trustedPublishers : Option (List TrustEntry)
  deriving DecidableEq

/-- The list of a body that decodes. -/
def requestedList (body : Option ModifyBody) : Option (List TrustEntry) :=
  body.bind ModifyBody.trustedPublishers

/-- An authorized admin request as the handler sees it; `none` is a body that
does not decode. -/
inductive AdminCall
  | registerSubject (body : Option RegisterBody) (operator : PublisherIdentity)
  | modifyTrust (subjectID : SubjectID) (body : Option ModifyBody)
      (operator : PublisherIdentity)
  deriving DecidableEq

inductive GatewayStage
  /-- `ModifyTrust`: `SubjectExists` comes next. -/
  | checkingSubject
  /-- Waiting in `RequestWithContext`. -/
  | requesting
  /-- First request of `SetPublisherTrust`. -/
  | readingTrust
  /-- Second request of `SetPublisherTrust`. -/
  | writingTrust (revision : Option ℕ)
  /-- `RegisterSubject`: the registry write comes next. -/
  | registering
  /-- `RegisterSubject`: `StoreJWK` comes next. -/
  | storingJWK
  | responded (response : Response)
  deriving DecidableEq, Repr

/-- The two checks on identities and keys that live outside the handler. -/
structure Validators where
  /-- `h.registry.ValidateTrustEntry`, absent when no registry is set. -/
  validateTrustEntry : Option (String → String → Except GoError Unit)
  /-- `jwk.ParseKey`, with whether the key has a `d` parameter. -/
  parseKey : Bytes → Except GoError Bool

/-- The first trusted publisher with `issuer == sub`, else the empty text. -/
def scannerIssuerID (publishers : List TrustEntry) : String :=
  match publishers.find? fun entry => decide (entry.issuer = entry.sub) with
  | some entry => entry.issuer
  | none => ""

def badRequest (body : String) : Response := ⟨400, body⟩

def internalError (body : String) : Response := ⟨500, body⟩

/-- Pre-validation of the scanner key. -/
def checkScannerJWK (validators : Validators) (body : RegisterBody) :
    Except Response Unit :=
  match body.scannerJWK with
  | none => .ok ()
  | some scanner =>
    if scannerIssuerID body.trustedPublishers = "" then
      .error (badRequest ("scannerJwk requires a trusted publisher with " ++
        "issuer == sub (scanner identity convention)"))
    else
      match validators.parseKey scanner.jwk with
      | .error _ => .error (badRequest "invalid scanner JWK: cannot parse key")
      | .ok true => .error (badRequest ("invalid scanner JWK: must be a " ++
          "public key (contains private key material)"))
      | .ok false => .ok ()

/-- The loop over `ValidateTrustEntry`; `describe` is the error text of the
handler that runs it. -/
def checkTrustEntries (validators : Validators)
    (describe : TrustEntry → GoError → String) :
    List TrustEntry → Except Response Unit
  | [] => .ok ()
  | entry :: entries =>
    match validators.validateTrustEntry with
    | none => .ok ()
    | some validate =>
      match validate entry.issuer entry.sub with
      | .error err => .error (badRequest (describe entry err))
      | .ok () => checkTrustEntries validators describe entries

def describeRegistrationEntry (entry : TrustEntry) (err : GoError) : String :=
  "invalid trusted publisher \x7bissuer: " ++ entry.issuer.quote ++
    ", sub: " ++ entry.sub.quote ++ "\x7d: " ++ err.error

def describeModificationEntry (_ : TrustEntry) (err : GoError) : String :=
  "invalid trusted publisher: " ++ err.error

/-- The validation phase of `RegisterSubject`, before any write. -/
def validateRegistration (validators : Validators) :
    Option RegisterBody → Except Response RegisterBody
  | none => .error (badRequest "invalid request body")
  | some body =>
    if body.subjectID = "" then
      .error (badRequest "subjectId is required")
    else
      match validateSubjectID body.subjectID with
      | .error err => .error (badRequest err.error)
      | .ok () =>
        if body.trustedPublishers = [] then
          .error (badRequest "at least one trusted publisher required")
        else
          match checkScannerJWK validators body with
          | .error response => .error response
          | .ok () =>
            match checkTrustEntries validators describeRegistrationEntry
                body.trustedPublishers with
            | .error response => .error response
            | .ok () => .ok body

/-- The validation of `ModifyTrust` after the subject was found. -/
def validateModification (validators : Validators) :
    Option ModifyBody → Except Response ModifyBody
  | none => .error (badRequest "invalid request body")
  | some body =>
    match checkTrustEntries validators describeModificationEntry
        (body.trustedPublishers.getD []) with
    | .error response => .error response
    | .ok () => .ok body

/-- The body written on success of either handler. -/
def subjectBody (subjectID : SubjectID) : String :=
  "\x7b\"subjectId\":" ++ subjectID.quote ++ "\x7d\n"

/-! ## The stages after validation -/

def AdminCall.subjectID : AdminCall → SubjectID
  | .registerSubject (some body) _ => body.subjectID
  | .registerSubject none _ => ""
  | .modifyTrust subjectID _ _ => subjectID

/-- The list the handler passes to `SetPublisherTrust`. -/
def AdminCall.trustedPublishers : AdminCall → List TrustEntry
  | .registerSubject (some body) _ => body.trustedPublishers
  | .registerSubject none _ => []
  | .modifyTrust _ body _ => (requestedList body).getD []

/-- Where the handler stands once it issues its first request. -/
def AdminCall.begin (validators : Validators) : AdminCall → GatewayStage
  | .registerSubject input _ =>
    match validateRegistration validators input with
    | .error response => .responded response
    | .ok _ => .requesting
  | .modifyTrust subjectID _ _ =>
    match validateSubjectID subjectID with
    | .error err => .responded (badRequest err.error)
    | .ok () => .checkingSubject

/-- The answer when `SetPublisherTrust` fails. -/
def AdminCall.trustFailure : AdminCall → Response
  | .registerSubject _ _ => internalError "failed to set publisher trust"
  | .modifyTrust _ _ _ => internalError "failed to update trust"

/-- What follows a successful `SetPublisherTrust`. -/
def AdminCall.afterTrust : AdminCall → GatewayStage
  | .registerSubject _ _ => .registering
  | .modifyTrust _ _ _ => .requesting

/-- What the gateway learns from `RequestWithContext`. -/
inductive Hearing
  | failed (err : GoError)
  | undecodable (err : GoError)
  | reply (error : String)
  deriving DecidableEq, Repr

/-- A registration stops on any failure; a trust modification has already
written its list and only logs. -/
def AdminCall.hear : AdminCall → Hearing → GatewayStage
  | .registerSubject _ _, .failed err =>
    .responded (internalError ("locker request failed: " ++ err.error))
  | .registerSubject _ _, .undecodable err =>
    .responded (internalError ("registration failed: " ++ err.error))
  | .registerSubject _ _, .reply error =>
    if error = "" then .readingTrust
    else .responded (internalError ("registration failed: " ++ error))
  | .modifyTrust subjectID _ _, _ => .responded ⟨200, subjectBody subjectID⟩

/-- `SubjectExists` and the checks of `ModifyTrust` after it. -/
def checkSubject {Document : Type*} (validators : Validators)
    (store : TrustStore Document) (fault : Option GoError)
    (subjectID : SubjectID) (body : Option ModifyBody) :
    GatewayStage :=
  match subjectExists store fault subjectID with
  | .error _ => .responded (internalError "failed to check subject existence")
  | .ok false => .responded ⟨404, "subject " ++ subjectID ++ " not found"⟩
  | .ok true =>
    match validateModification validators body with
    | .error response => .responded response
    | .ok _ => .readingTrust

/-- The registry write and what follows it. -/
def afterRegistration (body : RegisterBody) : GatewayStage :=
  match body.scannerJWK with
  | none => .responded ⟨201, subjectBody body.subjectID⟩
  | some _ => .storingJWK

/-- Every handler step has this form: an error ends the handler with a fixed
outcome, whatever the error is. -/
def unlessFailed {Value Outcome : Type*} (failure : Outcome)
    (proceed : Value → Outcome) : Except GoError Value → Outcome
  | .error _ => failure
  | .ok value => proceed value

section Stages

variable {Document : Type*} (codec : TrustCodec Document)
variable (store : TrustStore Document) (fault : Option GoError)

def AdminCall.readTrust (call : AdminCall) : GatewayStage :=
  unlessFailed (.responded call.trustFailure) .writingTrust
    (readTrustRevision store fault call.subjectID)

def AdminCall.writeTrust (call : AdminCall) (revision : Option ℕ) :
    TrustStore Document × GatewayStage :=
  unlessFailed (store, .responded call.trustFailure)
    (fun next => (next, call.afterTrust))
    (Trust.writeTrust codec store fault call.subjectID call.trustedPublishers
      revision)

def RegisterBody.register (body : RegisterBody) :
    TrustStore Document × GatewayStage :=
  unlessFailed
    (store, .responded (internalError "failed to register subject"))
    (fun next => (next, afterRegistration body))
    (Trust.registerSubject store fault body.subjectID)

def RegisterBody.storeKey (body : RegisterBody) (scanner : ScannerJWK) :
    TrustStore Document × GatewayStage :=
  unlessFailed
    (store, .responded (internalError "failed to store scanner JWK"))
    (fun next => (next, .responded ⟨201, subjectBody body.subjectID⟩))
    (storeJWK store fault (scannerIssuerID body.trustedPublishers)
      scanner.jwk scanner.notAfter)

/-- One request of the handler to the trust store, with the failure injected
into it, if any. -/
def AdminCall.advance (validators : Validators) (call : AdminCall)
    (stage : GatewayStage) : Option (TrustStore Document × GatewayStage) :=
  match stage, call with
  | .checkingSubject, .modifyTrust subjectID body _ =>
    some (store, checkSubject validators store fault subjectID body)
  | .readingTrust, call => some (store, call.readTrust store fault)
  | .writingTrust revision, call =>
    some (call.writeTrust codec store fault revision)
  | .registering, .registerSubject (some body) _ =>
    some (body.register store fault)
  | .storingJWK, .registerSubject (some body) _ =>
    body.scannerJWK.map (body.storeKey store fault)
  | _, _ => none

/-- The store performs the request, but its reply is lost and the handler sees
a failure. -/
def AdminCall.unanswered (err : GoError) (validators : Validators)
    (call : AdminCall) (stage : GatewayStage) :
    Option (TrustStore Document × GatewayStage) :=
  (call.advance codec store none validators stage).bind fun performed =>
    (call.advance codec store (some err) validators stage).map fun failed =>
      (performed.1, failed.2)

end Stages

variable {body : RegisterBody} {err : GoError}

theorem validSubjectID_of_validateRegistration {validators : Validators}
    {input : Option RegisterBody}
    (hvalid : validateRegistration validators input = .ok body) :
    input = some body ∧ ValidSubjectID body.subjectID := by
  cases input with
  | none => simp [validateRegistration] at hvalid
  | some given =>
    simp only [validateRegistration] at hvalid
    split at hvalid
    · cases hvalid
    · cases hsubject : validateSubjectID given.subjectID with
      | error err => simp [hsubject] at hvalid
      | ok checked =>
        simp only [hsubject] at hvalid
        split at hvalid
        · cases hvalid
        · split at hvalid
          · cases hvalid
          · split at hvalid
            · cases hvalid
            · obtain rfl : given = body := by simpa using hvalid
              exact ⟨rfl, hsubject⟩

/-- The stages a registration reaches only after the locker's reply. -/
def GatewayStage.pastLocker : GatewayStage → Bool
  | .readingTrust => true
  | .writingTrust _ => true
  | .registering => true
  | .storingJWK => true
  | _ => false

section Advance

variable {Document : Type*} {codec : TrustCodec Document}
variable {validators : Validators} {store next : TrustStore Document}
variable {fault : Option GoError} {stage after : GatewayStage}

/-- A lost reply combines the store of the success with the outcome of the
failure. -/
theorem unanswered_eq_some {call : AdminCall}
    (hunanswered : call.unanswered codec store err validators stage =
      some (next, after)) :
    (∃ stages, call.advance codec store none validators stage =
      some (next, stages)) ∧
    ∃ stores, call.advance codec store (some err) validators stage =
      some (stores, after) := by
  obtain ⟨performed, hperformed, hmap⟩ := Option.bind_eq_some_iff.mp hunanswered
  obtain ⟨failed, hfailed, heq⟩ := Option.map_eq_some_iff.mp hmap
  obtain ⟨rfl, rfl⟩ := Prod.mk.inj heq
  exact ⟨⟨performed.2, hperformed⟩, failed.1, hfailed⟩

end Advance

/-! ## Outcomes of one request -/

/-- A response that reports a failure. -/
def Response.Failed (response : Response) : Prop :=
  response.status ≠ 200 ∧ response.status ≠ 201

section Outcomes

variable {Document : Type*}

/-- The store after `SetPublisherTrust` of the handler. -/
def AdminCall.trustWritten (codec : TrustCodec Document) (call : AdminCall)
    (store : TrustStore Document) : TrustStore Document :=
  { store with
    publisherKV := store.publisherKV.write (subjectKey call.subjectID)
      (codec.marshal call.trustedPublishers) }

/-- What one request of a handler to the trust store can lead to, whether it is
served, refused, or served without an answer. -/
inductive Outcome (codec : TrustCodec Document) (call : AdminCall)
    (store : TrustStore Document) :
    GatewayStage → TrustStore Document → GatewayStage → Prop
  | found {subjectID : SubjectID} {body : ModifyBody}
      {operator : PublisherIdentity}
      (hcall : call = .modifyTrust subjectID (some body) operator)
      (hregistered : Registered store subjectID) :
      Outcome codec call store .checkingSubject store .readingTrust
  | refused {stage : GatewayStage} {response : Response}
      (hstage : stage.pastLocker = true ∨ stage = .checkingSubject)
      (hfailed : Response.Failed response) :
      Outcome codec call store stage store (.responded response)
  | read {revision : Option ℕ} :
      Outcome codec call store .readingTrust store (.writingTrust revision)
  | written {revision : Option ℕ} {after : GatewayStage}
      (hafter : after = call.afterTrust ∨
        after = .responded call.trustFailure) :
      Outcome codec call store (.writingTrust revision)
        (call.trustWritten codec store) after
  | registered {body : RegisterBody} {operator : PublisherIdentity}
      {after : GatewayStage}
      (hcall : call = .registerSubject (some body) operator)
      (hafter : after = afterRegistration body ∨
        ∃ response, Response.Failed response ∧ after = .responded response) :
      Outcome codec call store .registering
        { store with subjectKV := store.subjectKV.write body.subjectID () }
        after
  | keyStored {body : RegisterBody} {operator : PublisherIdentity}
      {scanner : ScannerJWK} {response : Response}
      (hcall : call = .registerSubject (some body) operator)
      (hresponse : response = ⟨201, subjectBody body.subjectID⟩ ∨
        Response.Failed response) :
      Outcome codec call store .storingJWK
        { store with
          jwkKV := store.jwkKV.write (scannerIssuerID body.trustedPublishers)
            ⟨scanner.jwk, scanner.notAfter⟩ }
        (.responded response)

variable {codec : TrustCodec Document} {validators : Validators}
  {call : AdminCall} {store next : TrustStore Document}
  {fault : Option GoError} {stage after : GatewayStage}

theorem failed_badRequest (body : String) :
    Response.Failed (badRequest body) :=
  ⟨by simp [badRequest], by simp [badRequest]⟩

variable {response : Response}

theorem failed_of_badRequest {Value : Type} {body : String}
    (hrefused : (.error (badRequest body) : Except Response Value) =
      .error response) : Response.Failed response := by
  obtain rfl := Except.error.inj hrefused
  exact failed_badRequest body

theorem failed_internalError (body : String) :
    Response.Failed (internalError body) :=
  ⟨by simp [internalError], by simp [internalError]⟩

theorem failed_trustFailure (call : AdminCall) :
    Response.Failed call.trustFailure := by
  cases call with
  | registerSubject input operator => exact failed_internalError _
  | modifyTrust subjectID body operator => exact failed_internalError _

/-- A registration goes on after a reply without an error; every other end of
the wait for the locker is a response. -/
theorem hear_cases (call : AdminCall) (hearing : Hearing) :
    (hearing = .reply "" ∧ call.hear hearing = .readingTrust) ∨
      ∃ response, call.hear hearing = .responded response ∧
        (Response.Failed response ∨ ∃ subjectID body operator,
          call = .modifyTrust subjectID body operator) := by
  cases call with
  | modifyTrust subjectID body operator =>
    exact .inr ⟨_, rfl, .inr ⟨_, _, _, rfl⟩⟩
  | registerSubject input operator =>
    cases hearing with
    | failed err => exact .inr ⟨_, rfl, .inl (failed_internalError _)⟩
    | undecodable err => exact .inr ⟨_, rfl, .inl (failed_internalError _)⟩
    | reply error =>
      by_cases hempty : error = ""
      · subst hempty
        exact .inl ⟨rfl, rfl⟩
      · exact .inr ⟨_, if_neg hempty, .inl (failed_internalError _)⟩

theorem failed_of_checkTrustEntries {describe : TrustEntry → GoError → String}
    {publishers : List TrustEntry}
    (hrefused : checkTrustEntries validators describe publishers =
      .error response) : Response.Failed response := by
  induction publishers with
  | nil => cases hrefused
  | cons entry publishers ih =>
    unfold checkTrustEntries at hrefused
    split at hrefused
    · cases hrefused
    · split at hrefused
      · exact failed_of_badRequest hrefused
      · exact ih hrefused

theorem failed_of_checkScannerJWK
    (hrefused : checkScannerJWK validators body = .error response) :
    Response.Failed response := by
  unfold checkScannerJWK at hrefused
  split at hrefused
  · cases hrefused
  · split at hrefused
    · exact failed_of_badRequest hrefused
    · split at hrefused
      · exact failed_of_badRequest hrefused
      · exact failed_of_badRequest hrefused
      · cases hrefused

theorem failed_of_validateRegistration {input : Option RegisterBody}
    (hrefused : validateRegistration validators input = .error response) :
    Response.Failed response := by
  cases input with
  | none => exact failed_of_badRequest hrefused
  | some body =>
    simp only [validateRegistration] at hrefused
    split at hrefused
    · exact failed_of_badRequest hrefused
    · split at hrefused
      · exact failed_of_badRequest hrefused
      · split at hrefused
        · exact failed_of_badRequest hrefused
        · split at hrefused
          · rename_i hscanner
            obtain rfl := Except.error.inj hrefused
            exact failed_of_checkScannerJWK hscanner
          · split at hrefused
            · rename_i hentries
              obtain rfl := Except.error.inj hrefused
              exact failed_of_checkTrustEntries hentries
            · cases hrefused

/-- A registration that passes validation calls the locker, a trust modification
checks its subject, and everything else is refused. -/
theorem begin_cases (validators : Validators) (call : AdminCall) :
    (∃ response, Response.Failed response ∧
        call.begin validators = .responded response) ∨
      (∃ body operator, call = .registerSubject (some body) operator ∧
        ValidSubjectID body.subjectID ∧
        call.begin validators = .requesting) ∨
      ∃ subjectID body operator,
        call = .modifyTrust subjectID body operator ∧
        ValidSubjectID subjectID ∧
        call.begin validators = .checkingSubject := by
  cases call with
  | registerSubject input operator =>
    simp only [AdminCall.begin]
    cases hvalid : validateRegistration validators input with
    | error response =>
      exact .inl ⟨response, failed_of_validateRegistration hvalid, rfl⟩
    | ok body =>
      obtain ⟨rfl, hsubject⟩ := validSubjectID_of_validateRegistration hvalid
      exact .inr (.inl ⟨body, operator, rfl, hsubject, rfl⟩)
  | modifyTrust subjectID body operator =>
    simp only [AdminCall.begin]
    cases hvalid : validateSubjectID subjectID with
    | error err => exact .inl ⟨_, failed_badRequest _, rfl⟩
    | ok checked =>
      exact .inr (.inr ⟨subjectID, body, operator, rfl, hvalid, rfl⟩)

/-- `ModifyTrust` goes on only for a registered subject and a decoded list. -/
theorem checkSubject_cases (validators : Validators)
    (store : TrustStore Document) (fault : Option GoError)
    (subjectID : SubjectID) (body : Option ModifyBody) :
    (∃ response, Response.Failed response ∧
        checkSubject validators store fault subjectID body =
          .responded response) ∨
      (checkSubject validators store fault subjectID body =
          .readingTrust ∧
        Registered store subjectID ∧ ∃ decoded, body = some decoded) := by
  unfold checkSubject
  split
  · exact .inl ⟨_, failed_internalError _, rfl⟩
  · exact .inl ⟨_, ⟨by simp, by simp⟩, rfl⟩
  · rename_i hexists
    cases body with
    | none => exact .inl ⟨_, failed_badRequest _, rfl⟩
    | some decoded =>
      simp only [validateModification]
      cases hentries : checkTrustEntries validators
          describeModificationEntry (decoded.trustedPublishers.getD []) with
      | error response =>
        exact .inl ⟨_, failed_of_checkTrustEntries hentries, rfl⟩
      | ok checked =>
        exact .inr ⟨rfl, registered_of_subjectExists hexists, decoded, rfl⟩

theorem outcome_checkSubject (subjectID : SubjectID)
    (body : Option ModifyBody) (operator : PublisherIdentity) :
    Outcome codec (.modifyTrust subjectID body operator) store
      .checkingSubject store
      (checkSubject validators store fault subjectID body) := by
  rcases checkSubject_cases validators store fault subjectID body with
    ⟨response, hfailed, hstage⟩ | ⟨hstage, hregistered, decoded, rfl⟩
  · rw [hstage]
    exact .refused (.inr rfl) hfailed
  · rw [hstage]
    exact .found rfl hregistered

theorem outcome_readTrust :
    Outcome codec call store .readingTrust store
      (call.readTrust store fault) := by
  unfold AdminCall.readTrust
  cases readTrustRevision store fault call.subjectID with
  | error err => exact .refused (.inl rfl) (failed_trustFailure call)
  | ok revision => exact .read

theorem outcome_writeTrust {revision : Option ℕ} :
    Outcome codec call store (.writingTrust revision)
      (call.writeTrust codec store fault revision).1
      (call.writeTrust codec store fault revision).2 := by
  unfold AdminCall.writeTrust
  cases hwrite : Trust.writeTrust codec store fault call.subjectID
      call.trustedPublishers revision with
  | error err => exact .refused (.inl rfl) (failed_trustFailure call)
  | ok written =>
    obtain ⟨-, rfl⟩ := writeTrust_eq_ok hwrite
    exact .written (.inl rfl)

theorem outcome_register {operator : PublisherIdentity}
    (hcall : call = .registerSubject (some body) operator) :
    Outcome codec call store .registering (body.register store fault).1
      (body.register store fault).2 := by
  unfold RegisterBody.register
  cases hwrite : Trust.registerSubject store fault body.subjectID with
  | error err => exact .refused (.inl rfl) (failed_internalError _)
  | ok written =>
    obtain rfl := registerSubject_eq_ok hwrite
    exact .registered hcall (.inl rfl)

theorem outcome_storeKey {operator : PublisherIdentity}
    (hcall : call = .registerSubject (some body) operator)
    (scanner : ScannerJWK) :
    Outcome codec call store .storingJWK
      (body.storeKey store fault scanner).1
      (body.storeKey store fault scanner).2 := by
  unfold RegisterBody.storeKey
  cases hwrite : storeJWK store fault (scannerIssuerID body.trustedPublishers)
      scanner.jwk scanner.notAfter with
  | error err => exact .refused (.inl rfl) (failed_internalError _)
  | ok written =>
    obtain rfl := storeJWK_eq_ok hwrite
    exact .keyStored hcall (.inl rfl)

theorem outcome_of_advance
    (hadvance : call.advance codec store fault validators stage =
      some (next, after)) : Outcome codec call store stage next after := by
  unfold AdminCall.advance at hadvance
  split at hadvance
  · obtain ⟨rfl, rfl⟩ := Prod.mk.inj (Option.some.inj hadvance)
    exact outcome_checkSubject _ _ _
  · obtain ⟨rfl, rfl⟩ := Prod.mk.inj (Option.some.inj hadvance)
    exact outcome_readTrust
  · obtain ⟨rfl, rfl⟩ := Prod.ext_iff.mp (Option.some.inj hadvance)
    exact outcome_writeTrust
  · obtain ⟨rfl, rfl⟩ := Prod.ext_iff.mp (Option.some.inj hadvance)
    exact outcome_register rfl
  · obtain ⟨scanner, -, hstored⟩ := Option.map_eq_some_iff.mp hadvance
    obtain ⟨rfl, rfl⟩ := Prod.ext_iff.mp hstored
    exact outcome_storeKey rfl scanner
  · cases hadvance

theorem checkSubject_of_fault (validators : Validators)
    (store : TrustStore Document) (err : GoError) (subjectID : SubjectID)
    (body : Option ModifyBody) :
    ∃ response, Response.Failed response ∧
      checkSubject validators store (some err) subjectID body =
        .responded response := by
  obtain ⟨refusal, hrefusal⟩ := get_of_fault store.subjectKV err subjectID
  unfold checkSubject subjectExists
  rw [hrefusal]
  by_cases hnotFound : refusal.isKeyNotFound = true
  · simp only [hnotFound, if_true]
    exact ⟨_, ⟨by simp, by simp⟩, rfl⟩
  · simp only [hnotFound]
    exact ⟨_, failed_internalError _, rfl⟩

/-- A refused request ends the handler; only a read whose failure says that the
key is absent goes on. -/
theorem after_of_fault {stores : TrustStore Document}
    (hadvance : call.advance codec store (some err) validators stage =
      some (stores, after)) :
    (∃ response, Response.Failed response ∧ after = .responded response ∧
        ∀ revision, stage = .writingTrust revision →
          response = call.trustFailure) ∨
      (stage = .readingTrust ∧ ∃ revision, after = .writingTrust revision) := by
  unfold AdminCall.advance at hadvance
  split at hadvance
  · obtain ⟨-, rfl⟩ := Prod.mk.inj (Option.some.inj hadvance)
    rename_i subjectID body operator
    obtain ⟨response, hfailed, hstage⟩ :=
      checkSubject_of_fault validators store err subjectID body
    exact .inl ⟨response, hfailed, hstage, fun _ hwriting => by cases hwriting⟩
  · obtain ⟨-, rfl⟩ := Prod.mk.inj (Option.some.inj hadvance)
    unfold AdminCall.readTrust
    cases readTrustRevision store (some err) call.subjectID with
    | error refusal => exact .inl ⟨_, failed_trustFailure call, rfl,
        fun _ hwriting => by cases hwriting⟩
    | ok revision => exact .inr ⟨rfl, revision, rfl⟩
  · rename_i revision
    obtain ⟨-, rfl⟩ := Prod.ext_iff.mp (Option.some.inj hadvance)
    obtain ⟨refusal, hrefusal⟩ := writeTrust_of_fault codec store err
      call.subjectID call.trustedPublishers revision
    unfold AdminCall.writeTrust
    rw [hrefusal]
    exact .inl ⟨_, failed_trustFailure call, rfl, fun _ _ => rfl⟩
  · rename_i body operator
    obtain ⟨-, rfl⟩ := Prod.ext_iff.mp (Option.some.inj hadvance)
    obtain ⟨refusal, hrefusal⟩ :=
      registerSubject_of_fault store err body.subjectID
    unfold RegisterBody.register
    rw [hrefusal]
    exact .inl ⟨_, failed_internalError _, rfl,
      fun _ hwriting => by cases hwriting⟩
  · rename_i body operator
    obtain ⟨scanner, -, hstored⟩ := Option.map_eq_some_iff.mp hadvance
    obtain ⟨-, rfl⟩ := Prod.ext_iff.mp hstored
    obtain ⟨refusal, hrefusal⟩ := storeJWK_of_fault store err
      (scannerIssuerID body.trustedPublishers) scanner.jwk scanner.notAfter
    unfold RegisterBody.storeKey
    rw [hrefusal]
    exact .inl ⟨_, failed_internalError _, rfl,
      fun _ hwriting => by cases hwriting⟩
  · cases hadvance

/-- A lost reply leaves the store of a served request and the outcome of a
refused one. -/
theorem outcome_of_unanswered
    (hunanswered : call.unanswered codec store err validators stage =
      some (next, after)) : Outcome codec call store stage next after := by
  obtain ⟨⟨stages, hperformed⟩, stores, hfailed⟩ :=
    unanswered_eq_some hunanswered
  rcases after_of_fault hfailed with
    ⟨response, hresponse, rfl, hwriting⟩ | ⟨rfl, revision, rfl⟩
  · cases outcome_of_advance hperformed with
    | found _ _ => exact .refused (.inr rfl) hresponse
    | refused hstage _ => exact .refused hstage hresponse
    | read => exact .refused (.inl rfl) hresponse
    | written _ => exact .written (.inr (by rw [hwriting _ rfl]))
    | registered hcall _ =>
      exact .registered hcall (.inr ⟨response, hresponse, rfl⟩)
    | keyStored hcall _ => exact .keyStored hcall (.inr hresponse)
  · obtain ⟨rfl, -⟩ := Prod.mk.inj (Option.some.inj hperformed)
    exact .read

/-- Only a trust modification that has written its list sends a request to the
locker after talking to the store. -/
theorem Outcome.requesting
    (houtcome : Outcome codec call store stage next .requesting) :
    (∃ revision, stage = .writingTrust revision) ∧
      ∃ subjectID body operator,
        call = .modifyTrust subjectID body operator := by
  generalize hafter : GatewayStage.requesting = sent at houtcome
  cases houtcome with
  | found _ _ => cases hafter
  | refused _ _ => cases hafter
  | read => cases hafter
  | written hwritten =>
    refine ⟨⟨_, rfl⟩, ?_⟩
    subst hafter
    rcases hwritten with hnext | hfailed
    · cases call with
      | registerSubject input operator => cases hnext
      | modifyTrust subjectID body operator => exact ⟨_, _, _, rfl⟩
    · cases hfailed
  | @registered body _ _ _ hregistered =>
    subst hafter
    rcases hregistered with hnext | ⟨_, -, hfailed⟩
    · unfold afterRegistration at hnext
      split at hnext <;> cases hnext
    · cases hfailed
  | keyStored _ _ => cases hafter

section

variable (houtcome : Outcome codec call store stage next after)

include houtcome

/-- Past the locker a handler has come from the check of the subject or was
there before. -/
theorem Outcome.pastLocker (hpast : after.pastLocker = true) :
    stage = .checkingSubject ∨ stage.pastLocker = true := by
  cases houtcome with
  | found _ _ => exact .inl rfl
  | refused _ _ => cases hpast
  | _ => exact .inr rfl

/-- A handler gets past the locker, or back to it, from there or from a
registered subject. -/
theorem started_of_outcome
    (hafter : after.pastLocker = true ∨ after = .requesting) :
    stage.pastLocker = true ∨ Registered store call.subjectID := by
  cases houtcome with
  | found hcall hregistered =>
    subst hcall
    exact .inr hregistered
  | refused _ _ => simp [GatewayStage.pastLocker] at hafter
  | _ => exact .inl rfl

/-- The registry grows only in the registering stage of a registration, and
only by its own subject. -/
theorem registered_before_outcome {subjectID : SubjectID}
    (hregistered : Registered next subjectID) :
    Registered store subjectID ∨
      (stage = .registering ∧ subjectID = call.subjectID ∧
        ∃ body operator, call = .registerSubject (some body) operator) := by
  cases houtcome with
  | @registered body operator _ hcall _ =>
    subst hcall
    unfold Registered at hregistered ⊢
    by_cases heq : subjectID = body.subjectID
    · exact .inr ⟨rfl, heq, body, operator, rfl⟩
    · rw [entries_write_of_ne _ _ heq] at hregistered
      exact .inl hregistered
  | _ => exact .inl hregistered

/-- No request to the trust store is made once the handler waits for the locker
or has answered. -/
theorem not_waiting_of_outcome :
    stage ≠ .requesting ∧ ∀ response, stage ≠ .responded response := by
  cases houtcome with
  | refused hstage _ =>
    rcases hstage with hpast | rfl
    · cases stage <;> simp_all [GatewayStage.pastLocker]
    · simp
  | _ => simp

end

end Outcomes

end ComplyTime.GatewayAdmin
