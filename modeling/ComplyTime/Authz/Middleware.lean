import ComplyTime.Authz.Policies
import ComplyTime.Messages

/-!
# The authorization middleware

The middleware reads the identity an earlier middleware has put into the
request context, maps the route to an action, looks up publisher trust for
publishing, and lets the policy set decide.  Values that no middleware has set
read as empty.
-/

namespace ComplyTime.Authz

open Cedar Subjects

/-! ## Request context -/

/-- The values under the package's context keys. -/
structure Context where
  issuer : String
  sub : String
  publisherFlag : Bool
  scopes : List String
  groups : List String
  subjectID : String
  deriving DecidableEq, Repr

def emptyContext : Context := ⟨"", "", false, [], [], ""⟩

def Context.setPublisherContext (ctx : Context) (issuer sub : String) :
    Context :=
  { ctx with issuer := issuer, sub := sub }

def Context.setPublisherFlagContext (ctx : Context) (isPublisher : Bool) :
    Context :=
  { ctx with publisherFlag := isPublisher }

def Context.setScopesContext (ctx : Context) (scopes : List String) :
    Context :=
  { ctx with scopes := scopes }

def Context.setGroupsContext (ctx : Context) (groups : List String) :
    Context :=
  { ctx with groups := groups }

def Context.setSubjectIDContext (ctx : Context) (subjectID : String) :
    Context :=
  { ctx with subjectID := subjectID }

/-! ## Routes -/

structure RouteMapping where
  method : String
  path : String
  action : EntityUID

def routeMappings : List RouteMapping :=
  [⟨"POST", "/api/ingest", actionPublishArtifact⟩,
   ⟨"GET", "/api/evidence", actionReadEvidence⟩,
   ⟨"POST", "/admin/subjects", actionRequestRegistration⟩,
   ⟨"PUT", "/admin/subjects/", actionRequestTrustModification⟩,
   ⟨"GET", "/api/subjects", actionQueryEvidence⟩,
   ⟨"GET", "/api/subjects/", actionQueryEvidence⟩,
   ⟨"GET", "/ledgers", actionReadEvidence⟩,
   ⟨"GET", "/ledgers/", actionReadEvidence⟩]

/-- Paths that end in a slash match as prefixes. -/
def RouteMapping.matches (mapping : RouteMapping) (method path : String) :
    Bool :=
  mapping.method == method &&
    if "/".toList.isSuffixOf mapping.path.toList then
      mapping.path.toList.isPrefixOf path.toList
    else mapping.path == path

def actionForRoute (method path : String) : Option EntityUID :=
  (routeMappings.find? fun mapping =>
    mapping.matches method path).map RouteMapping.action

def principalFromJWT (issuer sub : String) : EntityUID :=
  ⟨"Publisher", issuer ++ "::" ++ sub⟩

def subjectResource (subjectID : String) : EntityUID := ⟨"Subject", subjectID⟩

/-! ## Middleware -/

structure MiddlewareConfig where
  adminGroup : String
  auditorGroup : String

def MiddlewareConfig.admin (cfg : MiddlewareConfig) : String :=
  if cfg.adminGroup = "" then "complytime-admin" else cfg.adminGroup

def MiddlewareConfig.auditor (cfg : MiddlewareConfig) : String :=
  if cfg.auditorGroup = "" then "complytime-auditor" else cfg.auditorGroup

/-- The actions that need no subject and no trust lookup. -/
def subjectFree (action : EntityUID) : Bool :=
  action == actionRequestRegistration ||
    action == actionRequestTrustModification ||
    action == actionReadEvidence || action == actionQueryEvidence

def principalRecord (ctx : Context) : Record
  | "publisher" => some (.boolean ctx.publisherFlag)
  | "scopes" => some (.set ctx.scopes.toFinset)
  | "groups" => some (.set ctx.groups.toFinset)
  | "issuer" => some (.string ctx.issuer)
  | "sub" => some (.string ctx.sub)
  | _ => none

def resourceRecord (trusted : Bool) : Record
  | "publisher_trusted" => some (.boolean trusted)
  | _ => none

def contextRecord (cfg : MiddlewareConfig) : Record
  | "admin_group" => some (.string cfg.admin)
  | "auditor_group" => some (.string cfg.auditor)
  | _ => none

def cedarRequest (cfg : MiddlewareConfig) (ctx : Context)
    (action : EntityUID) (subjectID : String) (trusted : Bool) :
    Cedar.Request where
  principal := principalFromJWT ctx.issuer ctx.sub
  action := action
  resource := subjectResource subjectID
  context := contextRecord cfg
  entities := fun uid =>
    if uid = principalFromJWT ctx.issuer ctx.sub then
      some (principalRecord ctx)
    else if uid = subjectResource subjectID then some (resourceRecord trusted)
    else none

abbrev TrustLookup := SubjectID → String → String → Except GoError Bool

def forbidden (body : String) : Response := ⟨403, body⟩

/-- The subject the decision is about; `*` stands in where none is needed. -/
def resolveSubject (action : EntityUID) (ctx : Context) :
    Except Response String :=
  if ctx.subjectID = "" then
    if subjectFree action then .ok "*"
    else .error (forbidden "Forbidden: missing subject ID")
  else .ok ctx.subjectID

def lookupTrust (trustLookup : Option TrustLookup) (action : EntityUID)
    (ctx : Context) (subjectID : String) : Except Response Bool :=
  if subjectFree action then .ok false
  else match trustLookup with
  | none => .ok false
  | some lookup =>
    match lookup subjectID ctx.issuer ctx.sub with
    | .error _ => .error (forbidden "Forbidden: trust lookup failed")
    | .ok trusted => .ok trusted

/-- What follows once the route is mapped to an action. -/
def authorizeAction (policySet : PolicySet Cedar.Request)
    (trustLookup : Option TrustLookup) (cfg : MiddlewareConfig)
    (action : EntityUID) (ctx : Context) : Except Response Unit :=
  match resolveSubject action ctx with
  | .error response => .error response
  | .ok subjectID =>
    match lookupTrust trustLookup action ctx subjectID with
    | .error response => .error response
    | .ok trusted =>
      match authorize (PolicySet.policies policySet)
          (cedarRequest cfg ctx action subjectID trusted) with
      | .allow => .ok ()
      | .deny => .error (forbidden "Forbidden")

/-- `.ok` hands the request to the next handler. -/
def middleware (policySet : PolicySet Cedar.Request)
    (trustLookup : Option TrustLookup) (cfg : MiddlewareConfig)
    (method path : String) (ctx : Context) : Except Response Unit :=
  if ctx.issuer = "" ∨ ctx.sub = "" then .error ⟨401, "Unauthorized"⟩
  else match actionForRoute method path with
  | none => .error (forbidden "Forbidden: unmapped route")
  | some action => authorizeAction policySet trustLookup cfg action ctx

/-! ## Decisions of the base policies -/

section Decisions

variable {cfg : MiddlewareConfig} {ctx : Context} {action : EntityUID}
  {subjectID : String} {trusted : Bool}

theorem record_principal :
    (cedarRequest cfg ctx action subjectID trusted).record .principal =
      some (principalRecord ctx) := by
  simp [Request.record, cedarRequest]

theorem record_resource :
    (cedarRequest cfg ctx action subjectID trusted).record .resource =
      some (resourceRecord trusted) := by
  simp [Request.record, cedarRequest, principalFromJWT, subjectResource]

theorem holds_publisherTrusted :
    (isTrue .resource "publisher_trusted").holds
        (cedarRequest cfg ctx action subjectID trusted) = some trusted := by
  have hvalue : resourceRecord trusted "publisher_trusted" =
      some (.boolean trusted) := rfl
  rw [holds_isTrue record_resource hvalue]
  simp

theorem holds_publisher :
    (isTrue .principal "publisher").holds
        (cedarRequest cfg ctx action subjectID trusted) =
      some ctx.publisherFlag := by
  have hvalue : principalRecord ctx "publisher" =
      some (.boolean ctx.publisherFlag) := rfl
  rw [holds_isTrue record_principal hvalue]
  simp

theorem holds_hasScope (scope : String) :
    (hasScope scope).holds (cedarRequest cfg ctx action subjectID trusted) =
      some (decide (scope ∈ ctx.scopes)) := by
  have hscopes : (Expr.attribute .principal "scopes").eval
      (cedarRequest cfg ctx action subjectID trusted) =
        some (.set ctx.scopes.toFinset) := by
    simp only [Expr.eval, record_principal]
    rfl
  rw [hasScope, holds_contains hscopes rfl]
  simp

theorem holds_inGroup {name group : String}
    (hname : contextRecord cfg name = some (.string group)) :
    (inGroup name).holds (cedarRequest cfg ctx action subjectID trusted) =
      some (decide (group ∈ ctx.groups)) := by
  have hgroups : (Expr.attribute .principal "groups").eval
      (cedarRequest cfg ctx action subjectID trusted) =
        some (.set ctx.groups.toFinset) := by
    simp only [Expr.eval, record_principal]
    rfl
  have hgroup : (Expr.attribute .context name).eval
      (cedarRequest cfg ctx action subjectID trusted) =
        some (.string group) := hname
  rw [inGroup, holds_contains hgroups hgroup]
  simp

/-- The context names an administrator by a scope or by a group. -/
def Context.admin (ctx : Context) (cfg : MiddlewareConfig) : Bool :=
  decide ("complytime:admin" ∈ ctx.scopes) || decide (cfg.admin ∈ ctx.groups)

def Context.auditor (ctx : Context) (cfg : MiddlewareConfig) : Bool :=
  decide ("complytime:audit" ∈ ctx.scopes) ||
    decide ("complytime:admin" ∈ ctx.scopes) ||
    decide (cfg.auditor ∈ ctx.groups) || decide (cfg.admin ∈ ctx.groups)

theorem holds_isAdmin :
    isAdmin.holds (cedarRequest cfg ctx action subjectID trusted) =
      some (ctx.admin cfg) := by
  have hgroup : contextRecord cfg "admin_group" =
      some (.string cfg.admin) := rfl
  exact holds_or (holds_hasScope "complytime:admin") (holds_inGroup hgroup)

theorem holds_isAuditor :
    isAuditor.holds (cedarRequest cfg ctx action subjectID trusted) =
      some (ctx.auditor cfg) := by
  have hauditor : contextRecord cfg "auditor_group" =
      some (.string cfg.auditor) := rfl
  have hadmin : contextRecord cfg "admin_group" =
      some (.string cfg.admin) := rfl
  apply holds_or _ (holds_inGroup hadmin)
  apply holds_or _ (holds_inGroup hauditor)
  exact holds_or (holds_hasScope "complytime:audit")
    (holds_hasScope "complytime:admin")

theorem satisfied_publishPermit :
    publishPermit.satisfied (cedarRequest cfg ctx action subjectID trusted) =
        true ↔
      action = actionPublishArtifact ∧ ctx.publisherFlag = true ∧
        trusted = true := by
  rw [publishPermit, satisfied_permitWhen,
    holds_and holds_publisher holds_publisherTrusted]
  simp [cedarRequest]

theorem satisfied_floor_iff :
    publishFloor.satisfied (cedarRequest cfg ctx action subjectID trusted) =
        true ↔
      action = actionPublishArtifact ∧ trusted = false := by
  rw [publishFloor, satisfied_forbidUnless, holds_publisherTrusted]
  simp [cedarRequest]

theorem satisfied_permitWhen_holds {permitted : EntityUID} {condition : Expr}
    {value : Bool}
    (hholds : condition.holds (cedarRequest cfg ctx action subjectID
      trusted) = some value) :
    (permitWhen permitted condition).satisfied
        (cedarRequest cfg ctx action subjectID trusted) = true ↔
      action = permitted ∧ value = true := by
  rw [satisfied_permitWhen, hholds]
  simp [cedarRequest]

theorem forbids_basePolicies :
    fires .forbid basePolicies
        (cedarRequest cfg ctx action subjectID trusted) = true ↔
      action = actionPublishArtifact ∧ trusted = false := by
  have hfloor : publishFloor.effect = .forbid := rfl
  have hpermit : publishPermit.effect ≠ .forbid := by decide
  have hwhen : ∀ permitted condition,
      (permitWhen permitted condition).effect ≠ .forbid := by
    intro permitted condition hforbid
    cases hforbid
  rw [fires_iff]
  simp only [basePolicies, List.mem_cons, List.not_mem_nil, or_false,
    exists_eq_or_imp, exists_eq_left, hpermit, hfloor, hwhen, true_and,
    false_and, false_or, satisfied_floor_iff]

theorem permits_basePolicies :
    fires .permit basePolicies
        (cedarRequest cfg ctx action subjectID trusted) = true ↔
      (action = actionPublishArtifact ∧ ctx.publisherFlag = true ∧
        trusted = true) ∨
      ((action = actionRequestRegistration ∨
        action = actionRequestTrustModification) ∧ ctx.admin cfg = true) ∨
      ((action = actionQueryEvidence ∨ action = actionReadEvidence) ∧
        ctx.auditor cfg = true) := by
  have hpermit : publishPermit.effect = .permit := rfl
  have hfloor : publishFloor.effect ≠ .permit := by decide
  have hwhen : ∀ permitted condition,
      (permitWhen permitted condition).effect = .permit := fun _ _ => rfl
  rw [fires_iff]
  simp only [basePolicies, List.mem_cons, List.not_mem_nil, or_false,
    exists_eq_or_imp, exists_eq_left, hpermit, hfloor, hwhen, true_and,
    false_and, false_or, satisfied_publishPermit,
    satisfied_permitWhen_holds holds_isAdmin,
    satisfied_permitWhen_holds holds_isAuditor]
  tauto

/-- What the base policies allow: publishing to trusted publishers, the
administrative requests to administrators and evidence to auditors. -/
theorem authorize_basePolicies_iff :
    authorize basePolicies (cedarRequest cfg ctx action subjectID trusted) =
        .allow ↔
      (action = actionPublishArtifact ∧ ctx.publisherFlag = true ∧
        trusted = true) ∨
      ((action = actionRequestRegistration ∨
        action = actionRequestTrustModification) ∧ ctx.admin cfg = true) ∨
      ((action = actionQueryEvidence ∨ action = actionReadEvidence) ∧
        ctx.auditor cfg = true) := by
  rw [authorize_eq_allow_iff, permits_basePolicies, and_iff_right_iff_imp,
    ← Bool.not_eq_true, forbids_basePolicies]
  rintro (⟨-, -, htrusted⟩ | ⟨rfl | rfl, -⟩ | ⟨rfl | rfl, -⟩) ⟨haction, hfloor⟩
  · rw [htrusted] at hfloor
    cases hfloor
  all_goals exact absurd haction (by decide)

theorem authorize_publish_iff :
    authorize basePolicies
        (cedarRequest cfg ctx actionPublishArtifact subjectID trusted) =
      .allow ↔ ctx.publisherFlag = true ∧ trusted = true := by
  have hregistration : actionPublishArtifact ≠ actionRequestRegistration := by
    decide
  have hmodification :
      actionPublishArtifact ≠ actionRequestTrustModification := by decide
  have hquery : actionPublishArtifact ≠ actionQueryEvidence := by decide
  have hread : actionPublishArtifact ≠ actionReadEvidence := by decide
  rw [authorize_basePolicies_iff]
  simp [hregistration, hmodification, hquery, hread]

end Decisions

/-! ## Passing the middleware -/

section Passing

variable {policySet : PolicySet Cedar.Request} {cfg : MiddlewareConfig}
  {ctx : Context} {lookup : TrustLookup}

variable {trustLookup : Option TrustLookup}

theorem authorizeAction_eq_ok_iff {action : EntityUID} :
    authorizeAction policySet trustLookup cfg action ctx = .ok () ↔
      ∃ subjectID trusted, resolveSubject action ctx = .ok subjectID ∧
        lookupTrust trustLookup action ctx subjectID = .ok trusted ∧
        authorize (PolicySet.policies policySet)
          (cedarRequest cfg ctx action subjectID trusted) = .allow := by
  unfold authorizeAction
  cases resolveSubject action ctx with
  | error response => simp
  | ok subjectID =>
    simp only [Except.ok.injEq, exists_and_left, exists_eq_left']
    cases lookupTrust trustLookup action ctx subjectID with
    | error response => simp
    | ok trusted =>
      simp only [Except.ok.injEq, exists_eq_left']
      cases authorize (PolicySet.policies policySet)
          (cedarRequest cfg ctx action subjectID trusted) <;> simp

/-- A request passes when it is authenticated, its route is mapped and its
action is allowed. -/
theorem middleware_eq_ok_iff {method path : String} :
    middleware policySet trustLookup cfg method path ctx = .ok () ↔
      (ctx.issuer ≠ "" ∧ ctx.sub ≠ "") ∧
        ∃ action, actionForRoute method path = some action ∧
          authorizeAction policySet trustLookup cfg action ctx = .ok () := by
  unfold middleware
  rw [← not_or]
  by_cases hidentity : ctx.issuer = "" ∨ ctx.sub = ""
  · simp [hidentity]
  · rw [if_neg hidentity]
    cases actionForRoute method path with
    | none => simp
    | some action => simp [hidentity]

theorem authorized_of_middleware {method path : String}
    (hpassed : middleware policySet trustLookup cfg method path ctx = .ok ()) :
    ∃ action subjectID trusted, actionForRoute method path = some action ∧
      authorize (PolicySet.policies policySet)
        (cedarRequest cfg ctx action subjectID trusted) = .allow := by
  obtain ⟨-, action, hroute, hauthorized⟩ := middleware_eq_ok_iff.mp hpassed
  obtain ⟨subjectID, trusted, -, -, hallowed⟩ :=
    authorizeAction_eq_ok_iff.mp hauthorized
  exact ⟨action, subjectID, trusted, hroute, hallowed⟩

/-- Publishing is decided on the subject of the context and on what the lookup
says of it. -/
theorem middleware_publish_eq_ok_iff :
    middleware policySet (some lookup) cfg "POST" "/api/ingest" ctx =
        .ok () ↔
      (ctx.issuer ≠ "" ∧ ctx.sub ≠ "") ∧ ctx.subjectID ≠ "" ∧
        ∃ trusted, lookup ctx.subjectID ctx.issuer ctx.sub = .ok trusted ∧
          authorize (PolicySet.policies policySet) (cedarRequest cfg ctx
            actionPublishArtifact ctx.subjectID trusted) = .allow := by
  have hroute : actionForRoute "POST" "/api/ingest" =
      some actionPublishArtifact := by decide
  have hneeded : subjectFree actionPublishArtifact = false := by decide
  rw [middleware_eq_ok_iff, hroute]
  simp only [Option.some.injEq, exists_eq_left', authorizeAction_eq_ok_iff,
    resolveSubject, lookupTrust, hneeded, Bool.false_eq_true, if_false]
  by_cases hsubject : ctx.subjectID = ""
  · simp [hsubject]
  · simp only [hsubject, if_false, Except.ok.injEq, exists_and_left,
      exists_eq_left', ne_eq, not_false_eq_true, true_and]
    cases lookup ctx.subjectID ctx.issuer ctx.sub <;> simp

/-- Publishing passes the middleware when the context names a publisher and a
subject and the lookup finds the publisher trusted. -/
theorem middleware_publish_iff :
    middleware (ofDocument basePolicies) (some lookup) cfg "POST"
        "/api/ingest" ctx = .ok () ↔
      (ctx.issuer ≠ "" ∧ ctx.sub ≠ "") ∧ ctx.subjectID ≠ "" ∧
        ctx.publisherFlag = true ∧
        lookup ctx.subjectID ctx.issuer ctx.sub = .ok true := by
  rw [middleware_publish_eq_ok_iff, policies_ofDocument]
  simp only [authorize_publish_iff]
  apply and_congr_right'
  apply and_congr_right'
  constructor
  · rintro ⟨trusted, hlookup, hflag, rfl⟩
    exact ⟨hflag, hlookup⟩
  · rintro ⟨hflag, hlookup⟩
    exact ⟨true, hlookup, hflag, rfl⟩

/-- While the floor is among the policies, only publishers the lookup finds
trusted pass to publishing. -/
theorem trusted_of_middleware_publish
    (hfloor : publishFloor ∈ PolicySet.policies policySet)
    (hpassed : middleware policySet (some lookup) cfg "POST" "/api/ingest"
      ctx = .ok ()) :
    lookup ctx.subjectID ctx.issuer ctx.sub = .ok true := by
  obtain ⟨-, -, trusted, hlookup, hallowed⟩ :=
    middleware_publish_eq_ok_iff.mp hpassed
  cases trusted with
  | true => exact hlookup
  | false =>
    have hforbidden : publishFloor.satisfied (cedarRequest cfg ctx
        actionPublishArtifact ctx.subjectID false) = true :=
      satisfied_floor_iff.mpr ⟨rfl, rfl⟩
    rw [authorize_eq_deny_of_forbid hfloor rfl hforbidden] at hallowed
    cases hallowed

end Passing

end ComplyTime.Authz
