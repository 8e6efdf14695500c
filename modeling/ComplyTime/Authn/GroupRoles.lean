import ComplyTime.Authn.OwnTokens

/-!
# Roles of the configured groups

A configured group name goes unchanged into the set of groups the OIDC issuer
reports and into the request context the policies compare with.  The groups of
a token are lowered first.  A name therefore grants its role exactly when it is
in lower case itself; scopes, and for auditors the group of the administrators,
grant the same actions beside it.
-/

namespace ComplyTime.Authn

open Authz Cedar

/-- The claim at the end of a path; the empty path leads nowhere. -/
def claimAt (claims : List (String × Json)) (dotPath : String) :
    Option Json :=
  if dotPath = "" then none
  else walkClaims (.obj claims)
    ((dotPath.toList.splitOn '.').map String.ofList)

/-- The scope claim of a token names the scope. -/
def NamesScope (claims : List (String × Json)) (scope : String) : Prop :=
  ∃ scopes, Json.member "scope" claims = some (.str scopes) ∧
    scope ∈ fields scopes

/-- The claim at the path is an array with a string that lowers to the
group. -/
def NamesGroup {KeySet : Type*} (library : Library KeySet)
    (claims : List (String × Json)) (dotPath group : String) : Prop :=
  ∃ items name, claimAt claims dotPath = some (.arr items) ∧
    .str name ∈ items ∧ library.toLower name = group

variable {claims : List (String × Json)}

theorem mem_extractScopes_iff {scope : String} (hknown : scope ∈ knownScopes) :
    scope ∈ extractScopes claims ↔ NamesScope claims scope := by
  unfold extractScopes NamesScope
  split
  · rename_i scopes hmember
    simp [hmember, hknown]
  · rename_i hmember
    simp only [List.not_mem_nil, false_iff]
    rintro ⟨scopes, hscopes, -⟩
    exact hmember scopes hscopes

theorem mem_extractClaimByPath_iff {dotPath name : String} :
    name ∈ extractClaimByPath claims dotPath ↔
      ∃ items, claimAt claims dotPath = some (.arr items) ∧
        .str name ∈ items := by
  have hitem : ∀ item : Json, stringItem item = some name ↔
      item = .str name := by
    intro item
    cases item <;> simp [stringItem]
  unfold extractClaimByPath claimAt
  by_cases hempty : dotPath = ""
  · simp [hempty]
  · rw [if_neg hempty, if_neg hempty]
    split
    · rename_i items hclaim
      simp [hclaim, hitem]
    · rename_i hclaim
      simp only [List.not_mem_nil, false_iff]
      rintro ⟨items, hitems, -⟩
      exact hclaim items hitems

theorem mem_extractGroups_iff {KeySet : Type*} {library : Library KeySet}
    {groupClaim group : String} {knownGroups : List String}
    (hknown : group ∈ knownGroups) :
    group ∈ extractGroups library claims groupClaim knownGroups ↔
      NamesGroup library claims groupClaim group := by
  rw [extractGroups, List.mem_filter, List.contains_iff_mem,
    and_iff_left hknown, List.mem_map]
  simp only [mem_extractClaimByPath_iff]
  constructor
  · rintro ⟨name, ⟨items, hclaim, hmem⟩, hlowered⟩
    exact ⟨items, name, hclaim, hmem, hlowered⟩
  · rintro ⟨items, name, hclaim, hmem, hlowered⟩
    exact ⟨name, ⟨items, hclaim, hmem⟩, hlowered⟩

/-! ## Roles -/

inductive GroupRole
  | admin
  | auditor
  deriving DecidableEq, Repr

/-- The configured name of the role's group. -/
def GroupRole.configured (config : OIDCConfig) : GroupRole → String
  | .admin => config.adminGroup
  | .auditor => config.auditorGroup

def GroupRole.actions : GroupRole → List EntityUID
  | .admin => [actionRequestRegistration, actionRequestTrustModification]
  | .auditor => [actionQueryEvidence, actionReadEvidence]

/-- What `main` hands to the middleware. -/
def OIDCConfig.middlewareConfig (config : OIDCConfig) : MiddlewareConfig :=
  ⟨config.adminGroup, config.auditorGroup⟩

/-- The claims grant the actions of the role without the role's own group:
through a scope, or through the group of the administrators for auditors. -/
def GroupRole.GrantedBeside {KeySet : Type*} (library : Library KeySet)
    (config : OIDCConfig) (claims : List (String × Json)) : GroupRole → Prop
  | .admin => NamesScope claims "complytime:admin"
  | .auditor => NamesScope claims "complytime:admin" ∨
      NamesScope claims "complytime:audit" ∨
      NamesGroup library claims config.groupClaim config.middlewareConfig.admin

/-- The check of the base policies for the actions of the role. -/
def GroupRole.admits (ctx : Context) (cfg : MiddlewareConfig) :
    GroupRole → Bool
  | .admin => ctx.admin cfg
  | .auditor => ctx.auditor cfg

theorem authorizeAction_iff_admits {role : GroupRole} {action : EntityUID}
    (haction : action ∈ role.actions) (trustLookup : Option TrustLookup)
    (cfg : MiddlewareConfig) (ctx : Context) :
    authorizeAction (ofDocument basePolicies) trustLookup cfg action ctx =
      .ok () ↔ role.admits ctx cfg = true := by
  have hfree : subjectFree action = true := by
    cases role <;>
      simp only [GroupRole.actions, List.mem_cons, List.not_mem_nil,
        or_false] at haction <;>
      rcases haction with rfl | rfl <;> decide
  obtain ⟨subjectID, hsubject⟩ :
      ∃ subjectID, resolveSubject action ctx = .ok subjectID := by
    by_cases hempty : ctx.subjectID = ""
    · exact ⟨"*", by simp [resolveSubject, hempty, hfree]⟩
    · exact ⟨ctx.subjectID, by simp [resolveSubject, hempty]⟩
  have hlookup : lookupTrust trustLookup action ctx subjectID = .ok false := by
    simp [lookupTrust, hfree]
  rw [authorizeAction_eq_ok_iff]
  simp only [hsubject, Except.ok.injEq, exists_and_left, exists_eq_left',
    hlookup, policies_ofDocument, authorize_basePolicies_iff]
  cases role with
  | admin =>
    have hother : action ≠ actionPublishArtifact ∧
        action ≠ actionQueryEvidence ∧ action ≠ actionReadEvidence := by
      simp only [GroupRole.actions, List.mem_cons, List.not_mem_nil,
        or_false] at haction
      rcases haction with rfl | rfl <;> decide
    simp only [GroupRole.actions, List.mem_cons, List.not_mem_nil,
      or_false] at haction
    simp [GroupRole.admits, hother, haction]
  | auditor =>
    have hother : action ≠ actionPublishArtifact ∧
        action ≠ actionRequestRegistration ∧
        action ≠ actionRequestTrustModification := by
      simp only [GroupRole.actions, List.mem_cons, List.not_mem_nil,
        or_false] at haction
      rcases haction with rfl | rfl <;> decide
    simp only [GroupRole.actions, List.mem_cons, List.not_mem_nil,
      or_false] at haction
    simp [GroupRole.admits, hother, haction]

/-! ## Groups of accepted tokens -/

section Accepted

variable {KeySet : Type*} {library : Library KeySet} {now : Time}
  {network : Network} {config : OIDCConfig} {oidc : OIDCIssuer}
  {tokenString audience : String} {token : Token} {principal : Principal}

/-- A principal has the scopes its token names. -/
theorem scopes_and_groups_of_accepted (hagrees : library.Agrees)
    (hbuilt : newOIDCIssuer network config = .ok oidc)
    (hpeeked : library.parseInsecure tokenString = .ok token)
    (hclaims : token.claims = .ok claims)
    (haccepted : oidc.authenticate library now tokenString audience =
      .ok principal) :
    (∀ scope ∈ knownScopes,
      scope ∈ principal.scopes ↔ NamesScope claims scope) ∧
    ∀ group ∈ config.knownGroups, group ∈ principal.groups ↔
      NamesGroup library claims config.groupClaim group := by
  obtain ⟨⟨parsed, sub⟩, hcached, rfl⟩ := map_eq_ok haccepted
  obtain ⟨⟨keys, hparse⟩, -⟩ := authenticateCached_eq_ok library now hcached
  have hsame := hagrees keys _ tokenString parsed hparse
  rw [hpeeked] at hsame
  obtain rfl := Except.ok.inj hsame
  obtain ⟨-, -, hgroupClaim, hknown⟩ := newOIDCIssuer_eq_ok hbuilt
  simp only [OIDCIssuer.principal, hclaims, hgroupClaim, hknown]
  refine ⟨fun scope hscope => mem_extractScopes_iff hscope, ?_⟩
  intro group hgroup
  by_cases hempty : config.groupClaim = ""
  · simp [hempty, NamesGroup, claimAt]
  · rw [if_neg hempty, mem_extractGroups_iff hgroup]

/-- For every configured group name, every accepted token whose group claim
contains the name up to case, both actions of the role, every subject and every
trust lookup: the principal is authorized exactly when the name is in lower
case or the token grants the actions beside the group. -/
theorem configured_group_grants_iff (hagrees : library.Agrees)
    (hlower : ∀ content,
      library.toLower (library.toLower content) = library.toLower content)
    (hbuilt : newOIDCIssuer network config = .ok oidc)
    (hpeeked : library.parseInsecure tokenString = .ok token)
    (hclaims : token.claims = .ok claims)
    (haccepted : oidc.authenticate library now tokenString audience =
      .ok principal)
    {role : GroupRole} (hconfigured : role.configured config ≠ "")
    {items : List Json} {name : String}
    (hclaim : claimAt claims config.groupClaim = some (.arr items))
    (hmem : .str name ∈ items)
    (hcase : library.toLower name = library.toLower (role.configured config))
    {action : EntityUID} (haction : action ∈ role.actions)
    (trustLookup : Option TrustLookup) (subjectID : String) :
    authorizeAction (ofDocument basePolicies) trustLookup
        config.middlewareConfig action
        ((principalContext principal).setSubjectIDContext subjectID) = .ok () ↔
      library.toLower (role.configured config) = role.configured config ∨
        role.GrantedBeside library config claims := by
  obtain ⟨hscopes, hgroups⟩ :=
    scopes_and_groups_of_accepted hagrees hbuilt hpeeked hclaims haccepted
  have hgroup : NamesGroup library claims config.groupClaim
      (role.configured config) ↔
      library.toLower (role.configured config) = role.configured config := by
    constructor
    · rintro ⟨-, found, -, -, hfound⟩
      rw [← hfound, hlower]
    · intro hlowered
      exact ⟨items, name, hclaim, hmem, hcase.trans hlowered⟩
  have hadmin := hgroups config.middlewareConfig.admin List.mem_cons_self
  have hauditor := hgroups config.middlewareConfig.auditor
    (List.mem_cons_of_mem _ List.mem_cons_self)
  have hadminScope := hscopes "complytime:admin" (by decide)
  have hauditScope := hscopes "complytime:audit" (by decide)
  rw [authorizeAction_iff_admits haction, ← hgroup]
  cases role with
  | admin =>
    have hname : config.middlewareConfig.admin = config.adminGroup :=
      if_neg hconfigured
    rw [hname] at hadmin
    change (decide ("complytime:admin" ∈ principal.scopes) ||
      decide (config.middlewareConfig.admin ∈ principal.groups)) = true ↔ _
    rw [hname, Bool.or_eq_true, decide_eq_true_iff, decide_eq_true_iff,
      hadminScope, hadmin]
    exact or_comm
  | auditor =>
    have hname : config.middlewareConfig.auditor = config.auditorGroup :=
      if_neg hconfigured
    rw [hname] at hauditor
    change (decide ("complytime:audit" ∈ principal.scopes) ||
      decide ("complytime:admin" ∈ principal.scopes) ||
      decide (config.middlewareConfig.auditor ∈ principal.groups) ||
      decide (config.middlewareConfig.admin ∈ principal.groups)) = true ↔ _
    rw [hname]
    simp only [Bool.or_eq_true, decide_eq_true_iff, hadminScope, hauditScope,
      hauditor, hadmin, GroupRole.configured, GroupRole.GrantedBeside]
    grind

end Accepted

/-! ## A group in lower case and one with capitals -/

def groupConfig (adminGroup : String) : OIDCConfig :=
  ⟨"https://id.example", "", "realm.groups", adminGroup, "", "audit"⟩

def groupOIDC (adminGroup : String) : OIDCIssuer :=
  ⟨"https://id.example", "https://id.example", "https://id.example/keys",
    "realm.groups", [adminGroup, "complytime-auditor"]⟩

def groupClaims : List (String × Json) :=
  [("realm", .obj [("groups", .arr [.str "Platform-Admins"])])]

def groupToken : Token :=
  { ownToken "https://id.example" with claims := .ok groupClaims }

def groupText : String := compactText
  ("eyJpc3MiOiJodHRwczovL2lkLmV4YW1wbGUiLCJzdWIiOiJqb2ItMSIsImF1ZCI6ImdhdGV3" ++
    "YXkiLCJyZWFsbSI6eyJncm91cHMiOlsiUGxhdGZvcm0tQWRtaW5zIl19fQ")

def groupTokens : List Signed := [⟨groupText, groupToken, [0]⟩]

def groupLibrary : Library Bytes := signedLibrary groupTokens

def groupMember (groups : List String) : Principal :=
  ⟨"https://id.example", "job-1", false, [], groups⟩

theorem readSigned_group : readSigned groupTokens groupText =
    .ok ⟨groupText, groupToken, [0]⟩ := by
  have hmem : (⟨groupText, groupToken, [0]⟩ : Signed) ∈ groupTokens :=
    List.mem_cons_self
  have hdistinct : (groupTokens.map Signed.tokenString).Nodup := by
    simp [groupTokens]
  have hread := readSigned_of_mem hdistinct hmem
  exact hread

theorem authenticate_group (adminGroup : String) :
    (groupOIDC adminGroup).authenticate groupLibrary 0 groupText "gateway" =
      .ok ((groupOIDC adminGroup).principal groupLibrary groupToken
        "job-1") := by
  have htimely : groupToken.timely
      (parseOptions "https://id.example" "gateway" 0) := by
    constructor <;> simp [groupToken, ownToken]
  rw [OIDCIssuer.authenticate, groupLibrary, groupOIDC,
    authenticateCached_signedLibrary readSigned_group rfl rfl (by decide)
      htimely]
  rfl

theorem toLower_toLower (character : Char) :
    character.toLower.toLower = character.toLower := by
  unfold Char.toLower
  split
  · rename_i hupper
    apply dif_neg
    rintro ⟨-, hle⟩
    have hbounds : 65 ≤ character.val.toNat ∧ character.val.toNat ≤ 90 := hupper
    have hsum : (character.val.toNat + 32) % 2 ^ 32 ≤ 90 := hle
    omega
  · rfl

theorem groupLibrary_lower (content : String) :
    groupLibrary.toLower (groupLibrary.toLower content) =
      groupLibrary.toLower content := by
  change String.ofList ((String.ofList
    (content.toList.map Char.toLower)).toList.map Char.toLower) = _
  rw [String.toList_ofList, List.map_map]
  congr 1
  apply List.map_congr_left
  intro character _
  exact toLower_toLower character

/-- Configured in lower case, the group makes its member an administrator. -/
theorem lower_case_group_grants :
    (groupOIDC "platform-admins").authenticate groupLibrary 0 groupText
      "gateway" = .ok (groupMember ["platform-admins"]) ∧
    ∀ action ∈ GroupRole.admin.actions, ∀ trustLookup subjectID,
      authorizeAction (ofDocument basePolicies) trustLookup
        (groupConfig "platform-admins").middlewareConfig action
        ((principalContext (groupMember
          ["platform-admins"])).setSubjectIDContext subjectID) = .ok () := by
  have hbuilt : newOIDCIssuer ownNetwork (groupConfig "platform-admins") =
      .ok (groupOIDC "platform-admins") := by rfl
  have hmember : (groupOIDC "platform-admins").principal groupLibrary
      groupToken "job-1" = groupMember ["platform-admins"] := by
    decide +kernel
  have haccepted := authenticate_group "platform-admins"
  rw [hmember] at haccepted
  have hclaim : claimAt groupClaims
      (groupConfig "platform-admins").groupClaim =
        some (.arr [.str "Platform-Admins"]) := by rfl
  have hne : GroupRole.admin.configured (groupConfig "platform-admins") ≠
      "" := by decide
  have hcase : groupLibrary.toLower "Platform-Admins" =
      groupLibrary.toLower (GroupRole.admin.configured
        (groupConfig "platform-admins")) := by decide +kernel
  have hlowered : groupLibrary.toLower (GroupRole.admin.configured
      (groupConfig "platform-admins")) =
        GroupRole.admin.configured (groupConfig "platform-admins") := by
    decide +kernel
  have hpeeked : groupLibrary.parseInsecure groupText = .ok groupToken :=
    parseInsecure_signedLibrary readSigned_group
  have hclaims : groupToken.claims = .ok groupClaims := rfl
  refine ⟨haccepted, fun action haction trustLookup subjectID => ?_⟩
  exact (configured_group_grants_iff (signedLibrary_agrees _)
    groupLibrary_lower hbuilt hpeeked hclaims haccepted hne hclaim
    List.mem_cons_self hcase haction trustLookup subjectID).mpr (.inl hlowered)

/-- Configured exactly as the token spells it, with capitals, the group grants
nothing. -/
theorem capitalized_group_refused :
    newOIDCIssuer ownNetwork (groupConfig "Platform-Admins") =
      .ok (groupOIDC "Platform-Admins") ∧
    (groupOIDC "Platform-Admins").authenticate groupLibrary 0 groupText
      "gateway" = .ok (groupMember []) ∧
    authorizeAction (ofDocument basePolicies) none
      (groupConfig "Platform-Admins").middlewareConfig
      actionRequestRegistration (principalContext (groupMember [])) =
        .error (forbidden "Forbidden") := by
  have hmember : (groupOIDC "Platform-Admins").principal groupLibrary
      groupToken "job-1" = groupMember [] := by decide +kernel
  refine ⟨by rfl, ?_, by decide +kernel⟩
  rw [authenticate_group, hmember]

end ComplyTime.Authn
