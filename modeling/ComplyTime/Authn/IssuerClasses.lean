import ComplyTime.Authn.Registry
import ComplyTime.Authn.SignedTokens

/-!
# Separation of the issuer classes

People come from the OIDC issuer and workloads from the publisher issuers and
the stored scanner keys.  Only people carry scopes and groups, and only
workloads carry the publisher flag, whatever the claims of a token say.  The
base policies read nothing else of a principal, so the two classes share no
action.
-/

namespace ComplyTime.Authn

open Authz Cedar Trust

variable {KeySet Document : Type*} {library : Library KeySet} {now : Time}
  {registry : IssuerRegistry} {store : TrustStore Document}
  {faults : StoreFaults} {authorization : String} {principal : Principal}

/-- The header carries a token that names the OIDC issuer. -/
def NamesOIDC (library : Library KeySet) (registry : IssuerRegistry)
    (authorization : String) : Prop :=
  ∃ tokenString, readToken library authorization =
    .ok (tokenString, registry.oidc.expectedIssuer)

/-- Some request of the principal to a route of the action passes the
middleware, on whatever subject and with whatever trust lookup. -/
def Authorized (cfg : MiddlewareConfig) (principal : Principal)
    (action : EntityUID) : Prop :=
  ∃ trustLookup method path subjectID,
    actionForRoute method path = some action ∧
      middleware (ofDocument basePolicies) trustLookup cfg method path
        ((principalContext principal).setSubjectIDContext subjectID) = .ok ()

variable {cfg : MiddlewareConfig}

theorem allowed_of_authorized {action : EntityUID}
    (hauthorized : Authorized cfg principal action) :
    ∃ ctx subjectID trusted, ctx.publisherFlag = principal.publisher ∧
      ctx.scopes = principal.scopes ∧ ctx.groups = principal.groups ∧
      authorize basePolicies (cedarRequest cfg ctx action subjectID trusted) =
        .allow := by
  obtain ⟨trustLookup, method, path, subjectID, hroute, hpassed⟩ := hauthorized
  obtain ⟨found, resource, trusted, hfound, hallowed⟩ :=
    authorized_of_middleware hpassed
  rw [hroute] at hfound
  rw [policies_ofDocument, ← Option.some.inj hfound] at hallowed
  exact ⟨_, resource, trusted, rfl, rfl, rfl, hallowed⟩

theorem Authorized.publishes {action : EntityUID}
    (hauthorized : Authorized cfg principal action)
    (hscopes : principal.scopes = []) (hgroups : principal.groups = []) :
    action = actionPublishArtifact := by
  obtain ⟨ctx, subjectID, trusted, -, hctxScopes, hctxGroups, hallowed⟩ :=
    allowed_of_authorized hauthorized
  rw [hscopes] at hctxScopes
  rw [hgroups] at hctxGroups
  have hadmin : ctx.admin cfg = false := by
    simp [Context.admin, hctxScopes, hctxGroups]
  have hauditor : ctx.auditor cfg = false := by
    simp [Context.auditor, hctxScopes, hctxGroups]
  rw [authorize_basePolicies_iff, hadmin, hauditor] at hallowed
  simp only [Bool.false_eq_true, and_false, or_false] at hallowed
  exact hallowed.1

theorem Authorized.publisher
    (hauthorized : Authorized cfg principal actionPublishArtifact) :
    principal.publisher = true := by
  obtain ⟨ctx, subjectID, trusted, hflag, -, -, hallowed⟩ :=
    allowed_of_authorized hauthorized
  rw [← hflag]
  exact (authorize_publish_iff.mp hallowed).1

/-- A token that names the OIDC issuer is left to it, also when a publisher is
configured under the same URL. -/
theorem NamesOIDC.publisher_eq_false
    (hoidc : NamesOIDC library registry authorization)
    (haccepted : (authenticate library now registry store faults
      authorization).1 = .ok principal) : principal.publisher = false := by
  obtain ⟨tokenString, hread⟩ := hoidc
  rw [authenticate_of_read hread, dispatch, if_pos rfl] at haccepted
  exact publisher_of_oidc library now haccepted

/-- Every accepted token belongs to one of the two classes.  A publisher has
neither scopes nor groups and is authorized for publishing alone; a principal
of the OIDC issuer is never authorized to publish. -/
theorem issuer_classes_separated
    (haccepted : (authenticate library now registry store faults
      authorization).1 = .ok principal) :
    ¬ (principal.publisher = true ∧
      (principal.scopes ≠ [] ∨ principal.groups ≠ [])) ∧
    (NamesOIDC library registry authorization ∨
      ∃ identity, PublisherClass library now registry store faults
        authorization identity) ∧
    (∀ identity, PublisherClass library now registry store faults
        authorization identity →
      ∀ cfg action, Authorized cfg principal action →
        action = actionPublishArtifact) ∧
    (NamesOIDC library registry authorization →
      ∀ cfg, ¬ Authorized cfg principal actionPublishArtifact) := by
  constructor
  · rintro ⟨hflag, hcarries⟩
    obtain ⟨identity, -, rfl⟩ := publisherClass_of_authenticate haccepted hflag
    exact hcarries.elim (fun hscopes => hscopes rfl) fun hgroups => hgroups rfl
  constructor
  · apply (authenticate_eq_ok haccepted).imp
    · rintro ⟨tokenString, hread, -⟩
      exact ⟨tokenString, hread⟩
    · rintro ⟨identity, hclass, -⟩
      exact ⟨identity, hclass⟩
  constructor
  · intro identity hclass cfg action hauthorized
    rw [hclass.authenticate_eq] at haccepted
    obtain rfl := Except.ok.inj haccepted
    exact hauthorized.publishes rfl rfl
  · intro hoidc cfg hauthorized
    have hflag := hoidc.publisher_eq_false haccepted
    rw [hauthorized.publisher] at hflag
    cases hflag

/-! ## Two tokens with forged claims -/

/-- Both tokens claim everything that the other class could carry. -/
def forgedClaims : List (String × Json) :=
  [("publisher", .bool true), ("scope", .str "complytime:admin openid"),
   ("groups", .arr [.str "complytime-admin"])]

def forgedToken (issuer : String) : Token where
  issuer := some issuer
  subject := some "mallory"
  issuedAt := none
  expiration := none
  jwtID := none
  claims := .ok forgedClaims

def personText : String := compactText
  ("eyJpc3MiOiJodHRwczovL2lkLmV4YW1wbGUiLCJzdWIiOiJtYWxsb3J5IiwiYXVkIjoiZ2F0" ++
    "ZXdheSIsInB1Ymxpc2hlciI6dHJ1ZSwic2NvcGUiOiJjb21wbHl0aW1lOmFkbWluIG9wZW5p" ++
    "ZCIsImdyb3VwcyI6WyJjb21wbHl0aW1lLWFkbWluIl19")

def workloadText : String := compactText
  ("eyJpc3MiOiJodHRwczovL2NpLmV4YW1wbGUiLCJzdWIiOiJtYWxsb3J5IiwiYXVkIjoiZ2F0" ++
    "ZXdheSIsInB1Ymxpc2hlciI6dHJ1ZSwic2NvcGUiOiJjb21wbHl0aW1lOmFkbWluIG9wZW5p" ++
    "ZCIsImdyb3VwcyI6WyJjb21wbHl0aW1lLWFkbWluIl19")

def forgedTokens : List Signed :=
  [⟨personText, forgedToken "https://id.example", [0]⟩,
    ⟨workloadText, forgedToken "https://ci.example", [0]⟩]

def forgedLibrary : Library Bytes := signedLibrary forgedTokens

/-- A publisher is configured under the URL of the OIDC issuer as well. -/
def overlappingRegistry : IssuerRegistry where
  oidc := ⟨"https://id.example", "https://id.example",
    "https://id.example/keys", "groups", ["complytime-admin"]⟩
  publishers := publisherMap
    [⟨.workload, "https://id.example", "https://id.example/keys"⟩,
     ⟨.workload, "https://ci.example", "https://ci.example/keys"⟩]
  jwkStore := true
  jtiStore := true
  audience := "gateway"
  url_of_publishers := url_of_publisherMap
  jti_of_jwk := fun _ => rfl

def workload : Principal := ⟨"https://ci.example", "mallory", true, [], []⟩

def person : Principal where
  issuer := "https://id.example"
  sub := "mallory"
  publisher := false
  scopes := ["complytime:admin"]
  groups := ["complytime-admin"]

def forgedAttempt (authorization : String) : Except GoError Principal :=
  (authenticate forgedLibrary 0 overlappingRegistry
    (emptyTrustStore : TrustStore Unit) ⟨none, none⟩ authorization).1

theorem readSigned_forged {signed : Signed} (hmem : signed ∈ forgedTokens) :
    readSigned forgedTokens signed.tokenString = .ok signed :=
  readSigned_of_mem (by decide +kernel) hmem

theorem timely_forgedToken (issuer : String) (options : ParseOptions) :
    (forgedToken issuer).timely options := by
  constructor <;> simp [forgedToken]

/-- The issuer that a forged token names is read from its header. -/
theorem readToken_forged {tokenString issuer : String}
    (hread : readSigned forgedTokens tokenString =
      .ok ⟨tokenString, forgedToken issuer, [0]⟩)
    (hne : tokenString ≠ "") (hissuer : issuer ≠ "")
    (htrimmed : trimSlashes issuer = issuer) :
    readToken forgedLibrary ("Bearer " ++ tokenString) =
      .ok (tokenString, issuer) := by
  have hpeeked : forgedLibrary.parseInsecure tokenString =
      .ok (forgedToken issuer) := parseInsecure_signedLibrary hread
  rw [readToken_of_peeked (extractBearerToken_bearer hne) hpeeked rfl hissuer,
    htrimmed]

theorem forgedAttempt_person :
    readToken forgedLibrary ("Bearer " ++ personText) =
      .ok (personText, "https://id.example") ∧
    forgedAttempt ("Bearer " ++ personText) = .ok person := by
  have hsigned := readSigned_forged (List.mem_cons_self ..)
  have hread : readToken forgedLibrary ("Bearer " ++ personText) =
      .ok (personText, "https://id.example") :=
    readToken_forged hsigned (by decide +kernel) (by decide) (by decide)
  refine ⟨hread, ?_⟩
  have hoidc : "https://id.example" =
      overlappingRegistry.oidc.expectedIssuer := rfl
  rw [forgedAttempt, authenticate_of_read hread, dispatch, if_pos hoidc]
  rw [OIDCIssuer.authenticate, ← hoidc, forgedLibrary, overlappingRegistry,
    authenticateCached_signedLibrary hsigned rfl rfl (by decide)
      (timely_forgedToken _ _)]
  decide +kernel

theorem publisherClass_workload :
    PublisherClass forgedLibrary 0 overlappingRegistry
      (emptyTrustStore : TrustStore Unit) ⟨none, none⟩
      ("Bearer " ++ workloadText) ⟨"https://ci.example", "mallory"⟩ := by
  have hsigned := readSigned_forged
    (List.mem_cons_of_mem _ (List.mem_cons_self ..))
  have hread : readToken forgedLibrary ("Bearer " ++ workloadText) =
      .ok (workloadText, "https://ci.example") :=
    readToken_forged hsigned (by decide +kernel) (by decide) (by decide)
  have hpublisher : overlappingRegistry.publishers "https://ci.example" =
      some ⟨.workload, "https://ci.example", "https://ci.example/keys"⟩ := by
    decide
  refine .configured hread (by decide) hpublisher ?_
  rw [PublisherIssuer.authenticate, forgedLibrary, overlappingRegistry,
    authenticateCached_signedLibrary hsigned rfl rfl (by decide)
      (timely_forgedToken _ _)]
  rfl

theorem forged_tokens_separated :
    forgedAttempt ("Bearer " ++ workloadText) = .ok workload ∧
    (∀ cfg action, Authorized cfg workload action →
      action = actionPublishArtifact) ∧
    forgedAttempt ("Bearer " ++ personText) = .ok person ∧
    ∀ cfg, ¬ Authorized cfg person actionPublishArtifact := by
  have hclass := publisherClass_workload
  have hworkload := hclass.authenticate_eq
  obtain ⟨hread, hperson⟩ := forgedAttempt_person
  rw [forgedAttempt] at hperson
  rw [forgedAttempt, forgedAttempt]
  constructor
  · exact hworkload
  constructor
  · exact (issuer_classes_separated hworkload).2.2.1 _ hclass
  constructor
  · exact hperson
  · exact (issuer_classes_separated hperson).2.2.2 ⟨personText, hread⟩

end ComplyTime.Authn
