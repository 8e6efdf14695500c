import ComplyTime.Authn.Issuers
import ComplyTime.Authz.Middleware

/-!
# The issuer registry

`IssuerRegistry.Authenticate` reads the issuer claim of an unverified token and
hands the token to the OIDC issuer, to a configured publisher issuer or to the
scanner key stored under that issuer, in this order.  Only the last two yield
publishers.  Authentication with a stored key claims the token identifier, so
the trust store is threaded through.
-/

namespace ComplyTime.Authn

open Trust

/-- Publishers are keyed by their URL, and stored keys need replay
protection. -/
structure IssuerRegistry where
  oidc : OIDCIssuer
  publishers : String → Option PublisherIssuer
  jwkStore : Bool
  jtiStore : Bool
  audience : String
  url_of_publishers : ∀ {url issuer}, publishers url = some issuer →
    issuer.url = url
  jti_of_jwk : jwkStore = true → jtiStore = true

def addPublisher (publishers : String → Option PublisherIssuer)
    (issuer : PublisherIssuer) : String → Option PublisherIssuer :=
  Function.update publishers issuer.url (some issuer)

/-- `m[p.URL()] = p` for each of the publishers. -/
def publisherMap (publishers : List PublisherIssuer) :
    String → Option PublisherIssuer :=
  publishers.foldl addPublisher fun _ => none

theorem url_of_addPublisher {publishers : String → Option PublisherIssuer}
    {added : PublisherIssuer}
    (hurl : ∀ url issuer, publishers url = some issuer → issuer.url = url)
    (url : String) (issuer : PublisherIssuer)
    (hfound : addPublisher publishers added url = some issuer) :
    issuer.url = url := by
  unfold addPublisher at hfound
  by_cases hadded : url = added.url
  · subst hadded
    rw [Function.update_self] at hfound
    rw [← Option.some.inj hfound]
  · rw [Function.update_of_ne hadded] at hfound
    exact hurl url issuer hfound

theorem url_of_foldl_addPublisher (added : List PublisherIssuer)
    (publishers : String → Option PublisherIssuer)
    (hurl : ∀ url issuer, publishers url = some issuer → issuer.url = url) :
    ∀ url issuer, added.foldl addPublisher publishers url = some issuer →
      issuer.url = url := by
  induction added generalizing publishers with
  | nil => exact hurl
  | cons first added ih => exact ih _ (url_of_addPublisher hurl)

theorem url_of_publisherMap {publishers : List PublisherIssuer}
    {url : String} {issuer : PublisherIssuer}
    (hfound : publisherMap publishers url = some issuer) :
    issuer.url = url :=
  url_of_foldl_addPublisher publishers (fun _ => none) (by simp) url issuer
    hfound

def newIssuerRegistry (oidc : Option OIDCIssuer)
    (publishers : List PublisherIssuer) (jwkStore jtiStore : Bool)
    (audience : String) : Except GoError IssuerRegistry :=
  match oidc with
  | none => .error (.message "oidc issuer is required")
  | some oidc =>
    if hstores : jwkStore = true → jtiStore = true then
      .ok ⟨oidc, publisherMap publishers, jwkStore, jtiStore, audience,
        url_of_publisherMap, hstores⟩
    else .error (.message ("jtiStore is required when jwkStore is set: " ++
      "JTI replay prevention cannot be disabled"))

/-! ## Reading the request -/

/-- `strings.CutPrefix`. -/
def cutPrefix (start content : String) : Option String :=
  if start.toList.isPrefixOf content.toList then
    some (String.ofList (content.toList.drop start.toList.length))
  else none

def extractBearerToken (authorization : String) : Except GoError String :=
  match cutPrefix "Bearer " authorization with
  | none => .error (.message "missing or invalid Authorization header")
  | some token =>
    if token = "" then
      .error (.message "missing or invalid Authorization header")
    else .ok token

theorem extractBearerToken_bearer {tokenString : String}
    (hne : tokenString ≠ "") :
    extractBearerToken ("Bearer " ++ tokenString) = .ok tokenString := by
  have hcut : cutPrefix "Bearer " ("Bearer " ++ tokenString) =
      some tokenString := by
    simp [cutPrefix, String.toList_append]
  rw [extractBearerToken, hcut]
  exact if_neg hne

/-- `strings.TrimRight(content, "/")`. -/
def trimSlashes (content : String) : String :=
  String.ofList (content.toList.rdropWhile fun character => character == '/')

variable {KeySet Document : Type*} (library : Library KeySet) (now : Time)

def peekIssuer (tokenString : String) : Except GoError String :=
  match library.parseInsecure tokenString with
  | .error err => .error (.within "parsing token" err)
  | .ok token =>
    match token.issuer with
    | none => .error (.message "missing iss claim")
    | some issuer =>
      if issuer = "" then .error (.message "missing iss claim")
      else .ok (trimSlashes issuer)

/-- The bearer token of a request and the issuer it claims. -/
def readToken (authorization : String) : Except GoError (String × String) :=
  match extractBearerToken authorization with
  | .error err => .error err
  | .ok tokenString =>
    match peekIssuer library tokenString with
    | .error err => .error (.within "cannot read issuer claim" err)
    | .ok issuer => .ok (tokenString, issuer)

theorem readToken_of_peeked {library : Library KeySet}
    {authorization tokenString issuer : String} {token : Token}
    (hbearer : extractBearerToken authorization = .ok tokenString)
    (hpeeked : library.parseInsecure tokenString = .ok token)
    (hissuer : token.issuer = some issuer) (hne : issuer ≠ "") :
    readToken library authorization =
      .ok (tokenString, trimSlashes issuer) := by
  simp [readToken, hbearer, peekIssuer, hpeeked, hissuer, hne]

/-! ## Dispatch -/

/-- The failures the key and identifier buckets meet during one request. -/
structure StoreFaults where
  jwk : Option GoError
  jti : Option CreateFault

def publisherPrincipal (identity : PublisherIdentity) : Principal :=
  ⟨identity.issuer, identity.sub, true, [], []⟩

def StaticJWKIssuer.ofRecord (issuer : String) (record : JWKRecord) :
    StaticJWKIssuer :=
  ⟨issuer, record.jwk, record.notAfter⟩

def notConfigured (issuer : String) : GoError :=
  .message ("issuer " ++ issuer.quote ++
    " is not a configured trusted publisher")

/-- The branch of stored scanner keys. -/
def authenticateStored (registry : IssuerRegistry)
    (store : TrustStore Document) (faults : StoreFaults)
    (tokenString issuer : String) :
    Except GoError Principal × TrustStore Document :=
  if registry.jwkStore then
    match getJWK store faults.jwk now issuer with
    | .error err => (.error (.within ("JWK lookup for " ++ issuer) err), store)
    | .ok none => (.error (notConfigured issuer), store)
    | .ok (some record) =>
      let attempt := (StaticJWKIssuer.ofRecord issuer record).authenticate
        library now registry.jtiStore store faults.jti tokenString
        registry.audience
      (attempt.1.map publisherPrincipal, attempt.2)
  else (.error (notConfigured issuer), store)

def dispatch (registry : IssuerRegistry) (store : TrustStore Document)
    (faults : StoreFaults) (tokenString issuer : String) :
    Except GoError Principal × TrustStore Document :=
  if issuer = registry.oidc.expectedIssuer then
    (registry.oidc.authenticate library now tokenString registry.audience,
      store)
  else match registry.publishers issuer with
  | some publisher =>
    ((publisher.authenticate library now tokenString
      registry.audience).map publisherPrincipal, store)
  | none => authenticateStored library now registry store faults tokenString
      issuer

def authenticate (registry : IssuerRegistry) (store : TrustStore Document)
    (faults : StoreFaults) (authorization : String) :
    Except GoError Principal × TrustStore Document :=
  match readToken library authorization with
  | .error err => (.error err, store)
  | .ok (tokenString, issuer) =>
    dispatch library now registry store faults tokenString issuer

/-- The context values that `AuthMiddleware` sets for a principal. -/
def principalContext (principal : Principal) : Authz.Context :=
  (((Authz.emptyContext.setPublisherContext principal.issuer
    principal.sub).setPublisherFlagContext
    principal.publisher).setScopesContext principal.scopes).setGroupsContext
    principal.groups

def authMiddleware (registry : IssuerRegistry) (store : TrustStore Document)
    (faults : StoreFaults) (authorization : String) :
    Except Response Authz.Context × TrustStore Document :=
  let attempt := authenticate library now registry store faults authorization
  match attempt.1 with
  | .error _ => (.error ⟨401, "Unauthorized"⟩, attempt.2)
  | .ok principal => (.ok (principalContext principal), attempt.2)

/-! ## Publisher-class authentication -/

/-- The header authenticates the identity through a branch other than the OIDC
issuer: a configured publisher, or else a stored scanner key. -/
inductive PublisherClass (registry : IssuerRegistry)
    (store : TrustStore Document) (faults : StoreFaults)
    (authorization : String) (identity : PublisherIdentity) : Prop
  | configured {tokenString issuer : String} {publisher : PublisherIssuer}
      (hread : readToken library authorization = .ok (tokenString, issuer))
      (hoidc : issuer ≠ registry.oidc.expectedIssuer)
      (hpublisher : registry.publishers issuer = some publisher)
      (haccepted : publisher.authenticate library now tokenString
        registry.audience = .ok identity)
  | stored {tokenString issuer : String} {record : JWKRecord}
      (hread : readToken library authorization = .ok (tokenString, issuer))
      (hoidc : issuer ≠ registry.oidc.expectedIssuer)
      (hpublisher : registry.publishers issuer = none)
      (hstore : registry.jwkStore = true)
      (hrecord : getJWK store faults.jwk now issuer = .ok (some record))
      (haccepted : ((StaticJWKIssuer.ofRecord issuer record).authenticate
        library now registry.jtiStore store faults.jti tokenString
        registry.audience).1 = .ok identity)

section PublisherClass

variable {library now} {registry : IssuerRegistry}
  {store : TrustStore Document} {faults : StoreFaults}
  {authorization : String} {identity : PublisherIdentity}

variable {tokenString issuer : String} {principal : Principal}

theorem authenticate_of_read
    (hread : readToken library authorization = .ok (tokenString, issuer)) :
    authenticate library now registry store faults authorization =
      dispatch library now registry store faults tokenString issuer := by
  rw [authenticate, hread]

/-- Publisher-class authentication yields a publisher without scopes or
groups. -/
theorem PublisherClass.authenticate_eq
    (hclass : PublisherClass library now registry store faults authorization
      identity) :
    (authenticate library now registry store faults authorization).1 =
      .ok (publisherPrincipal identity) := by
  cases hclass with
  | configured hread hoidc hpublisher haccepted =>
    rw [authenticate_of_read hread, dispatch, if_neg hoidc, hpublisher]
    simp only [haccepted, Except.map]
  | stored hread hoidc hpublisher hstore hrecord haccepted =>
    rw [authenticate_of_read hread, dispatch, if_neg hoidc, hpublisher]
    simp only [authenticateStored, hstore, if_true, hrecord, haccepted,
      Except.map]

section

variable (haccepted : (authenticate library now registry store faults
    authorization).1 = .ok principal)

include haccepted

/-- An accepted token was left to the OIDC issuer or authenticated through a
publisher-class branch. -/
theorem authenticate_eq_ok :
    (∃ tokenString, readToken library authorization =
        .ok (tokenString, registry.oidc.expectedIssuer) ∧
      registry.oidc.authenticate library now tokenString registry.audience =
        .ok principal) ∨
    ∃ identity, PublisherClass library now registry store faults authorization
      identity ∧ principal = publisherPrincipal identity := by
  unfold authenticate at haccepted
  split at haccepted
  · cases haccepted
  rename_i tokenString issuer hread
  unfold dispatch at haccepted
  by_cases hoidc : issuer = registry.oidc.expectedIssuer
  · rw [if_pos hoidc] at haccepted
    rw [hoidc] at hread
    exact .inl ⟨tokenString, hread, haccepted⟩
  right
  rw [if_neg hoidc] at haccepted
  split at haccepted
  · rename_i publisher hpublisher
    obtain ⟨identity, hidentity, rfl⟩ := map_eq_ok haccepted
    exact ⟨identity, .configured hread hoidc hpublisher hidentity, rfl⟩
  · rename_i hpublisher
    unfold authenticateStored at haccepted
    split at haccepted
    · rename_i hstore
      split at haccepted
      · cases haccepted
      · cases haccepted
      · rename_i record hrecord
        obtain ⟨identity, hidentity, rfl⟩ := map_eq_ok haccepted
        exact ⟨identity, .stored hread hoidc hpublisher hstore hrecord
          hidentity, rfl⟩
    · cases haccepted

/-- A principal with the publisher flag has come through a publisher-class
branch. -/
theorem publisherClass_of_authenticate (hflag : principal.publisher = true) :
    ∃ identity, PublisherClass library now registry store faults authorization
      identity ∧ principal = publisherPrincipal identity := by
  apply (authenticate_eq_ok haccepted).resolve_left
  rintro ⟨tokenString, -, hoidc⟩
  rw [publisher_of_oidc library now hoidc] at hflag
  cases hflag

end

theorem publisherKV_of_authenticate :
    (authenticate library now registry store faults
      authorization).2.publisherKV = store.publisherKV := by
  unfold authenticate
  split
  · rfl
  · unfold dispatch
    split
    · rfl
    · split
      · rfl
      · unfold authenticateStored
        split
        · split
          · rfl
          · rfl
          · exact publisherKV_authenticate library now
        · rfl

/-! ### Identities are not empty -/

theorem readToken_eq_ok
    (hread : readToken library authorization = .ok (tokenString, issuer)) :
    ∃ token claimed, library.parseInsecure tokenString = .ok token ∧
      token.issuer = some claimed ∧ claimed ≠ "" ∧
      issuer = trimSlashes claimed := by
  unfold readToken at hread
  split at hread
  · cases hread
  split at hread
  · cases hread
  rename_i found hpeek
  obtain ⟨rfl, rfl⟩ := Prod.mk.inj (Except.ok.inj hread)
  unfold peekIssuer at hpeek
  split at hpeek
  · cases hpeek
  rename_i token hparse
  split at hpeek
  · cases hpeek
  rename_i claimed hissuer
  split at hpeek
  · cases hpeek
  rename_i hne
  exact ⟨token, claimed, hparse, hissuer, hne, (Except.ok.inj hpeek).symm⟩

/-- The URL an accepted token names is the issuer it was dispatched by, which
is not empty. -/
theorem url_ne_empty (hagrees : library.Agrees) {keys : KeySet}
    {options : ParseOptions} {token : Token}
    (hread : readToken library authorization = .ok (tokenString, issuer))
    (hparse : library.parse keys options tokenString = .ok token)
    (hissuer : token.issuer = some issuer) : issuer ≠ "" := by
  obtain ⟨peeked, claimed, hpeeked, hclaimed, hne, -⟩ := readToken_eq_ok hread
  rw [hagrees keys options tokenString token hparse] at hpeeked
  obtain rfl := Except.ok.inj hpeeked
  rw [hissuer] at hclaimed
  rwa [Option.some.inj hclaimed]

theorem PublisherClass.ne_empty (hagrees : library.Agrees)
    (hclass : PublisherClass library now registry store faults authorization
      identity) : identity.issuer ≠ "" ∧ identity.sub ≠ "" := by
  cases hclass with
  | @configured tokenString issuer publisher hread hoidc hpublisher
      haccepted =>
      obtain ⟨⟨token, sub⟩, hcached, rfl⟩ := map_eq_ok haccepted
      obtain ⟨⟨keys, hparse⟩, hissuer, hsubject, hsub⟩ :=
        authenticateCached_eq_ok library now hcached
      have hurl := registry.url_of_publishers hpublisher
      rw [hurl] at hissuer
      refine ⟨?_, hsub⟩
      change publisher.url ≠ ""
      rw [hurl]
      exact url_ne_empty hagrees hread hparse hissuer
  | stored hread hoidc hpublisher hstore hrecord haccepted =>
    obtain ⟨keys, token, hparse, hissuer, hsubject, heq, hsub⟩ :=
      staticJWK_eq_ok library now haccepted
    refine ⟨?_, hsub⟩
    rw [heq]
    exact url_ne_empty hagrees hread hparse hissuer

end PublisherClass

end ComplyTime.Authn
