import ComplyTime.Core.Json
import ComplyTime.Trust.Store
import Mathlib.Data.List.DropRight

/-!
# Token issuers

Three classes of issuers authenticate bearer tokens.  The OIDC issuer yields
people, with the scopes and groups their token carries.  The six kinds of
publisher issuers and the static scanner keys yield workloads.  Signature and
time checks of the JWT library, its key caches and the Unicode case table are
parameters; every check the issuers make themselves is spelled out.
-/

namespace ComplyTime.Authn

open Trust

/-- What `jwt.Token` reports about its claims. -/
structure Token where
  issuer : Option String
  subject : Option String
  issuedAt : Option Time
  expiration : Option Time
  jwtID : Option String
  /-- All claims, marshalled and decoded into a map. -/
  claims : Except GoError (List (String × Json))

/-- The options `jwt.Parse` is called with. -/
structure ParseOptions where
  issuer : String
  audience : String
  acceptableSkew : Time
  now : Time

/-- The library functions that authentication calls. -/
structure Library (KeySet : Type*) where
  /-- `jwt.ParseInsecure`. -/
  parseInsecure : String → Except GoError Token
  /-- `jwt.Parse` with a key set. -/
  parse : KeySet → ParseOptions → String → Except GoError Token
  /-- `jwk.ParseString`. -/
  parseKeySet : Bytes → Except GoError KeySet
  /-- `jwk.Cache.Lookup`. -/
  lookup : String → Except GoError KeySet
  /-- `strings.ToLower`. -/
  toLower : String → String
  formatTime : Time → String
  formatDuration : Time → String

/-- Verification does not change what a token says. -/
def Library.Agrees {KeySet : Type*} (library : Library KeySet) : Prop :=
  ∀ keys options tokenString token,
    library.parse keys options tokenString = .ok token →
      library.parseInsecure tokenString = .ok token

/-- `authn.Principal`. -/
structure Principal where
  issuer : String
  sub : String
  publisher : Bool
  scopes : List String
  groups : List String
  deriving DecidableEq, Repr

variable {KeySet : Type*} (library : Library KeySet) (now : Time)

def parseOptions (issuer audience : String) (now : Time) : ParseOptions where
  issuer := issuer
  audience := audience
  acceptableSkew := 30 * second
  now := now

def issuerMismatch (context : String) (token : Token) (url : String) :
    GoError :=
  .message (context ++ "issuer mismatch: got " ++
    (token.issuer.getD "").quote ++ " expected " ++ url.quote)

/-- The `sub` claim, which has to be present and not empty. -/
def requireSub (missing : String) (token : Token) : Except GoError String :=
  match token.subject with
  | none => .error (.message missing)
  | some sub => if sub = "" then .error (.message missing) else .ok sub

variable {token : Token} {tokenString audience : String}

theorem requireSub_eq_ok {missing : String} {sub : String} :
    requireSub missing token = .ok sub ↔
      token.subject = some sub ∧ sub ≠ "" := by
  unfold requireSub
  cases token.subject with
  | none => simp
  | some found =>
    by_cases hempty : found = ""
    · subst hempty
      simp
    · simp [hempty]
      rintro rfl
      exact hempty

/-! ## Publisher issuers -/

inductive PublisherKind
  | gitHubActions
  | gitLabCI
  | gcpWorkload
  | kubernetes
  | spiffe
  | workload
  deriving DecidableEq, Repr

def PublisherKind.fetching : PublisherKind → String
  | .gitHubActions => "fetching GitHub Actions JWKS"
  | .gitLabCI => "fetching GitLab CI JWKS"
  | .gcpWorkload => "fetching GCP Workload Identity JWKS"
  | .kubernetes => "fetching Kubernetes JWKS"
  | .spiffe => "fetching SPIFFE JWKS"
  | .workload => "fetching workload JWKS"

def PublisherKind.validationFailed : PublisherKind → String
  | .gitHubActions => "GitHub Actions token validation failed"
  | .gitLabCI => "GitLab CI token validation failed"
  | .gcpWorkload => "GCP Workload Identity token validation failed"
  | .kubernetes => "kubernetes token validation failed"
  | .spiffe => "SPIFFE token validation failed"
  | .workload => "workload token validation failed"

structure PublisherIssuer where
  kind : PublisherKind
  url : String
  jwksURL : String
  deriving DecidableEq, Repr

/-- What every issuer does with its keys: parse the token, compare the issuer
and require a claim. -/
def validate (keys : Except GoError KeySet) (fetching validationFailed context
    url audience tokenString : String)
    (required : Token → Except GoError String) :
    Except GoError (Token × String) :=
  match keys with
  | .error err => .error (.within fetching err)
  | .ok keys =>
    match library.parse keys (parseOptions url audience now) tokenString with
    | .error err => .error (.within validationFailed err)
    | .ok token =>
      if token.issuer = some url then
        (required token).map fun value => (token, value)
      else .error (issuerMismatch context token url)

theorem validate_eq_ok {keys : Except GoError KeySet}
    {fetching validationFailed context url value : String}
    {required : Token → Except GoError String}
    (haccepted : validate library now keys fetching validationFailed context
      url audience tokenString required = .ok (token, value)) :
    (∃ keys, library.parse keys (parseOptions url audience now) tokenString =
      .ok token) ∧
    token.issuer = some url ∧ required token = .ok value := by
  unfold validate at haccepted
  cases keys with
  | error err => cases haccepted
  | ok keys =>
    cases hparse : library.parse keys (parseOptions url audience now)
        tokenString with
    | error err => simp [hparse] at haccepted
    | ok parsed =>
      simp only [hparse] at haccepted
      split at haccepted
      · rename_i hissuer
        obtain ⟨found, hrequired, heq⟩ := map_eq_ok haccepted
        obtain ⟨rfl, rfl⟩ := Prod.mk.inj heq
        exact ⟨⟨keys, hparse⟩, hissuer, hrequired⟩
      · cases haccepted

/-- The part all issuers with a key cache share, which require a subject. -/
def authenticateCached (fetching validationFailed url jwksURL audience
    tokenString : String) : Except GoError (Token × String) :=
  validate library now (library.lookup jwksURL) fetching validationFailed ""
    url audience tokenString (requireSub "missing sub claim")

def PublisherIssuer.authenticate (issuer : PublisherIssuer)
    (tokenString audience : String) : Except GoError PublisherIdentity :=
  (authenticateCached library now issuer.kind.fetching
    issuer.kind.validationFailed issuer.url issuer.jwksURL audience
    tokenString).map fun accepted => ⟨issuer.url, accepted.2⟩

/-- An accepted token names its issuer and a subject. -/
theorem authenticateCached_eq_ok {fetching validationFailed url jwksURL
    audience tokenString : String} {sub : String}
    (haccepted : authenticateCached library now fetching validationFailed url
      jwksURL audience tokenString = .ok (token, sub)) :
    (∃ keys, library.parse keys (parseOptions url audience now) tokenString =
      .ok token) ∧
    token.issuer = some url ∧ token.subject = some sub ∧ sub ≠ "" := by
  obtain ⟨hparse, hissuer, hsub⟩ := validate_eq_ok library now haccepted
  exact ⟨hparse, hissuer, requireSub_eq_ok.mp hsub⟩

/-! ## The OIDC issuer -/

/-- `unicode.IsSpace`. -/
def isSpace (character : Char) : Bool :=
  let code := character.toNat
  (9 ≤ code && code ≤ 13) || code == 0x20 || code == 0x85 || code == 0xA0 ||
    code == 0x1680 || (0x2000 ≤ code && code ≤ 0x200A) || code == 0x2028 ||
    code == 0x2029 || code == 0x202F || code == 0x205F || code == 0x3000

/-- `strings.Fields`. -/
def fields (content : String) : List String :=
  ((content.toList.splitOnP isSpace).filter fun field =>
    !field.isEmpty).map String.ofList

def knownScopes : List String :=
  ["complytime:admin", "complytime:audit", "complytime:read"]

def extractScopes (claims : List (String × Json)) : List String :=
  match Json.member "scope" claims with
  | some (.str scopes) =>
    (fields scopes).filter fun scope => knownScopes.contains scope
  | _ => []

/-- The value at the end of a path of object keys. -/
def walkClaims : Json → List String → Option Json
  | current, [] => some current
  | .obj members, segment :: segments =>
    (Json.member segment members).bind fun current =>
      walkClaims current segments
  | _, _ :: _ => none

def stringItem : Json → Option String
  | .str content => some content
  | _ => none

def extractClaimByPath (claims : List (String × Json)) (dotPath : String) :
    List String :=
  if dotPath = "" then []
  else match walkClaims (.obj claims)
      ((dotPath.toList.splitOn '.').map String.ofList) with
  | some (.arr items) => items.filterMap stringItem
  | _ => []

def extractGroups (claims : List (String × Json)) (groupClaim : String)
    (knownGroups : List String) : List String :=
  ((extractClaimByPath claims groupClaim).map library.toLower).filter
    fun group => knownGroups.contains group

structure OIDCIssuer where
  url : String
  /-- What `URL()` returns. -/
  expectedIssuer : String
  jwksURL : String
  groupClaim : String
  knownGroups : List String
  deriving DecidableEq, Repr

/-- The principal of an accepted token; a token whose claims cannot be decoded
yields no scopes and no groups. -/
def OIDCIssuer.principal (oidc : OIDCIssuer) (token : Token) (sub : String) :
    Principal :=
  match token.claims with
  | .error _ => ⟨oidc.expectedIssuer, sub, false, [], []⟩
  | .ok claims =>
    ⟨oidc.expectedIssuer, sub, false, extractScopes claims,
      if oidc.groupClaim = "" then []
      else extractGroups library claims oidc.groupClaim oidc.knownGroups⟩

def OIDCIssuer.authenticate (oidc : OIDCIssuer)
    (tokenString audience : String) : Except GoError Principal :=
  (authenticateCached library now "fetching OIDC JWKS"
    "OIDC issuer validation failed" oidc.expectedIssuer oidc.jwksURL audience
    tokenString).map fun accepted =>
      oidc.principal library accepted.1 accepted.2

@[simp]
theorem publisher_principal (oidc : OIDCIssuer) (token : Token)
    (sub : String) : (oidc.principal library token sub).publisher = false := by
  unfold OIDCIssuer.principal
  cases token.claims <;> rfl

theorem publisher_of_oidc {oidc : OIDCIssuer} {principal : Principal}
    (haccepted : oidc.authenticate library now tokenString audience =
      .ok principal) : principal.publisher = false := by
  unfold OIDCIssuer.authenticate at haccepted
  cases hcached : authenticateCached library now "fetching OIDC JWKS"
      "OIDC issuer validation failed" oidc.expectedIssuer oidc.jwksURL audience
      tokenString with
  | error err => simp [hcached, Except.map] at haccepted
  | ok accepted =>
    simp only [hcached, Except.map, Except.ok.injEq] at haccepted
    rw [← haccepted, publisher_principal]

/-! ## Static scanner keys -/

structure StaticJWKIssuer where
  url : String
  jwk : Bytes
  notAfter : Time

def maximumLifetime : Time := 10 * minute

/-- The `jti` claim of a token whose lifetime is in bounds. -/
def requireJTI (token : Token) : Except GoError String :=
  match token.issuedAt, token.expiration, token.jwtID with
  | none, _, _ => .error (.message "static JWK token missing iat claim")
  | some _, none, _ => .error (.message "static JWK token missing exp claim")
  | some issuedAt, some expiry, jwtID =>
    if maximumLifetime < expiry - issuedAt then
      .error (.message ("static JWK token lifetime exceeds 10-minute " ++
        "maximum (iat-to-exp: " ++
        library.formatDuration (expiry - issuedAt) ++ ")"))
    else match jwtID with
    | none => .error (.message "static JWK token missing jti claim")
    | some jti =>
      if jti = "" then
        .error (.message "static JWK token missing jti claim")
      else .ok jti

/-- Every check before the token identifier is claimed. -/
def StaticJWKIssuer.check (issuer : StaticJWKIssuer)
    (tokenString audience : String) : Except GoError (Token × String) :=
  if issuer.notAfter < now then
    .error (.message ("JWK for issuer " ++ issuer.url ++
      " has expired (not_after: " ++ library.formatTime issuer.notAfter ++
      ")"))
  else validate library now (library.parseKeySet issuer.jwk)
    ("parsing static JWK for issuer " ++ issuer.url)
    ("static JWK validation failed for " ++ issuer.url) "static JWK "
    issuer.url audience tokenString (requireJTI library)

/-- Claiming the identifier comes before the check of the subject. -/
def StaticJWKIssuer.authenticate {Document : Type*}
    (issuer : StaticJWKIssuer) (jtiStore : Bool)
    (store : TrustStore Document) (fault : Option CreateFault)
    (tokenString audience : String) :
    Except GoError PublisherIdentity × TrustStore Document :=
  match issuer.check library now tokenString audience with
  | .error err => (.error err, store)
  | .ok (token, jti) =>
    match if jtiStore then claimJTI store fault now jti
      else (.ok (), store) with
    | (.error err, claimed) =>
      (.error (.within "jti replay check failed" err), claimed)
    | (.ok (), claimed) =>
      ((requireSub "static JWK token missing sub claim" token).map
        fun sub => ⟨issuer.url, sub⟩, claimed)

/-- A token that passes carries an identifier and lives for ten minutes at
most. -/
theorem requireJTI_eq_ok {jti : String}
    (hjti : requireJTI library token = .ok jti) :
    ∃ issuedAt expiry, token.issuedAt = some issuedAt ∧
      token.expiration = some expiry ∧ expiry ≤ issuedAt + maximumLifetime ∧
      token.jwtID = some jti := by
  unfold requireJTI at hjti
  cases hissued : token.issuedAt with
  | none => simp [hissued] at hjti
  | some issuedAt =>
    cases hexpiry : token.expiration with
    | none => simp [hissued, hexpiry] at hjti
    | some expiry =>
      simp only [hissued, hexpiry] at hjti
      by_cases hlong : maximumLifetime < expiry - issuedAt
      · rw [if_pos hlong] at hjti
        cases hjti
      rw [if_neg hlong] at hjti
      have hlifetime : expiry ≤ issuedAt + maximumLifetime :=
        Int.le_add_of_sub_left_le (Int.not_lt.mp hlong)
      cases hfound : token.jwtID with
      | none => simp [hfound] at hjti
      | some found =>
        simp only [hfound] at hjti
        split at hjti
        · cases hjti
        · rw [Except.ok.inj hjti]
          exact ⟨issuedAt, expiry, rfl, rfl, hlifetime, rfl⟩

theorem check_eq_ok {issuer : StaticJWKIssuer} {jti : String}
    (hchecked : issuer.check library now tokenString audience =
      .ok (token, jti)) :
    (∃ keys, library.parse keys (parseOptions issuer.url audience now)
      tokenString = .ok token) ∧ token.issuer = some issuer.url ∧
      requireJTI library token = .ok jti := by
  unfold StaticJWKIssuer.check at hchecked
  split at hchecked
  · cases hchecked
  · exact validate_eq_ok library now hchecked

section StaticKeys

variable {Document : Type*} {issuer : StaticJWKIssuer} {jtiStore : Bool}
  {store : TrustStore Document} {fault : Option CreateFault}

theorem publisherKV_authenticate :
    (issuer.authenticate library now jtiStore store fault tokenString
      audience).2.publisherKV = store.publisherKV := by
  unfold StaticJWKIssuer.authenticate
  split
  · rfl
  · rename_i token jti hchecked
    have hclaim : (if jtiStore then claimJTI store fault now jti
        else (.ok (), store)).2.publisherKV = store.publisherKV := by
      split
      · exact publisherKV_claimJTI
      · rfl
    split <;> rename_i hpair <;> rw [hpair] at hclaim <;> exact hclaim

/-- An accepted token names the issuer of its key and a subject. -/
theorem staticJWK_eq_ok {identity : PublisherIdentity}
    (haccepted : (issuer.authenticate library now jtiStore store fault
      tokenString audience).1 = .ok identity) :
    ∃ keys token, library.parse keys (parseOptions issuer.url audience now)
        tokenString = .ok token ∧
      token.issuer = some issuer.url ∧ token.subject = some identity.sub ∧
      identity.issuer = issuer.url ∧ identity.sub ≠ "" := by
  unfold StaticJWKIssuer.authenticate at haccepted
  split at haccepted
  · cases haccepted
  · rename_i token jti hchecked
    split at haccepted
    · cases haccepted
    · simp only at haccepted
      obtain ⟨⟨keys, hparse⟩, hissuer, -⟩ := check_eq_ok library now hchecked
      cases hsub : requireSub "static JWK token missing sub claim" token with
      | error err => simp [hsub, Except.map] at haccepted
      | ok sub =>
        simp only [hsub, Except.map, Except.ok.injEq] at haccepted
        obtain ⟨hsubject, hne⟩ := requireSub_eq_ok.mp hsub
        rw [← haccepted]
        exact ⟨keys, token, hparse, hissuer, hsubject, rfl, hne⟩

end StaticKeys

end ComplyTime.Authn
