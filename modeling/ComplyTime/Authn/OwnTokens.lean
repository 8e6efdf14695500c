import ComplyTime.Authn.BuildIssuers
import ComplyTime.Authn.SignedTokens

/-!
# Tokens of the configured issuers

An issuer's URL is trimmed when the issuer is built.  The issuer claim of a
token loses its trailing slashes before it selects an issuer, and the selected
issuer compares the claim as it stands in the token.  The three agree on a
configured URL exactly when trimming leaves that URL alone.
-/

namespace ComplyTime.Authn

open Trust

/-! ## Trimming -/

@[simp]
theorem trimSlashes_trimSlashes (content : String) :
    trimSlashes (trimSlashes content) = trimSlashes content := by
  simp only [trimSlashes, String.toList_ofList]
  rw [List.rdropWhile_idempotent]

@[simp]
theorem trimSlashes_normalizeIssuerURL (issuerURL : String) :
    trimSlashes (normalizeIssuerURL issuerURL) = normalizeIssuerURL issuerURL :=
  trimSlashes_trimSlashes _

@[simp]
theorem trimSlashes_expected (config : OIDCConfig) :
    trimSlashes config.expected = config.expected := by
  unfold OIDCConfig.expected
  split <;> exact trimSlashes_normalizeIssuerURL _

/-! ## Who handles a token -/

/-- The branches of `Authenticate`. -/
inductive Handler
  | oidc
  | publisher (issuer : PublisherIssuer)
  | stored

def IssuerRegistry.handler (registry : IssuerRegistry) (issuer : String) :
    Handler :=
  if issuer = registry.oidc.expectedIssuer then .oidc
  else match registry.publishers issuer with
  | some publisher => .publisher publisher
  | none => .stored

variable {registry : IssuerRegistry} {issuer : String}
  {publisher : PublisherIssuer} {publishers : List PublisherIssuer}

theorem handler_eq_oidc_iff :
    registry.handler issuer = .oidc ↔
      issuer = registry.oidc.expectedIssuer := by
  unfold IssuerRegistry.handler
  split
  · simp [*]
  · split <;> simp [*]

theorem handler_eq_publisher_iff :
    registry.handler issuer = .publisher publisher ↔
      issuer ≠ registry.oidc.expectedIssuer ∧
        registry.publishers issuer = some publisher := by
  unfold IssuerRegistry.handler
  split
  · simp [*]
  · split <;> simp [*]

theorem handler_eq_stored_iff :
    registry.handler issuer = .stored ↔
      issuer ≠ registry.oidc.expectedIssuer ∧
        registry.publishers issuer = none := by
  unfold IssuerRegistry.handler
  split
  · simp [*]
  · split <;> simp [*]

theorem foldl_addPublisher_of_not_mem {url : String}
    (known : String → Option PublisherIssuer)
    (hother : url ∉ publishers.map PublisherIssuer.url) :
    publishers.foldl addPublisher known url = known url := by
  induction publishers generalizing known with
  | nil => rfl
  | cons first publishers ih =>
    rw [List.map_cons, List.mem_cons, not_or] at hother
    rw [List.foldl_cons, ih _ hother.2, addPublisher,
      Function.update_of_ne hother.1]

theorem publisherMap_of_mem
    (hdistinct : (publishers.map PublisherIssuer.url).Nodup)
    (hmem : publisher ∈ publishers) :
    publisherMap publishers publisher.url = some publisher := by
  suffices hfold : ∀ known : String → Option PublisherIssuer,
      publishers.foldl addPublisher known publisher.url = some publisher from
    hfold _
  induction publishers with
  | nil => cases hmem
  | cons first publishers ih =>
    intro known
    rw [List.map_cons, List.nodup_cons] at hdistinct
    rcases List.mem_cons.mp hmem with rfl | hmem
    · rw [List.foldl_cons, foldl_addPublisher_of_not_mem _ hdistinct.1,
        addPublisher, Function.update_self]
    · exact ih hdistinct.2 hmem _

theorem newIssuerRegistry_eq_ok {oidc : OIDCIssuer} {jwkStore jtiStore : Bool}
    {audience : String}
    (hregistry : newIssuerRegistry (some oidc) publishers jwkStore jtiStore
      audience = .ok registry) :
    registry.oidc = oidc ∧ registry.publishers = publisherMap publishers ∧
      registry.audience = audience := by
  unfold newIssuerRegistry at hregistry
  simp only at hregistry
  split at hregistry
  · obtain rfl := Except.ok.inj hregistry
    exact ⟨rfl, rfl, rfl⟩
  · cases hregistry

/-! ## Genuine tokens -/

section Genuine

variable {KeySet Document : Type*} (library : Library KeySet) (now : Time)

/-- A token with a subject that verifies with the keys at `jwksURL`, for the
audience and at this time, whenever its own issuer is asked for. -/
structure Genuine (audience jwksURL tokenString : String) (token : Token)
    (sub : String) : Prop where
  peeked : library.parseInsecure tokenString = .ok token
  verified : ∃ keys, library.lookup jwksURL = .ok keys ∧
    ∀ issuer, token.issuer = some issuer →
      library.parse keys (parseOptions issuer audience now) tokenString =
        .ok token
  subject : token.subject = some sub
  sub_ne_empty : sub ≠ ""

/-- The token of the header goes to the handler, and the request is
authenticated as the principal. -/
def AcceptedBy (registry : IssuerRegistry) (store : TrustStore Document)
    (faults : StoreFaults) (authorization : String) (handler : Handler)
    (principal : Principal) : Prop :=
  ∃ tokenString issuer,
    readToken library authorization = .ok (tokenString, issuer) ∧
    registry.handler issuer = handler ∧
    (authenticate library now registry store faults authorization).1 =
      .ok principal

variable {library now} {audience jwksURL tokenString authorization : String}
  {token : Token} {sub : String}

theorem authenticateCached_of_genuine {fetching validationFailed url : String}
    (hgenuine : Genuine library now audience jwksURL tokenString token sub)
    (hissuer : token.issuer = some url) :
    authenticateCached library now fetching validationFailed url jwksURL
      audience tokenString = .ok (token, sub) := by
  obtain ⟨keys, hkeys, hparse⟩ := hgenuine.verified
  have hsub : requireSub "missing sub claim" token = .ok sub :=
    requireSub_eq_ok.mpr ⟨hgenuine.subject, hgenuine.sub_ne_empty⟩
  simp [authenticateCached, validate, hkeys, hparse url hissuer, hissuer, hsub,
    Except.map]

/-- The issuer check compares the claim as the token has it. -/
theorem issuer_of_authenticateCached
    {fetching validationFailed url : String} {accepted : Token × String}
    (hagrees : library.Agrees)
    (hpeeked : library.parseInsecure tokenString = .ok token)
    (haccepted : authenticateCached library now fetching validationFailed url
      jwksURL audience tokenString = .ok accepted) :
    token.issuer = some url := by
  obtain ⟨⟨keys, hparse⟩, hissuer, -⟩ :=
    authenticateCached_eq_ok library now haccepted
  have hsame := hagrees keys _ tokenString accepted.1 hparse
  rw [hpeeked] at hsame
  rw [Except.ok.inj hsame]
  exact hissuer

section Accepted

variable {store : TrustStore Document} {faults : StoreFaults}

/-- The OIDC issuer accepts its genuine tokens exactly when they name the
expected issuer. -/
theorem acceptedBy_oidc_iff (hagrees : library.Agrees)
    (hbearer : extractBearerToken authorization = .ok tokenString)
    (hgenuine : Genuine library now registry.audience registry.oidc.jwksURL
      tokenString token sub)
    (hissuer : token.issuer = some issuer) (hne : issuer ≠ "")
    (htrimmed : trimSlashes registry.oidc.expectedIssuer =
      registry.oidc.expectedIssuer) :
    AcceptedBy library now registry store faults authorization .oidc
        (registry.oidc.principal library token sub) ↔
      issuer = registry.oidc.expectedIssuer := by
  have hread := readToken_of_peeked hbearer hgenuine.peeked hissuer hne
  constructor
  · rintro ⟨read, named, hnamed, hhandler, haccepted⟩
    rw [hread] at hnamed
    obtain ⟨rfl, rfl⟩ := Prod.mk.inj (Except.ok.inj hnamed)
    rw [handler_eq_oidc_iff] at hhandler
    rw [authenticate_of_read hread, dispatch, if_pos hhandler] at haccepted
    obtain ⟨accepted, hcached, -⟩ := map_eq_ok haccepted
    have hcheck := issuer_of_authenticateCached hagrees hgenuine.peeked hcached
    rw [hissuer] at hcheck
    exact Option.some.inj hcheck
  · rintro rfl
    rw [htrimmed] at hread
    refine ⟨tokenString, _, hread, handler_eq_oidc_iff.mpr rfl, ?_⟩
    rw [authenticate_of_read hread, dispatch, if_pos rfl]
    simp only [OIDCIssuer.authenticate,
      authenticateCached_of_genuine hgenuine hissuer, Except.map]

/-- A configured publisher accepts its genuine tokens exactly when they name
its trimmed URL and the OIDC issuer does not claim it. -/
theorem acceptedBy_publisher_iff (hagrees : library.Agrees)
    (hbearer : extractBearerToken authorization = .ok tokenString)
    (hgenuine : Genuine library now registry.audience publisher.jwksURL
      tokenString token sub) (hissuer : token.issuer = some issuer)
    (hne : issuer ≠ "") (htrimmed : trimSlashes publisher.url = publisher.url)
    (hfound : registry.publishers publisher.url = some publisher) :
    AcceptedBy library now registry store faults authorization
        (.publisher publisher) (publisherPrincipal ⟨issuer, sub⟩) ↔
      issuer = publisher.url ∧ issuer ≠ registry.oidc.expectedIssuer := by
  have hread := readToken_of_peeked hbearer hgenuine.peeked hissuer hne
  constructor
  · rintro ⟨read, named, hnamed, hhandler, haccepted⟩
    rw [hread] at hnamed
    obtain ⟨rfl, rfl⟩ := Prod.mk.inj (Except.ok.inj hnamed)
    obtain ⟨hoidc, hpublisher⟩ := handler_eq_publisher_iff.mp hhandler
    rw [authenticate_of_read hread, dispatch, if_neg hoidc,
      hpublisher] at haccepted
    obtain ⟨identity, hidentity, -⟩ := map_eq_ok haccepted
    obtain ⟨accepted, hcached, -⟩ := map_eq_ok hidentity
    have hcheck := issuer_of_authenticateCached hagrees hgenuine.peeked hcached
    rw [hissuer] at hcheck
    obtain rfl := Option.some.inj hcheck
    rw [htrimmed] at hoidc
    exact ⟨rfl, hoidc⟩
  · rintro ⟨rfl, hoidc⟩
    rw [htrimmed] at hread
    refine ⟨tokenString, _, hread,
      handler_eq_publisher_iff.mpr ⟨hoidc, hfound⟩, ?_⟩
    rw [authenticate_of_read hread, dispatch, if_neg hoidc, hfound]
    simp only [PublisherIssuer.authenticate,
      authenticateCached_of_genuine hgenuine hissuer, Except.map]

end Accepted

/-- For every configuration that is built with pairwise different trimmed URLs
and every genuine token that names a configured URL: the OIDC issuer accepts
its token exactly when the URL is the expected issuer, and a custom publisher
of any type accepts its token exactly when trimming leaves its URL alone and
the OIDC issuer is not told to expect it. -/
theorem own_tokens_accepted_iff (hagrees : library.Agrees)
    {network : Network} {config : IssuersConfig} {oidc : OIDCIssuer}
    {publishers : List PublisherIssuer} {jwkStore jtiStore : Bool}
    {registry : IssuerRegistry}
    (hbuilt : buildIssuers network library.toLower config =
      .ok (oidc, publishers))
    (hregistry : newIssuerRegistry (some oidc) publishers jwkStore jtiStore
      audience = .ok registry)
    (hdistinct : (oidc.url :: publishers.map PublisherIssuer.url).Nodup)
    (hbearer : extractBearerToken authorization = .ok tokenString)
    (store : TrustStore Document) (faults : StoreFaults) :
    (Genuine library now audience oidc.jwksURL tokenString token sub →
      token.issuer = some config.oidc.url →
      (AcceptedBy library now registry store faults authorization .oidc
          (oidc.principal library token sub) ↔
        config.oidc.url = config.oidc.expected)) ∧
    ∀ custom ∈ config.custom, ∃ publisher ∈ publishers,
      buildCustomIssuer network custom = .ok publisher ∧
      kindOfType custom.type = some publisher.kind ∧
      (Genuine library now audience publisher.jwksURL tokenString token sub →
        token.issuer = some custom.url →
        (AcceptedBy library now registry store faults authorization
            (.publisher publisher) (publisherPrincipal ⟨custom.url, sub⟩) ↔
          normalizeIssuerURL custom.url = custom.url ∧
            (config.oidc.expectedIssuer = "" ∨
              config.oidc.expected ≠ custom.url))) := by
  obtain ⟨rfl, hpublishers, rfl⟩ := newIssuerRegistry_eq_ok hregistry
  obtain ⟨hoidcURL, hoidc, hcustom⟩ := buildIssuers_eq_ok hbuilt
  obtain ⟨hurl, hexpected, -⟩ := newOIDCIssuer_eq_ok hoidc
  rw [List.nodup_cons] at hdistinct
  constructor
  · intro hgenuine hissuer
    rw [acceptedBy_oidc_iff hagrees hbearer hgenuine hissuer
      (ne_empty_of_validateIssuerURL hoidcURL), hexpected]
    rw [hexpected, trimSlashes_expected]
  · intro custom hmem
    obtain ⟨hcustomURL, publisher, hpublisher, hnew, hkind, htrimmed⟩ :=
      hcustom custom hmem
    refine ⟨publisher, hpublisher, hnew, hkind, ?_⟩
    intro hgenuine hissuer
    have hfound : registry.publishers publisher.url = some publisher := by
      rw [hpublishers]
      exact publisherMap_of_mem hdistinct.2 hpublisher
    rw [acceptedBy_publisher_iff hagrees hbearer hgenuine hissuer
      (ne_empty_of_validateIssuerURL hcustomURL)
      (by rw [htrimmed, trimSlashes_normalizeIssuerURL]) hfound, htrimmed,
      hexpected]
    have hother : config.oidc.expectedIssuer = "" →
        config.oidc.expected ≠ normalizeIssuerURL custom.url := by
      intro hempty heq
      rw [OIDCConfig.expected, if_pos hempty, ← hurl, ← htrimmed] at heq
      exact hdistinct.1 (heq ▸ List.mem_map_of_mem hpublisher)
    constructor
    · rintro ⟨hsame, hne⟩
      exact ⟨hsame.symm, .inr (Ne.symm hne)⟩
    · rintro ⟨hsame, hne⟩
      refine ⟨hsame.symm, Ne.symm ?_⟩
      rcases hne with hempty | hne
      · rw [← hsame]
        exact hother hempty
      · exact hne

end Genuine

/-! ## A publisher with and without a trailing slash -/

def ownConfig (customURL : String) : IssuersConfig where
  oidc := ⟨"https://id.example", "", "", "", "", ""⟩
  enabledShortnames := ["gitlab"]
  custom := [⟨customURL, "workload"⟩]

def ownNetwork : Network where
  newRequest := fun _ => none
  get := fun _ => .ok (200, .ok [])
  unmarshalDiscovery := fun _ => .ok "https://id.example/keys"
  newCache := none
  register := fun _ => none
  refresh := fun _ => none

def ownToken (issuer : String) : Token where
  issuer := some issuer
  subject := some "job-1"
  issuedAt := none
  expiration := none
  jwtID := none
  claims := .ok []

def idText : String := compactText
  ("eyJpc3MiOiJodHRwczovL2lkLmV4YW1wbGUiLCJzdWIiOiJqb2ItMSIsImF1ZCI6ImdhdGV3" ++
    "YXkifQ")

def ciText : String := compactText
  ("eyJpc3MiOiJodHRwczovL2NpLmV4YW1wbGUiLCJzdWIiOiJqb2ItMSIsImF1ZCI6ImdhdGV3" ++
    "YXkifQ")

def slashedText : String := compactText
  ("eyJpc3MiOiJodHRwczovL2NpLmV4YW1wbGUvIiwic3ViIjoiam9iLTEiLCJhdWQiOiJnYXRl" ++
    "d2F5In0")

def scannerText : String := compactText
  ("eyJpc3MiOiJzY2FubmVyLXNhc3QtcHJvZCIsInN1YiI6ImpvYi0xIiwiYXVkIjoiZ2F0ZXdh" ++
    "eSJ9")

/-- One token each of two issuers and a scanner, and one of an issuer whose URL
ends with a slash. -/
def ownTokens : List Signed :=
  [⟨idText, ownToken "https://id.example", [0]⟩,
    ⟨ciText, ownToken "https://ci.example", [0]⟩,
    ⟨slashedText, ownToken "https://ci.example/", [0]⟩,
    ⟨scannerText, ownToken "scanner-sast-prod", [1, 2]⟩]

def ownLibrary : Library Bytes := signedLibrary ownTokens

def ownOIDC : OIDCIssuer :=
  ⟨"https://id.example", "https://id.example", "https://id.example/keys", "",
    ["complytime-admin", "complytime-auditor"]⟩

def ownPublisher : PublisherIssuer :=
  ⟨.workload, "https://ci.example", "https://ci.example/.well-known/jwks.json"⟩

def ownPublishers : List PublisherIssuer :=
  [⟨.gitLabCI, "https://gitlab.com", "https://gitlab.com/.well-known/jwks.json"⟩,
   ownPublisher]

def ownRegistry : IssuerRegistry where
  oidc := ownOIDC
  publishers := publisherMap ownPublishers
  jwkStore := false
  jtiStore := false
  audience := "gateway"
  url_of_publishers := url_of_publisherMap
  jti_of_jwk := fun hjwk => hjwk

theorem readSigned_own {signed : Signed} (hmem : signed ∈ ownTokens) :
    readSigned ownTokens signed.tokenString = .ok signed :=
  readSigned_of_mem (by decide +kernel) hmem

theorem own_genuine {tokenString issuer : String}
    (hread : readSigned ownTokens tokenString =
      .ok ⟨tokenString, ownToken issuer, [0]⟩) (jwksURL : String) :
    Genuine ownLibrary 0 "gateway" jwksURL tokenString (ownToken issuer)
      "job-1" := by
  refine ⟨parseInsecure_signedLibrary hread, ⟨[0], rfl, ?_⟩, rfl, by decide⟩
  intro named hnamed
  have htimely : (ownToken issuer).timely (parseOptions named "gateway" 0) :=
    ⟨by simp [ownToken], by simp [ownToken]⟩
  exact signedLibrary_verified hread hnamed rfl htimely

/-- Both configured issuers accept their tokens when the URLs are trimmed. -/
theorem trimmed_issuers_accepted :
    AcceptedBy ownLibrary 0 ownRegistry (emptyTrustStore : TrustStore Unit)
      ⟨none, none⟩ ("Bearer " ++ idText) .oidc
      ⟨"https://id.example", "job-1", false, [], []⟩ ∧
    AcceptedBy ownLibrary 0 ownRegistry (emptyTrustStore : TrustStore Unit)
      ⟨none, none⟩ ("Bearer " ++ ciText) (.publisher ownPublisher)
      (publisherPrincipal ⟨"https://ci.example", "job-1"⟩) := by
  have hregistry : newIssuerRegistry (some ownOIDC) ownPublishers false false
      "gateway" = .ok ownRegistry := by rfl
  have hdistinct : (ownOIDC.url ::
      ownPublishers.map PublisherIssuer.url).Nodup := by decide
  have hid : extractBearerToken ("Bearer " ++ idText) = .ok idText :=
    extractBearerToken_bearer (by decide +kernel)
  have hci : extractBearerToken ("Bearer " ++ ciText) = .ok ciText :=
    extractBearerToken_bearer (by decide +kernel)
  have hidSigned := readSigned_own
    (show ⟨idText, ownToken "https://id.example", [0]⟩ ∈ ownTokens by
      simp [ownTokens])
  have hciSigned := readSigned_own
    (show ⟨ciText, ownToken "https://ci.example", [0]⟩ ∈ ownTokens by
      simp [ownTokens])
  constructor
  · have hbuilt : buildIssuers ownNetwork
        ownLibrary.toLower
        (ownConfig "https://ci.example") = .ok (ownOIDC, ownPublishers) := by
      rfl
    exact ((own_tokens_accepted_iff (signedLibrary_agrees _) hbuilt hregistry
      hdistinct hid _ _).1 (own_genuine hidSigned _) rfl).mpr (by decide)
  · have hbuilt : buildIssuers ownNetwork
        ownLibrary.toLower
        (ownConfig "https://ci.example") = .ok (ownOIDC, ownPublishers) := by
      rfl
    obtain ⟨publisher, -, hnew, -, haccepted⟩ :=
      (own_tokens_accepted_iff (signedLibrary_agrees _) hbuilt hregistry
        hdistinct hci emptyTrustStore ⟨none, none⟩).2
        ⟨"https://ci.example", "workload"⟩ List.mem_cons_self
    have hpublisher : buildCustomIssuer ownNetwork
        ⟨"https://ci.example", "workload"⟩ = .ok ownPublisher := by rfl
    rw [hpublisher] at hnew
    obtain rfl := Except.ok.inj hnew
    exact (haccepted (own_genuine hciSigned _) rfl).mpr (by decide)

/-- A publisher configured with a trailing slash is built, its genuine token is
dispatched to it, and it refuses the token. -/
theorem slashed_issuer_refused :
    buildIssuers ownNetwork ownLibrary.toLower
      (ownConfig "https://ci.example/") = .ok (ownOIDC, ownPublishers) ∧
    Genuine ownLibrary 0 "gateway" ownPublisher.jwksURL slashedText
      (ownToken "https://ci.example/") "job-1" ∧
    readToken ownLibrary ("Bearer " ++ slashedText) =
      .ok (slashedText, "https://ci.example") ∧
    ownRegistry.handler "https://ci.example" = .publisher ownPublisher ∧
    (authenticate ownLibrary 0 ownRegistry
      (emptyTrustStore : TrustStore Unit) ⟨none, none⟩
      ("Bearer " ++ slashedText)).1 =
        .error (.within "workload token validation failed"
          (.message "\"iss\" not satisfied")) := by
  have hsigned := readSigned_own
    (show ⟨slashedText, ownToken "https://ci.example/", [0]⟩ ∈ ownTokens by
      simp [ownTokens])
  have hgenuine := own_genuine hsigned ownPublisher.jwksURL
  have hread : readToken ownLibrary ("Bearer " ++ slashedText) =
      .ok (slashedText, "https://ci.example") := by
    have htrimmed : trimSlashes "https://ci.example/" =
        "https://ci.example" := by decide
    rw [readToken_of_peeked (extractBearerToken_bearer (by decide +kernel))
      hgenuine.peeked rfl (by decide), htrimmed]
  have hoidc : "https://ci.example" ≠ ownRegistry.oidc.expectedIssuer := by
    decide
  have hpublisher : ownRegistry.publishers "https://ci.example" =
      some ownPublisher := by decide
  have hrefused : ownLibrary.parse [0]
      (parseOptions "https://ci.example" "gateway" 0) slashedText =
        .error (.message "\"iss\" not satisfied") :=
    signedLibrary_refused hsigned (by decide)
  refine ⟨by rfl, hgenuine, hread,
    handler_eq_publisher_iff.mpr ⟨hoidc, hpublisher⟩, ?_⟩
  rw [authenticate_of_read hread, dispatch, if_neg hoidc, hpublisher]
  simp only [PublisherIssuer.authenticate, authenticateCached, validate]
  rw [show ownLibrary.lookup ownPublisher.jwksURL = .ok [0] from rfl]
  simp only [ownPublisher, ownRegistry, hrefused]
  rfl

end ComplyTime.Authn
