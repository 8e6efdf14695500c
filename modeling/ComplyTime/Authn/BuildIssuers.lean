import ComplyTime.Authn.TrustEntries

/-!
# Building the issuers

`BuildIssuers` checks every configured URL before it uses the network, and then
constructs the OIDC issuer, the built-in publishers and the custom ones.  Each
constructor trims its URL, finds out where the issuer keeps its keys and
fetches them once.  What the network answers is a parameter; nothing of it but
the location of the keys ends up in an issuer.
-/

namespace ComplyTime.Authn

/-- `strings.TrimSpace`. -/
def trimSpace (content : String) : String :=
  String.ofList ((content.toList.dropWhile isSpace).rdropWhile isSpace)

/-- What every constructor makes of its URL. -/
def normalizeIssuerURL (issuerURL : String) : String :=
  trimSlashes (trimSpace issuerURL)

/-- The network as the constructors meet it. -/
structure Network where
  /-- `http.NewRequestWithContext`. -/
  newRequest : String → Option GoError
  /-- The status of the answer and the result of reading its body. -/
  get : String → Except GoError (ℕ × Except GoError Bytes)
  /-- The `jwks_uri` of a discovery document, empty when there is none. -/
  unmarshalDiscovery : Bytes → Except GoError String
  /-- `jwk.NewCache`. -/
  newCache : Option GoError
  /-- `jwk.Cache.Register`. -/
  register : String → Option GoError
  /-- `jwk.Cache.Refresh`. -/
  refresh : String → Option GoError

variable (network : Network)

def discoverJWKSURI (issuerURL : String) : Except GoError String :=
  let discoveryURL := issuerURL ++ "/.well-known/openid-configuration"
  match network.newRequest discoveryURL with
  | some err => .error (.within "building discovery request" err)
  | none =>
    match network.get discoveryURL with
    | .error err => .error (.within ("fetching " ++ discoveryURL) err)
    | .ok (status, body) =>
      if status ≠ 200 then
        .error (.message ("discovery endpoint " ++ discoveryURL ++
          " returned " ++ toString status))
      else match body with
      | .error err => .error (.within "reading discovery response" err)
      | .ok content =>
        match network.unmarshalDiscovery content with
        | .error err => .error (.within "parsing discovery document" err)
        | .ok jwksURI =>
          if jwksURI = "" then
            .error (.message ("discovery document at " ++
              discoveryURL ++ " missing jwks_uri"))
          else .ok jwksURI

/-- Create a key cache, register the location of the keys and fetch them. -/
def prefetch (creating registering fetching jwksURL : String) :
    Except GoError Unit :=
  match network.newCache with
  | some err => .error (.within creating err)
  | none =>
    match network.register jwksURL with
    | some err => .error (.within (registering ++ jwksURL) err)
    | none =>
      match network.refresh jwksURL with
      | some err => .error (.within (fetching ++ jwksURL) err)
      | none => .ok ()

/-! ## Publisher issuers -/

/-- The name of the kind in the errors of its constructor. -/
def PublisherKind.label : PublisherKind → String
  | .gitHubActions => "GitHub Actions"
  | .gitLabCI => "GitLab CI"
  | .gcpWorkload => "GCP Workload Identity"
  | .kubernetes => "Kubernetes"
  | .spiffe => "SPIFFE"
  | .workload => "workload"

def PublisherKind.creating : PublisherKind → String
  | .kubernetes => "creating JWKS cache for Kubernetes issuer"
  | .workload => "creating JWKS cache for workload issuer"
  | kind => "creating JWKS cache for " ++ kind.label

/-- What the publisher constructors share: `locate` finds the keys of the
trimmed URL. -/
def newPublisherIssuer (kind : PublisherKind)
    (locate : String → Except GoError String) (issuerURL : String) :
    Except GoError PublisherIssuer :=
  let url := normalizeIssuerURL issuerURL
  match locate url with
  | .error err => .error err
  | .ok jwksURL =>
    match prefetch network kind.creating
        ("registering " ++ kind.label ++ " JWKS ")
        (kind.fetching ++ " from ") jwksURL with
    | .error err => .error err
    | .ok () => .ok ⟨kind, url, jwksURL⟩

def wellKnownJWKS (url : String) : Except GoError String :=
  .ok (url ++ "/.well-known/jwks.json")

def withDefault (standard issuerURL : String) : String :=
  if issuerURL = "" then standard else issuerURL

def gitHubActionsIssuerURL : String :=
  "https://token.actions.githubusercontent.com"

def newGitHubActionsIssuer (issuerURL : String) :
    Except GoError PublisherIssuer :=
  newPublisherIssuer network .gitHubActions wellKnownJWKS
    (withDefault gitHubActionsIssuerURL issuerURL)

def gitLabCIIssuerURL : String := "https://gitlab.com"

def newGitLabCIIssuer (issuerURL : String) : Except GoError PublisherIssuer :=
  newPublisherIssuer network .gitLabCI wellKnownJWKS
    (withDefault gitLabCIIssuerURL issuerURL)

def gcpWorkloadIssuerURL : String := "https://accounts.google.com"

def gcpDefaultJWKSURL : String := "https://www.googleapis.com/oauth2/v3/certs"

/-- The public issuer keeps its keys elsewhere. -/
def newGCPWorkloadIssuer (issuerURL : String) :
    Except GoError PublisherIssuer :=
  newPublisherIssuer network .gcpWorkload
    (fun url =>
      if url = gcpWorkloadIssuerURL then .ok gcpDefaultJWKSURL
      else wellKnownJWKS url)
    (withDefault gcpWorkloadIssuerURL issuerURL)

/-- The keys of a cluster are found by discovery. -/
def newKubernetesIssuer (issuerURL : String) :
    Except GoError PublisherIssuer :=
  if issuerURL = "" then
    .error (.message ("issuerURL is required for Kubernetes (use the " ++
      "cluster OIDC provider URL)"))
  else newPublisherIssuer network .kubernetes
    (fun url => (discoverJWKSURI network url).mapError
      (.within ("OIDC discovery for Kubernetes issuer " ++ url)))
    issuerURL

def newSPIFFEIssuer (issuerURL : String) : Except GoError PublisherIssuer :=
  if issuerURL = "" then
    .error (.message
      "issuerURL is required for SPIFFE (no default trust domain)")
  else newPublisherIssuer network .spiffe wellKnownJWKS issuerURL

def newWorkloadIssuer (issuerURL : String) : Except GoError PublisherIssuer :=
  if issuerURL = "" then
    .error (.message "issuerURL is required for workload issuer")
  else newPublisherIssuer network .workload wellKnownJWKS issuerURL

/-! ## The OIDC issuer -/

/-- `OIDCConfig`, whose fields `OIDCIssuerConfig` repeats. -/
structure OIDCConfig where
  url : String
  expectedIssuer : String
  groupClaim : String
  adminGroup : String
  auditorGroup : String
  groupMode : String

/-- The groups whose members the issuer reports. -/
def OIDCConfig.knownGroups (config : OIDCConfig) : List String :=
  [if config.adminGroup = "" then "complytime-admin" else config.adminGroup,
   if config.auditorGroup = "" then "complytime-auditor"
     else config.auditorGroup]

/-- The issuer claim that tokens have to carry. -/
def OIDCConfig.expected (config : OIDCConfig) : String :=
  if config.expectedIssuer = "" then normalizeIssuerURL config.url
  else normalizeIssuerURL config.expectedIssuer

def newOIDCIssuer (config : OIDCConfig) : Except GoError OIDCIssuer :=
  if config.url = "" then .error (.message "OIDC_ISSUER is required")
  else
    let issuerURL := normalizeIssuerURL config.url
    match discoverJWKSURI network issuerURL with
    | .error err => .error (.within ("OIDC discovery for " ++ issuerURL) err)
    | .ok jwksURL =>
      match prefetch network "creating JWKS cache" "registering JWKS "
          "fetching JWKS from " jwksURL with
      | .error err => .error err
      | .ok () =>
        if config.groupMode ∈ ["enforce", "audit", ""] then
          .ok ⟨issuerURL, config.expected, jwksURL, config.groupClaim,
            config.knownGroups⟩
        else .error (.message ("invalid OIDC_GROUP_MODE " ++
          config.groupMode.quote ++ ": must be \"enforce\" or \"audit\""))

/-! ## `BuildIssuers` -/

structure CustomIssuerConfig where
  url : String
  type : String

structure IssuersConfig where
  oidc : OIDCConfig
  enabledShortnames : List String
  custom : List CustomIssuerConfig

/-- The kind that a configured type names. -/
def kindOfType : String → Option PublisherKind
  | "github" => some .gitHubActions
  | "gitlab" => some .gitLabCI
  | "gcp" => some .gcpWorkload
  | "kubernetes" => some .kubernetes
  | "spiffe" => some .spiffe
  | "workload" => some .workload
  | _ => none

def unknownType (type : String) : GoError :=
  .message ("unknown type " ++ type.quote ++ "; valid types: github, " ++
    "gitlab, gcp, kubernetes, spiffe, workload")

def validateCustomIssuerType (type : String) : Except GoError Unit :=
  if (kindOfType type).isSome then .ok () else .error (unknownType type)

def buildKnownIssuer (shortname : String) : Except GoError PublisherIssuer :=
  match shortname with
  | "github_actions" => newGitHubActionsIssuer network ""
  | "gitlab" => newGitLabCIIssuer network ""
  | "gcp" => newGCPWorkloadIssuer network ""
  | _ => .error (.message ("unknown shortname " ++ shortname.quote))

def buildCustomIssuer (custom : CustomIssuerConfig) :
    Except GoError PublisherIssuer :=
  match kindOfType custom.type with
  | some .gitHubActions => newGitHubActionsIssuer network custom.url
  | some .gitLabCI => newGitLabCIIssuer network custom.url
  | some .gcpWorkload => newGCPWorkloadIssuer network custom.url
  | some .kubernetes => newKubernetesIssuer network custom.url
  | some .spiffe => newSPIFFEIssuer network custom.url
  | some .workload => newWorkloadIssuer network custom.url
  | none => .error (unknownType custom.type)

/-- The checks of a custom entry that come before any connection. -/
def checkCustom (toLower : String → String) (custom : CustomIssuerConfig) :
    Except GoError Unit :=
  if custom.url = "" then
    .error (.message "custom issuer entry missing url")
  else
    match validateIssuerURL toLower custom.url with
    | .error err => .error (.within "custom issuer" err)
    | .ok () => validateCustomIssuerType custom.type

def buildIssuers (toLower : String → String) (config : IssuersConfig) :
    Except GoError (OIDCIssuer × List PublisherIssuer) := do
  (validateIssuerURL toLower config.oidc.url).mapError (.within "OIDC issuer")
  config.custom.forM (checkCustom toLower)
  let primary ← (newOIDCIssuer network config.oidc).mapError
    (.within "OIDC issuer")
  let known ← config.enabledShortnames.mapM fun name =>
    (buildKnownIssuer network name).mapError
      (.within ("known issuer " ++ name.quote))
  let custom ← config.custom.mapM fun entry =>
    (buildCustomIssuer network entry).mapError
      (.within ("custom issuer " ++ entry.url.quote))
  return (primary, known ++ custom)

/-! ## What has been built -/

section Built

variable {network}

variable {issuer : PublisherIssuer} {custom : CustomIssuerConfig}
  {toLower : String → String}

theorem newPublisherIssuer_eq_ok {kind : PublisherKind}
    {locate : String → Except GoError String} {issuerURL : String}
    (hbuilt : newPublisherIssuer network kind locate issuerURL = .ok issuer) :
    issuer.kind = kind ∧ issuer.url = normalizeIssuerURL issuerURL := by
  unfold newPublisherIssuer at hbuilt
  simp only at hbuilt
  split at hbuilt
  · cases hbuilt
  split at hbuilt
  · cases hbuilt
  obtain rfl := Except.ok.inj hbuilt
  exact ⟨rfl, rfl⟩

theorem withDefault_of_ne {standard issuerURL : String}
    (hne : issuerURL ≠ "") : withDefault standard issuerURL = issuerURL :=
  if_neg hne

theorem buildCustomIssuer_eq_ok (hne : custom.url ≠ "")
    (hbuilt : buildCustomIssuer network custom = .ok issuer) :
    kindOfType custom.type = some issuer.kind ∧
      issuer.url = normalizeIssuerURL custom.url := by
  have hnew : ∀ {kind locate},
      newPublisherIssuer network kind locate custom.url = .ok issuer →
      some kind = some issuer.kind ∧
        issuer.url = normalizeIssuerURL custom.url := by
    intro kind locate hissuer
    obtain ⟨hkind, hurl⟩ := newPublisherIssuer_eq_ok hissuer
    exact ⟨congrArg some hkind.symm, hurl⟩
  unfold buildCustomIssuer at hbuilt
  cases hkind : kindOfType custom.type with
  | none =>
    rw [hkind] at hbuilt
    cases hbuilt
  | some kind =>
    rw [hkind] at hbuilt
    cases kind with
    | gitHubActions =>
      simp only [newGitHubActionsIssuer, withDefault_of_ne hne] at hbuilt
      exact hnew hbuilt
    | gitLabCI =>
      simp only [newGitLabCIIssuer, withDefault_of_ne hne] at hbuilt
      exact hnew hbuilt
    | gcpWorkload =>
      simp only [newGCPWorkloadIssuer, withDefault_of_ne hne] at hbuilt
      exact hnew hbuilt
    | kubernetes =>
      simp only [newKubernetesIssuer, if_neg hne] at hbuilt
      exact hnew hbuilt
    | spiffe =>
      simp only [newSPIFFEIssuer, if_neg hne] at hbuilt
      exact hnew hbuilt
    | workload =>
      simp only [newWorkloadIssuer, if_neg hne] at hbuilt
      exact hnew hbuilt

/-- The OIDC issuer has the trimmed URLs and the groups of its
configuration. -/
theorem newOIDCIssuer_eq_ok {config : OIDCConfig} {issuer : OIDCIssuer}
    (hbuilt : newOIDCIssuer network config = .ok issuer) :
    issuer.url = normalizeIssuerURL config.url ∧
      issuer.expectedIssuer = config.expected ∧
      issuer.groupClaim = config.groupClaim ∧
      issuer.knownGroups = config.knownGroups := by
  unfold newOIDCIssuer at hbuilt
  split at hbuilt
  · cases hbuilt
  simp only at hbuilt
  split at hbuilt
  · cases hbuilt
  split at hbuilt
  · cases hbuilt
  split at hbuilt
  · obtain rfl := Except.ok.inj hbuilt
    exact ⟨rfl, rfl, rfl, rfl⟩
  · cases hbuilt

theorem checkCustom_eq_ok (hchecked : checkCustom toLower custom = .ok ()) :
    custom.url ≠ "" ∧ validateIssuerURL toLower custom.url = .ok () := by
  unfold checkCustom at hchecked
  split at hchecked
  · cases hchecked
  rename_i hne
  split at hchecked
  · cases hchecked
  rename_i hurl
  exact ⟨hne, hurl⟩

/-- Every URL has been checked, the OIDC issuer is built from its part of the
configuration, and every custom entry has a publisher of its type under its
trimmed URL. -/
theorem buildIssuers_eq_ok {config : IssuersConfig} {oidc : OIDCIssuer}
    {publishers : List PublisherIssuer}
    (hbuilt : buildIssuers network toLower config = .ok (oidc, publishers)) :
    validateIssuerURL toLower config.oidc.url = .ok () ∧
      newOIDCIssuer network config.oidc = .ok oidc ∧
      ∀ custom ∈ config.custom,
        validateIssuerURL toLower custom.url = .ok () ∧
        ∃ issuer ∈ publishers, buildCustomIssuer network custom = .ok issuer ∧
          kindOfType custom.type = some issuer.kind ∧
          issuer.url = normalizeIssuerURL custom.url := by
  unfold buildIssuers at hbuilt
  obtain ⟨⟨⟩, hurl, hbuilt⟩ := bind_eq_ok hbuilt
  obtain ⟨⟨⟩, hchecked, hbuilt⟩ := bind_eq_ok hbuilt
  obtain ⟨primary, hprimary, hbuilt⟩ := bind_eq_ok hbuilt
  obtain ⟨known, -, hbuilt⟩ := bind_eq_ok hbuilt
  obtain ⟨built, hcustom, hbuilt⟩ := bind_eq_ok hbuilt
  obtain ⟨rfl, rfl⟩ := Prod.mk.inj (Except.ok.inj hbuilt)
  refine ⟨mapError_eq_ok.mp hurl, mapError_eq_ok.mp hprimary, ?_⟩
  intro custom hmem
  obtain ⟨hne, hvalid⟩ := checkCustom_eq_ok (forM_eq_ok_mem hchecked hmem)
  obtain ⟨issuer, hissuer, hnew⟩ := mapM_eq_ok_mem hcustom hmem
  rw [mapError_eq_ok] at hnew
  exact ⟨hvalid, issuer, List.mem_append_right known hissuer, hnew,
    buildCustomIssuer_eq_ok hne hnew⟩

end Built

end ComplyTime.Authn
