import ComplyTime.Authn.TrustEntries
import ComplyTime.Gateway.Admin

/-!
# Registering a scanner

A scanner without an OIDC issuer is registered with its public key and a
trusted publisher whose issuer equals its subject.  `RegisterSubject` checks
the key against that convention, and then every trusted publisher against the
issuer registry, which knows configured issuers only.
-/

namespace ComplyTime.GatewayAdmin

open Authn Subjects

/-- The checks of a handler; `registry` is `h.registry`. -/
def registryValidators (toLower : String → String)
    (parseKey : Bytes → Except GoError Bool)
    (registry : Option IssuerRegistry) : Validators where
  validateTrustEntry :=
    registry.map fun configured => configured.validateTrustEntry toLower
  parseKey := parseKey

theorem scannerIssuerID_ne_empty {publishers : List TrustEntry}
    {scanner : TrustEntry} (hscanner : scanner ∈ publishers)
    (hconvention : scanner.issuer = scanner.sub)
    (hissuers : ∀ entry ∈ publishers, entry.issuer ≠ "") :
    scannerIssuerID publishers ≠ "" := by
  unfold scannerIssuerID
  split
  · rename_i entry hfound
    exact hissuers entry (List.mem_of_find?_eq_some hfound)
  · rename_i hnone
    rw [List.find?_eq_none] at hnone
    exact absurd hconvention (by simpa using hnone scanner hscanner)

variable {validators : Validators}

theorem checkScannerJWK_eq_ok {body : RegisterBody} {key : ScannerJWK}
    (hkey : body.scannerJWK = some key)
    (hpublic : validators.parseKey key.jwk = .ok false)
    (hissuerID : scannerIssuerID body.trustedPublishers ≠ "") :
    checkScannerJWK validators body = .ok () := by
  simp only [checkScannerJWK, hkey, if_neg hissuerID, hpublic]

theorem checkTrustEntries_of_no_registry
    (habsent : validators.validateTrustEntry = none)
    (describe : TrustEntry → GoError → String) (entries : List TrustEntry) :
    checkTrustEntries validators describe entries = .ok () := by
  cases entries with
  | nil => rfl
  | cons entry entries => simp only [checkTrustEntries, habsent]

/-- One refused entry is enough to answer 400. -/
theorem checkTrustEntries_of_refused
    {validate : String → String → Except GoError Unit}
    (hvalidate : validators.validateTrustEntry = some validate)
    (describe : TrustEntry → GoError → String) {entries : List TrustEntry}
    {refused : TrustEntry} (hmem : refused ∈ entries)
    (hrefused : validate refused.issuer refused.sub ≠ .ok ()) :
    ∃ content, checkTrustEntries validators describe entries =
      .error (badRequest content) := by
  induction entries with
  | nil => simp at hmem
  | cons entry entries ih =>
    simp only [checkTrustEntries, hvalidate]
    cases hentry : validate entry.issuer entry.sub with
    | error err => exact ⟨describe entry err, rfl⟩
    | ok _ =>
      apply ih
      rcases List.mem_cons.mp hmem with rfl | hlater
      · exact absurd hentry hrefused
      · exact hlater

/-- What is left of the validation once subject and key are in order. -/
theorem validateRegistration_eq {body : RegisterBody}
    (hsubject : ValidSubjectID body.subjectID)
    (hnonempty : body.trustedPublishers ≠ [])
    (hkey : checkScannerJWK validators body = .ok ()) :
    validateRegistration validators (some body) =
      (checkTrustEntries validators describeRegistrationEntry
        body.trustedPublishers).map fun _ => body := by
  have hvalid : validateSubjectID body.subjectID = .ok () := hsubject
  simp only [validateRegistration, if_neg hsubject.ne_empty, hvalid,
    if_neg hnonempty, hkey]
  cases checkTrustEntries validators describeRegistrationEntry
    body.trustedPublishers <;> rfl

/-- A request that registers a scanner's key for the issuer `url`, as the API
describes it: a valid subject, a public key, the entry of the scanner and
otherwise entries that are acceptable. -/
structure ScannerRequest (toLower : String → String)
    (parseKey : Bytes → Except GoError Bool)
    (registry : Option IssuerRegistry) (url : String) (body : RegisterBody) :
    Prop where
  subject : ValidSubjectID body.subjectID
  key : ∃ key, body.scannerJWK = some key ∧ parseKey key.jwk = .ok false
  scanner : ⟨url, url⟩ ∈ body.trustedPublishers
  accepted : validateIssuerURL toLower url = .ok ()
  foreign : ∀ configured, registry = some configured →
    url ≠ configured.oidc.expectedIssuer ∧ configured.publishers url = none
  others : ∀ entry ∈ body.trustedPublishers, entry = ⟨url, url⟩ ∨
    (validateIssuerURL toLower entry.issuer = .ok () ∧
      ∀ configured, registry = some configured →
        configured.validateTrustEntry toLower entry.issuer entry.sub = .ok ())

section Requests

variable {toLower : String → String} {parseKey : Bytes → Except GoError Bool}
  {registry : Option IssuerRegistry} {url : String} {body : RegisterBody}

theorem ScannerRequest.validateRegistration_eq
    (hrequest : ScannerRequest toLower parseKey registry url body) :
    validateRegistration (registryValidators toLower parseKey registry)
        (some body) =
      (checkTrustEntries (registryValidators toLower parseKey registry)
        describeRegistrationEntry body.trustedPublishers).map
          fun _ => body := by
  obtain ⟨key, hkey, hpublic⟩ := hrequest.key
  have hissuers : ∀ entry ∈ body.trustedPublishers, entry.issuer ≠ "" := by
    intro entry hentry
    rcases hrequest.others entry hentry with rfl | haccepted
    · exact ne_empty_of_validateIssuerURL hrequest.accepted
    · exact ne_empty_of_validateIssuerURL haccepted.1
  apply GatewayAdmin.validateRegistration_eq hrequest.subject
  · exact List.ne_nil_of_mem hrequest.scanner
  · exact checkScannerJWK_eq_ok hkey hpublic
      (scannerIssuerID_ne_empty hrequest.scanner rfl hissuers)

theorem ScannerRequest.refused {configured : IssuerRegistry}
    (hrequest : ScannerRequest toLower parseKey (some configured) url body) :
    ∃ content, validateRegistration
      (registryValidators toLower parseKey (some configured)) (some body) =
        .error (badRequest content) := by
  have hentry : configured.validateTrustEntry toLower url url ≠ .ok () := by
    intro haccepted
    obtain ⟨-, publisher, hpublisher, -⟩ := validateTrustEntry_eq_ok haccepted
    rw [(hrequest.foreign configured rfl).2] at hpublisher
    cases hpublisher
  have hvalidate : (registryValidators toLower parseKey
      (some configured)).validateTrustEntry =
        some (configured.validateTrustEntry toLower) := rfl
  obtain ⟨content, hcontent⟩ := checkTrustEntries_of_refused hvalidate
    describeRegistrationEntry hrequest.scanner hentry
  refine ⟨content, ?_⟩
  rw [hrequest.validateRegistration_eq, hcontent]
  rfl

/-- The scanner's rule accepts the entry, but the request is answered 400
unless the handler has no registry. -/
theorem scanner_registration_passes_iff
    (hrequest : ScannerRequest toLower parseKey registry url body) :
    (∀ jwk notAfter, (StaticJWKIssuer.mk url jwk notAfter).validateTrustEntry
      url = .ok ()) ∧
    (validateRegistration (registryValidators toLower parseKey registry)
      (some body) = .ok body ↔ registry = none) ∧
    (registry ≠ none → ∃ content, validateRegistration
      (registryValidators toLower parseKey registry) (some body) =
        .error (badRequest content)) := by
  have hnonempty := ne_empty_of_validateIssuerURL hrequest.accepted
  refine ⟨?_, ?_, ?_⟩
  · intro jwk notAfter
    simp [StaticJWKIssuer.validateTrustEntry, hnonempty]
  · cases registry with
    | none =>
      rw [hrequest.validateRegistration_eq,
        checkTrustEntries_of_no_registry rfl]
      exact ⟨fun _ => rfl, fun _ => rfl⟩
    | some configured =>
      obtain ⟨content, hcontent⟩ := hrequest.refused
      simp [hcontent]
  · intro hregistry
    obtain ⟨configured, rfl⟩ := Option.ne_none_iff_exists'.mp hregistry
    exact hrequest.refused

end Requests

/-! ## A scanner and a workflow -/

def asciiToLower (content : String) : String :=
  String.ofList (content.toList.map Char.toLower)

def publicKey (_ : Bytes) : Except GoError Bool := .ok false

def workflowIssuer : PublisherIssuer where
  kind := .gitHubActions
  url := "https://token.actions.githubusercontent.com"
  jwksURL := "https://token.actions.githubusercontent.com/.well-known/jwks"

def workflowRegistry : IssuerRegistry where
  oidc := ⟨"https://id.example", "https://id.example",
    "https://id.example/keys", "", []⟩
  publishers := publisherMap [workflowIssuer]
  jwkStore := true
  jtiStore := true
  audience := "gateway"
  url_of_publishers := url_of_publisherMap
  jti_of_jwk := fun _ => rfl

/-- A workflow and a scanner, with the scanner's key. -/
def scannerBody : RegisterBody where
  subjectID := "payments"
  trustedPublishers :=
    [⟨"https://token.actions.githubusercontent.com",
      "repo:acme/app:ref:refs/heads/main"⟩,
     ⟨"https://scanner.example", "https://scanner.example"⟩]
  scannerJWK := some ⟨[], 0⟩

theorem workflow_accepted :
    workflowRegistry.validateTrustEntry asciiToLower
      "https://token.actions.githubusercontent.com"
      "repo:acme/app:ref:refs/heads/main" = .ok () := by
  rfl

theorem scannerRequest_scannerBody (registry : Option IssuerRegistry)
    (hregistry : registry = none ∨ registry = some workflowRegistry) :
    ScannerRequest asciiToLower publicKey registry "https://scanner.example"
      scannerBody where
  subject := by decide
  key := ⟨_, rfl, rfl⟩
  scanner := by decide
  accepted := by rfl
  foreign := by
    rintro configured rfl
    obtain rfl : configured = workflowRegistry := by simpa using hregistry
    decide
  others := by
    intro entry hentry
    simp only [scannerBody, List.mem_cons, List.not_mem_nil, or_false] at hentry
    rcases hentry with rfl | rfl
    · right
      refine ⟨by rfl, ?_⟩
      rintro configured rfl
      obtain rfl : configured = workflowRegistry := by simpa using hregistry
      exact workflow_accepted
    · exact .inl rfl

theorem scannerBody_passes :
    validateRegistration (registryValidators asciiToLower publicKey none)
      (some scannerBody) = .ok scannerBody :=
  (scanner_registration_passes_iff
    (scannerRequest_scannerBody none (.inl rfl))).2.1.mpr rfl

/-- The request is as the API asks for it, and is answered 400. -/
theorem scannerBody_refused :
    ScannerRequest asciiToLower publicKey (some workflowRegistry)
      "https://scanner.example" scannerBody ∧
    ∃ content, validateRegistration (registryValidators asciiToLower publicKey
      (some workflowRegistry)) (some scannerBody) =
        .error (badRequest content) := by
  have hrequest := scannerRequest_scannerBody (some workflowRegistry)
    (.inr rfl)
  exact ⟨hrequest, hrequest.refused⟩

end ComplyTime.GatewayAdmin
