import ComplyTime.Authn.Registry
import ComplyTime.Core.Pattern

/-!
# Trust entries

Before a publisher is trusted for a subject, its identity is checked against
the rules of its issuer.  Each kind of publisher issuer has a format for its
subjects, the OIDC issuer refuses all of them, and a scanner key accepts its
own issuer ID.  The registry looks the issuer up among the configured ones;
scanner keys are not among them.
-/

namespace ComplyTime.Authn

open Pattern

/-! ## Formats of subjects -/

/-- The dot of a pattern: any character but the line feed. -/
def anyCharacter : Pattern := .one fun found => found != '\n'

/-- `gitHubSubPattern`. -/
def gitHubSubPattern : Pattern :=
  chain [literal "repo:", plus (except '/'), literal "/", plus (except '/'),
    literal ":", oneOf ["ref", "environment", "pull_request", "tag", "branch"],
    literal ":", .star anyCharacter]

/-- `gitLabSubPattern`. -/
def gitLabSubPattern : Pattern :=
  chain [literal "project_path:", plus (except ':'), literal "/",
    plus (except ':'), literal ":ref_type:", oneOf ["branch", "tag"],
    literal ":ref:", plus anyCharacter]

/-- `gcpSubPattern`, whose first alternative is open at its end. -/
def gcpSubPattern : Pattern :=
  .alt
    (chain [literal "https://iam.googleapis.com/", .star (.one fun _ => true)])
    (chain [plus (except '@'), literal "@", plus (except '@'),
      literal ".iam.gserviceaccount.com"])

/-- `kubernetesSubPattern`. -/
def kubernetesSubPattern : Pattern :=
  chain [literal "system:serviceaccount:", plus (except ':'), literal ":",
    plus (except ':')]

/-- `spiffeSubPattern`. -/
def spiffeSubPattern : Pattern :=
  chain [literal "spiffe://", plus (except '/'), literal "/", plus anyCharacter]

/-- The format of a kind's subjects, and what is said of a subject that does
not have it, before and after the subject; workload subjects are free. -/
def PublisherKind.subFormat :
    PublisherKind → Option (Pattern × String × String)
  | .gitHubActions => some (gitHubSubPattern, "invalid GitHub Actions sub ",
      ": must match repo:\x7bowner\x7d/\x7bname\x7d:\x7bfilter_type\x7d:" ++
        "\x7bvalue\x7d (e.g. repo:org/repo:ref:refs/heads/main)")
  | .gitLabCI => some (gitLabSubPattern, "invalid GitLab CI sub ",
      ": must match project_path:\x7bgroup\x7d/\x7bproject\x7d:ref_type:" ++
        "\x7bbranch|tag\x7d:ref:\x7bref_name\x7d")
  | .gcpWorkload => some (gcpSubPattern, "invalid GCP Workload Identity sub ",
      ": must be a workload identity pool URL " ++
        "(https://iam.googleapis.com/...) or service account email " ++
        "(\x7bname\x7d@\x7bproject\x7d.iam.gserviceaccount.com)")
  | .kubernetes => some (kubernetesSubPattern, "invalid Kubernetes sub ",
      ": must match system:serviceaccount:\x7bnamespace\x7d:\x7bname\x7d")
  | .spiffe => some (spiffeSubPattern, "invalid SPIFFE ID ",
      ": must match spiffe://\x7btrust_domain\x7d/\x7bpath\x7d")
  | .workload => none

def PublisherKind.validateTrustEntry (kind : PublisherKind) (sub : String) :
    Except GoError Unit :=
  if sub = "" then .error (.message "sub is required")
  else
    match kind.subFormat with
    | none => .ok ()
    | some (pattern, before, after) =>
      if matchString pattern sub then .ok ()
      else .error (.message (before ++ sub.quote ++ after))

def OIDCIssuer.validateTrustEntry (oidc : OIDCIssuer) : Except GoError Unit :=
  .error (.message ("OIDC issuer " ++ oidc.url.quote ++ " cannot be used as " ++
    "a trusted publisher: use a configured publisher issuer " ++
    "(github_actions, gitlab, gcp, kubernetes, spiffe, workload) or " ++
    "register a static JWK"))

/-- The scanner identity convention: the issuer ID is the subject. -/
def StaticJWKIssuer.validateTrustEntry (scanner : StaticJWKIssuer)
    (sub : String) : Except GoError Unit :=
  if sub = "" then .error (.message "sub is required")
  else if sub ≠ scanner.url then
    .error (.message ("static JWK issuer trust entries must have " ++
      "issuer == sub (got issuer=" ++ scanner.url.quote ++ " sub=" ++
      sub.quote ++ "); the scanner identity is the issuer ID"))
  else .ok ()

/-! ## Issuer URLs -/

/-- `strings.Index`. -/
def indexOf (piece : List Char) : List Char → Option ℕ
  | [] => if piece = [] then some 0 else none
  | character :: characters =>
    if piece.isPrefixOf (character :: characters) then some 0
    else (indexOf piece characters).map (· + 1)

/-- Everything before the first slash after the scheme, which ends at
`schemeEnd`. -/
def schemeAndHost (issuer : List Char) (schemeEnd : ℕ) : List Char :=
  match indexOf ['/'] (issuer.drop schemeEnd) with
  | none => issuer
  | some length => issuer.take (schemeEnd + length)

/-- `ValidateIssuerURL`; `toLower` is `strings.ToLower`. -/
def validateIssuerURL (toLower : String → String) (issuer : String) :
    Except GoError Unit :=
  match indexOf "://".toList issuer.toList with
  | none => .error (.message ("issuer " ++ issuer.quote ++ ": missing scheme"))
  | some position =>
    let checked := String.ofList (schemeAndHost issuer.toList (position + 3))
    if checked ≠ toLower checked then
      .error (.message ("issuer " ++ issuer.quote ++
        ": scheme and host must be lowercase"))
    else .ok ()

theorem ne_empty_of_validateIssuerURL {toLower : String → String}
    {issuer : String} (hvalid : validateIssuerURL toLower issuer = .ok ()) :
    issuer ≠ "" := by
  intro hempty
  subst hempty
  cases hvalid

/-! ## The registry -/

def unconfigured (issuerURL : String) : GoError :=
  .message ("issuer " ++ issuerURL.quote ++ " is not configured as a trusted " ++
    "publisher; add it to the service configuration or use scannerJwk for " ++
    "static JWK issuers")

def IssuerRegistry.validateTrustEntry (toLower : String → String)
    (registry : IssuerRegistry) (issuerURL sub : String) :
    Except GoError Unit :=
  match validateIssuerURL toLower issuerURL with
  | .error err => .error err
  | .ok () =>
    if issuerURL = registry.oidc.expectedIssuer then
      registry.oidc.validateTrustEntry
    else
      match registry.publishers issuerURL with
      | some publisher => publisher.kind.validateTrustEntry sub
      | none => .error (unconfigured issuerURL)

/-- Whoever is accepted belongs to a configured publisher issuer. -/
theorem validateTrustEntry_eq_ok {toLower : String → String}
    {registry : IssuerRegistry} {issuerURL sub : String}
    (haccepted : registry.validateTrustEntry toLower issuerURL sub = .ok ()) :
    validateIssuerURL toLower issuerURL = .ok () ∧
      ∃ publisher, registry.publishers issuerURL = some publisher ∧
        publisher.kind.validateTrustEntry sub = .ok () := by
  unfold IssuerRegistry.validateTrustEntry at haccepted
  split at haccepted
  · cases haccepted
  · rename_i hurl
    split at haccepted
    · cases haccepted
    · split at haccepted
      · rename_i publisher hpublisher
        exact ⟨hurl, publisher, hpublisher, haccepted⟩
      · cases haccepted

end ComplyTime.Authn
