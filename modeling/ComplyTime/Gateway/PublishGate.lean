import ComplyTime.Authn.Registry
import ComplyTime.Authn.SignedTokens

/-!
# The publish gate

`POST /api/ingest` runs `AuthMiddleware`, `SubjectIDExtractor` and the
authorization middleware before its handler.  With the embedded policies alone
the handler is reached exactly by publishers whose identity stands in the
stored trust list of the subject that the request names.
-/

namespace ComplyTime.PublishGate

open Authn Authz Subjects Trust

def subjectIDExtractor (header : String) (ctx : Context) :
    Except Response Context :=
  if header = "" then .ok ctx
  else match validateSubjectID header with
  | .error _ => .error ⟨400, "Invalid X-Subject-ID"⟩
  | .ok () => .ok (ctx.setSubjectIDContext header)

/-- The two headers the gate reads. -/
structure Headers where
  authorization : String
  subjectID : String

structure GateFaults where
  authentication : StoreFaults
  trust : Option GoError

section Gate

variable {KeySet Document : Type*} (library : Library KeySet)
  (codec : TrustCodec Document) (registry : IssuerRegistry)
  (policySet : Cedar.PolicySet Cedar.Request) (cfg : MiddlewareConfig)
  (now : Time) (store : TrustStore Document) (faults : GateFaults)
  (headers : Headers)

/-- The middleware chain of `POST /api/ingest`: `.ok` is the context in which
`IngestArtifact` runs. -/
def ingestRoute : Except Response Context × TrustStore Document :=
  let authenticated := authMiddleware library now registry store
    faults.authentication headers.authorization
  (match authenticated.1 with
  | .error response => .error response
  | .ok ctx =>
    match subjectIDExtractor headers.subjectID ctx with
    | .error response => .error response
    | .ok ctx =>
      (middleware policySet
        (some (isPublisherTrusted codec authenticated.2 faults.trust)) cfg
        "POST" "/api/ingest" ctx).map fun _ => ctx,
 authenticated.2)

/-- The handler runs, in some context. -/
def Reached : Prop :=
  ∃ ctx, (ingestRoute library codec registry policySet cfg now store faults
    headers).1 = .ok ctx

end Gate

/-! ## The three stages -/

theorem extractor_eq_ok {header : String} {ctx extracted : Context}
    (hextract : subjectIDExtractor header ctx = .ok extracted) :
    (header = "" ∧ extracted = ctx) ∨
      (ValidSubjectID header ∧ extracted = ctx.setSubjectIDContext header) := by
  unfold subjectIDExtractor at hextract
  by_cases hempty : header = ""
  · rw [if_pos hempty] at hextract
    exact .inl ⟨hempty, (Except.ok.inj hextract).symm⟩
  · rw [if_neg hempty] at hextract
    split at hextract
    · cases hextract
    · rename_i hvalid
      exact .inr ⟨hvalid, (Except.ok.inj hextract).symm⟩

theorem extractor_of_valid {header : String} (ctx : Context)
    (hvalid : ValidSubjectID header) :
    subjectIDExtractor header ctx = .ok (ctx.setSubjectIDContext header) := by
  have hok : validateSubjectID header = .ok () := hvalid
  rw [subjectIDExtractor, if_neg hvalid.ne_empty, hok]

section Stages

variable {KeySet Document : Type*} {library : Library KeySet}
  {codec : TrustCodec Document} {registry : IssuerRegistry}
  {cfg : MiddlewareConfig} {now : Time} {store : TrustStore Document}
  {faults : GateFaults} {headers : Headers}

/-- The context of a request after the first two middlewares. -/
def gateContext (principal : Principal) (subjectID : String) : Context :=
  (principalContext principal).setSubjectIDContext subjectID

variable {policySet : Cedar.PolicySet Cedar.Request} {principal : Principal}

theorem ingestRoute_of_authenticate
    (haccepted : (authenticate library now registry store
      faults.authentication headers.authorization).1 = .ok principal) :
    (ingestRoute library codec registry policySet cfg now store faults
        headers).1 =
      match subjectIDExtractor headers.subjectID
        (principalContext principal) with
      | .error response => .error response
      | .ok ctx =>
        (middleware policySet
          (some (isPublisherTrusted codec store faults.trust)) cfg "POST"
          "/api/ingest" ctx).map fun _ => ctx := by
  have hbucket : (authenticate library now registry store
      faults.authentication headers.authorization).2.publisherKV =
        store.publisherKV := publisherKV_of_authenticate
  simp only [ingestRoute, authMiddleware, haccepted]
  rw [isPublisherTrusted_congr codec hbucket]

theorem not_reached_of_unauthenticated {err : GoError}
    (hrefused : (authenticate library now registry store
      faults.authentication headers.authorization).1 = .error err) :
    ¬ Reached library codec registry policySet cfg now store faults
      headers := by
  rintro ⟨ctx, hreached⟩
  simp only [ingestRoute, authMiddleware, hrefused] at hreached
  cases hreached

/-- An authenticated principal without the publisher flag, with an empty name
or without a subject is turned away. -/
theorem reached_iff_of_authenticate
    (haccepted : (authenticate library now registry store
      faults.authentication headers.authorization).1 = .ok principal) :
    Reached library codec registry (Cedar.ofDocument basePolicies) cfg now
        store faults headers ↔
      (principal.issuer ≠ "" ∧ principal.sub ≠ "") ∧
        ValidSubjectID headers.subjectID ∧ principal.publisher = true ∧
        isPublisherTrusted codec store faults.trust headers.subjectID
          principal.issuer principal.sub = .ok true := by
  unfold Reached
  rw [ingestRoute_of_authenticate haccepted]
  constructor
  · rintro ⟨ctx, hreached⟩
    split at hreached
    · cases hreached
    rename_i extracted hextract
    obtain ⟨⟨⟩, hpassed, -⟩ := map_eq_ok hreached
    rw [middleware_publish_iff] at hpassed
    obtain ⟨hnames, hsubject, hflag, htrusted⟩ := hpassed
    rcases extractor_eq_ok hextract with ⟨-, rfl⟩ | ⟨hvalid, rfl⟩
    · exact absurd rfl hsubject
    · exact ⟨hnames, hvalid, hflag, htrusted⟩
  · rintro ⟨hnames, hvalid, hflag, htrusted⟩
    refine ⟨gateContext principal headers.subjectID, ?_⟩
    rw [extractor_of_valid _ hvalid]
    have hpassed : middleware (Cedar.ofDocument basePolicies)
        (some (isPublisherTrusted codec store faults.trust)) cfg "POST"
        "/api/ingest" (gateContext principal headers.subjectID) = .ok () :=
      middleware_publish_iff.mpr ⟨hnames, hvalid.ne_empty, hflag, htrusted⟩
    change (middleware _ _ _ _ _ (gateContext principal
      headers.subjectID)).map _ = _
    rw [hpassed]
    rfl

/-! ## The gate -/

/-- Under the embedded policies the ingest handler is reached exactly when the
request authenticates an identity through a publisher-class branch, names a
valid subject, and the failure-free read of that subject's trust list yields
the identity. -/
theorem ingest_reached_iff {order : Cedar.IterationOrder Cedar.Request}
    {readDir : Except GoError (List DirEntry)}
    {policySet : Cedar.PolicySet Cedar.Request}
    (hembedded : loadEmbeddedPolicies order "" readDir = .ok policySet)
    (hagrees : library.Agrees) :
    Reached library codec registry policySet cfg now store faults headers ↔
      ∃ identity,
        PublisherClass library now registry store faults.authentication
          headers.authorization identity ∧
        ValidSubjectID headers.subjectID ∧ faults.trust = none ∧
        ∃ trustList,
          storedTrustList codec store headers.subjectID = some trustList ∧
          ⟨identity.issuer, identity.sub⟩ ∈ trustList := by
  rw [loadEmbeddedPolicies_embedded] at hembedded
  obtain rfl := Except.ok.inj hembedded
  constructor
  · intro hreached
    cases hattempt : (authenticate library now registry store
        faults.authentication headers.authorization).1 with
    | error err =>
      exact absurd hreached (not_reached_of_unauthenticated hattempt)
    | ok principal =>
      rw [reached_iff_of_authenticate hattempt] at hreached
      obtain ⟨-, hvalid, hflag, htrusted⟩ := hreached
      obtain ⟨identity, hclass, rfl⟩ :=
        publisherClass_of_authenticate hattempt hflag
      rw [isPublisherTrusted_eq_true_iff codec store faults.trust hvalid]
        at htrusted
      exact ⟨identity, hclass, hvalid, htrusted⟩
  · rintro ⟨identity, hclass, hvalid, htrusted⟩
    rw [reached_iff_of_authenticate hclass.authenticate_eq]
    refine ⟨hclass.ne_empty hagrees, hvalid, rfl, ?_⟩
    rw [isPublisherTrusted_eq_true_iff codec store faults.trust hvalid]
    exact htrusted

end Stages

/-! ## A trusted workload -/

def sampleToken : Token where
  issuer := some "https://ci.example"
  subject := some "job-1"
  issuedAt := none
  expiration := none
  jwtID := none
  claims := .ok []

def sampleText : String := compactText
  ("eyJpc3MiOiJodHRwczovL2NpLmV4YW1wbGUiLCJzdWIiOiJqb2ItMSIsImF1ZCI6ImdhdGV3" ++
    "YXkifQ")

def sampleLibrary : Library Bytes :=
  signedLibrary [⟨sampleText, sampleToken, [0]⟩]

def samplePublisher : PublisherIssuer where
  kind := .workload
  url := "https://ci.example"
  jwksURL := "https://ci.example/.well-known/jwks.json"

def sampleRegistry : IssuerRegistry where
  oidc := ⟨"https://id.example", "https://id.example",
    "https://id.example/keys", "", []⟩
  publishers := publisherMap [samplePublisher]
  jwkStore := true
  jtiStore := true
  audience := "gateway"
  url_of_publishers := url_of_publisherMap
  jti_of_jwk := fun _ => rfl

def sampleCodec : TrustCodec (List TrustEntry) := ⟨id, .ok⟩

def sampleStore : TrustStore (List TrustEntry) where
  publisherKV := KeyValue.emptyBucket.write (subjectKey "payments")
    [⟨"https://ci.example", "job-1"⟩]
  subjectKV := KeyValue.emptyBucket
  jwkKV := KeyValue.emptyBucket
  jtiKV := fun _ => none

theorem sample_workload_reaches_handler :
    Reached sampleLibrary sampleCodec sampleRegistry
      (Cedar.ofDocument basePolicies) ⟨"", ""⟩ 0 sampleStore
      ⟨⟨none, none⟩, none⟩ ⟨"Bearer " ++ sampleText, "payments"⟩ := by
  apply (ingest_reached_iff (loadEmbeddedPolicies_embedded Cedar.entryOrder
    (.ok [])) (signedLibrary_agrees _)).mpr
  have hdistinct : ([⟨sampleText, sampleToken, [0]⟩].map
      Signed.tokenString).Nodup := by simp
  have hsigned := readSigned_of_mem hdistinct List.mem_cons_self
  have hpeeked : sampleLibrary.parseInsecure sampleText = .ok sampleToken :=
    parseInsecure_signedLibrary hsigned
  have hread : readToken sampleLibrary ("Bearer " ++ sampleText) =
      .ok (sampleText, "https://ci.example") := by
    have htrimmed : trimSlashes "https://ci.example" =
        "https://ci.example" := by decide
    rw [readToken_of_peeked (extractBearerToken_bearer (by decide +kernel))
      hpeeked rfl (by decide), htrimmed]
  have hpublisher : sampleRegistry.publishers "https://ci.example" =
      some samplePublisher := by decide
  have haccepted : samplePublisher.authenticate sampleLibrary 0 sampleText
      sampleRegistry.audience = .ok ⟨"https://ci.example", "job-1"⟩ := by
    have hissuer : sampleToken.issuer = some samplePublisher.url := rfl
    have htimely : sampleToken.timely
        (parseOptions samplePublisher.url "gateway" 0) := by
      constructor <;> simp [sampleToken]
    rw [PublisherIssuer.authenticate, sampleLibrary, sampleRegistry,
      authenticateCached_signedLibrary hsigned hissuer rfl (by decide)
        htimely]
    rfl
  refine ⟨⟨"https://ci.example", "job-1"⟩,
    .configured hread (by decide) hpublisher haccepted, by decide, rfl,
    [⟨"https://ci.example", "job-1"⟩], ?_, by simp⟩
  simp [storedTrustList, sampleStore, sampleCodec, Except.toOption]

end ComplyTime.PublishGate
