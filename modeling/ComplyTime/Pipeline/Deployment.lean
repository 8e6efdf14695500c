import ComplyTime.Authz.PolicyOverlay
import ComplyTime.Gateway.PlainLibrary
import ComplyTime.Gateway.ScannerRegistration
import ComplyTime.Pipeline.System

/-!
# A deployment

The pipeline with the receipts `Wrap` makes of plain documents, SHA-256, the
issuer registry of one workload issuer, and the authorization middleware under
a set of policies.  The clock stands still.
-/

namespace ComplyTime.Pipeline

open JsonText GatewayAdmin

/-- `IsPublisherTrusted` on the list a read has yielded. -/
def lookupIn (trusted : Option (List TrustEntry)) : Authz.TrustLookup :=
  fun _ issuer sub => .ok ((trusted.getD []).any fun entry =>
    decide (entry.issuer = issuer) && decide (entry.sub = sub))

/-- The context that authentication leaves for a workload. -/
def workloadContext (subjectID : Subjects.SubjectID)
    (publisher : PublisherIdentity) : Authz.Context :=
  ⟨publisher.issuer, publisher.sub, true, [], [], subjectID⟩

def deploymentRegistry : Authn.IssuerRegistry :=
  { workflowRegistry with
    publishers := Authn.publisherMap
      [⟨.workload, "https://ci.example", "https://ci.example/keys"⟩]
    url_of_publishers := Authn.url_of_publisherMap }

def deploymentClock (_ : ℕ) : String := "2026-01-01T00:00:00Z"

def deploymentUnder (policySet : Cedar.PolicySet Cedar.Request) :
    Environment where
  sha256Hex := fun bytes => Ingest.hexString (Sha256.sha256 bytes)
  marshal := textBytes
  wrap := fun now content publisher subjectID artifactType =>
    Receipt.wrap Receipt.plainLibrary content publisher subjectID artifactType
      (deploymentClock now)
  validators :=
    registryValidators asciiToLower publicKey (some deploymentRegistry)
  authorizes := fun subjectID trusted publisher =>
    (Authz.middleware policySet (some (lookupIn trusted)) ⟨"", ""⟩ "POST"
      "/api/ingest" (workloadContext subjectID publisher)).isOk

/-- Without a directory of policies only the embedded ones are loaded. -/
def deployment : Environment :=
  deploymentUnder (Cedar.ofDocument Authz.basePolicies)

/-- The same environment with receipts and decisions in closed form. -/
def closedDeployment : Environment :=
  { deployment with
    wrap := fun now content publisher subjectID artifactType =>
      Receipt.wrapPlain content publisher subjectID artifactType
        (deploymentClock now)
    authorizes := fun subjectID trusted publisher =>
      decide (publisher.issuer ≠ "" ∧ publisher.sub ≠ "") &&
        decide (subjectID ≠ "") &&
        (trusted.getD []).any fun entry =>
          decide (entry.issuer = publisher.issuer) &&
            decide (entry.sub = publisher.sub) }

theorem isOk_eq_true_iff {Error : Type*} {result : Except Error Unit} :
    result.isOk = true ↔ result = .ok () := by
  cases result with
  | error err => simp [Except.isOk, Except.toBool]
  | ok value => simp [Except.isOk, Except.toBool]

theorem deployment_eq : deployment = closedDeployment := by
  have hwrap : deployment.wrap = closedDeployment.wrap := by
    funext now content publisher subjectID artifactType
    exact Receipt.wrap_plainLibrary content publisher subjectID artifactType
      (deploymentClock now)
  have hauthorizes : deployment.authorizes = closedDeployment.authorizes := by
    funext subjectID trusted publisher
    rw [Bool.eq_iff_iff]
    simp only [deployment, deploymentUnder, isOk_eq_true_iff,
      Authz.middleware_publish_iff, workloadContext, lookupIn,
      closedDeployment, Except.ok.injEq, Bool.and_eq_true, decide_eq_true_eq,
      true_and, and_assoc]
  calc deployment
      = { closedDeployment with
          wrap := deployment.wrap
          authorizes := deployment.authorizes } := rfl
    _ = closedDeployment := by rw [hwrap, hauthorizes]

/-! ## What an observer sees of a request -/

/-- The status of the response, if there is one. -/
def statusOf : GatewayStage → Option ℕ
  | .responded response => some response.status
  | _ => none

/-- The call, the status of its response, and the stage on the locker's side. -/
structure ObservedRequest where
  call : AdminCall
  status : Option ℕ
  locker : AdminSubscriber.AdminStage
  deriving DecidableEq

def Request.observed (request : Request) : ObservedRequest :=
  ⟨request.call, statusOf request.gateway, request.locker⟩

theorem exists_response_of_observed {found : Option Request}
    {call : AdminCall} {status : ℕ} {locker : AdminSubscriber.AdminStage}
    (hobserved : found.map Request.observed =
      some ⟨call, some status, locker⟩) :
    ∃ response : Response, response.status = status ∧
      found = some ⟨call, .responded response, locker⟩ := by
  obtain ⟨⟨call, stage, locker⟩, rfl, hvalues⟩ :=
    Option.map_eq_some_iff.mp hobserved
  cases stage with
  | responded response =>
    simp only [Request.observed, statusOf, ObservedRequest.mk.injEq,
      Option.some.injEq] at hvalues
    obtain ⟨rfl, hstatus, rfl⟩ := hvalues
    exact ⟨response, hstatus, rfl⟩
  | _ => simp [Request.observed, statusOf] at hvalues

/-! ## A trust modification -/

def sampleModification (publishers : List TrustEntry) : AdminCall :=
  .modifyTrust "alpha" (some ⟨some publishers⟩) sampleOperator

/-- The request is made and writes its list. -/
def sampleTrustWrite (id : ℕ) (publishers : List TrustEntry) : List Action :=
  [.call id (sampleModification publishers), .gateway id (.advance none),
    .gateway id (.advance none), .gateway id (.advance none)]

/-- The locker seals its receipt and the handler answers. -/
def sampleTrustSeal (id : ℕ) : List Action :=
  [.admin id .receive, .admin id (.acquire (.opened 0)),
    .admin id (.add none), .admin id .index, .gateway id (.hear (.reply ""))]

end ComplyTime.Pipeline
