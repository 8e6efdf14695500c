import ComplyTime.Authz.Middleware
import ComplyTime.Gateway.Receipt

/-!
# Ingesting artifacts

`IngestArtifact` reads at most 256 KiB, takes envelopes as they are, and
decodes, cross-checks and validates everything else before it wraps the body
and publishes the work item.  `SchemaRegistry.Validate` here also reports which
schema the body has passed, if any; the code returns only the error.
-/

namespace ComplyTime.Ingest

open Json Receipt Subjects

/-! ## `SchemaRegistry` -/

/-- A compiled schema: `.error` lists the violations. -/
abbrev Schema := Members → Except (List String) Unit

/-- The Gemara types with an embedded schema, in sorted order. -/
def schemaTypes : List String :=
  ["AuditLog", "CapabilityCatalog", "ControlCatalog", "EnforcementLog",
   "EvaluationLog", "GuidanceCatalog", "Lexicon", "MappingDocument", "Policy",
   "PrincipleCatalog", "RiskCatalog", "ThreatCatalog", "VectorCatalog"]

/-- `schemas[artifactType]`; `compile` is the schema compiler applied to the
embedded file of each type. -/
def schemaFor (compile : String → Schema) (artifactType : String) :
    Option Schema :=
  if artifactType ∈ schemaTypes then some (compile artifactType) else none

structure ValidationError where
  artifactType : String
  details : List String
  deriving DecidableEq, Repr

def unsupportedType (artifactType : String) : ValidationError where
  artifactType := artifactType
  details := ["unsupported artifact type '" ++ artifactType ++
    "', supported types: [" ++ String.intercalate " " schemaTypes ++ "]"]

/-- `metadata.type` by exact keys, the empty text when it is no string. -/
def metadataType (artifact : Members) : String :=
  ((objectMember "metadata" artifact).bind (stringMember "type")).getD ""

/-- Run the schema of the type on the artifact. -/
def checkSchema (schema : Schema) (artifactType : String)
    (artifact : Members) : Except ValidationError (Option String) :=
  match schema artifact with
  | .error details => .error ⟨artifactType, details⟩
  | .ok () => .ok (some artifactType)

def validateArtifact (compile : String → Schema) (artifact : Members) :
    Except ValidationError (Option String) :=
  if metadataType artifact = "" then
    match stringMember "type" artifact with
    | none => .ok none
    | some topLevelType =>
      match schemaFor compile topLevelType with
      | none => .ok none
      | some schema => checkSchema schema topLevelType artifact
  else match schemaFor compile (metadataType artifact) with
  | none => .error (unsupportedType (metadataType artifact))
  | some schema => checkSchema schema (metadataType artifact) artifact

/-- `SchemaRegistry.Validate`; success names the schema the artifact passed. -/
def validate (library : Library) (compile : String → Schema)
    (artifactBytes : Bytes) : Except ValidationError (Option String) :=
  match unmarshalMap library artifactBytes with
  | .error err => .error ⟨"unknown", ["invalid JSON: " ++ err.error]⟩
  | .ok artifact => validateArtifact compile artifact

/-! ## `IngestArtifact` -/

def maxBodySize : ℕ := 256 * 1024

def contentTypeDSSE : String := "application/vnd.dsse+json"

structure Request where
  ctx : Authz.Context
  /-- The body as the client sends it. -/
  body : Bytes
  readFails : Bool
  subjectID : String
  contentType : String

/-- What happens around the handler: the clock, the fresh job ID and the
outcome of the JetStream publication. -/
structure Surroundings where
  receivedAt : String
  jobID : String
  publishError : Option GoError

inductive Refusal
  | plain (response : Response)
  | invalid (err : ValidationError)
  deriving DecidableEq, Repr

/-- What an accepted request has sent out, and the schema it has passed. -/
structure Accepted where
  ref : IngestRef
  ingested : EvidenceIngestedData
  checkedSchema : Option String

def refuse (status : ℕ) (body : String) : Refusal := .plain ⟨status, body⟩

def hexDigit (value : ℕ) : Char :=
  "0123456789abcdef".toList.getD value '0'

/-- `hex.EncodeToString`. -/
def hexString (bytes : Bytes) : String :=
  String.ofList (bytes.flatMap fun byte =>
    [hexDigit (byte.toNat / 16), hexDigit (byte.toNat % 16)])

/-- The subject the body names: `target.id`, else `subjectId`. -/
def bodySubjectID (artifact : Members) : String :=
  let target :=
    ((objectMember "target" artifact).bind (stringMember "id")).getD ""
  if target = "" then (stringMember "subjectId" artifact).getD "" else target

/-- The type that goes into the receipt: `metadata.type` when it is a string,
and the top-level type when that leaves `unknown`. -/
def recordedType (artifact : Members) : String :=
  let nested := ((objectMember "metadata" artifact).bind
    (stringMember "type")).getD "unknown"
  if nested = "unknown" then
    (stringMember "type" artifact).getD "unknown"
  else nested

/-- The type of the body and the schema it has passed. -/
def classify (library : Library) (compile : String → Schema)
    (request : Request) (body : Bytes) :
    Except Refusal (String × Option String) :=
  if request.contentType = contentTypeDSSE then .ok ("dsse", none)
  else match unmarshalMap library body with
  | .error _ => .error (refuse 400 "Invalid JSON")
  | .ok artifact =>
    if bodySubjectID artifact ≠ "" ∧
        bodySubjectID artifact ≠ request.subjectID then
      .error (refuse 400 "X-Subject-ID header does not match artifact body")
    else match validate library compile body with
    | .error err => .error (.invalid err)
    | .ok checked => .ok (recordedType artifact, checked)

/-- Wrap and publish a classified body. -/
def submit (library : Library) (surroundings : Surroundings)
    (request : Request) (body : Bytes) (artifactType : String)
    (checked : Option String) : Except Refusal Accepted :=
  let publisher : PublisherIdentity := ⟨request.ctx.issuer, request.ctx.sub⟩
  let contentDigest := hexString (library.sha256 body)
  match wrap library body publisher request.subjectID artifactType
      surroundings.receivedAt with
  | .error err => .error (refuse 500 ("Failed to wrap receipt: " ++ err.error))
  | .ok receiptBytes =>
    match surroundings.publishError with
    | some err => .error
        (refuse 500 ("Failed to publish to JetStream: " ++ err.error))
    | none => .ok
        { ref := ⟨surroundings.jobID, request.subjectID, contentDigest,
            artifactType, receiptBytes⟩
          ingested := ⟨contentDigest, artifactType, "", request.subjectID,
            publisher⟩
          checkedSchema := checked }

/-- What the body reader returns. -/
def readBody (request : Request) : Bytes := request.body.take maxBodySize

def ingestArtifact (library : Library) (compile : String → Schema)
    (surroundings : Surroundings) (request : Request) :
    Except Refusal Accepted :=
  if request.ctx.issuer = "" ∨ request.ctx.sub = "" then
    .error (refuse 401 "Unauthorized: missing publisher identity")
  else if request.readFails then
    .error (refuse 400 "Failed to read request body")
  else if readBody request = [] then
    .error (refuse 400 "Empty request body")
  else if request.subjectID = "" then
    .error (refuse 400 "Missing X-Subject-ID header")
  else match validateSubjectID request.subjectID with
  | .error err => .error (refuse 400 ("Invalid subject ID: " ++ err.error))
  | .ok () =>
    match classify library compile request (readBody request) with
    | .error refusal => .error refusal
    | .ok (artifactType, checked) =>
      submit library surroundings request (readBody request) artifactType
        checked

theorem eq_of_hexDigit_eq {first second : ℕ} (hfirst : first < 16)
    (hsecond : second < 16) (hdigit : hexDigit first = hexDigit second) :
    first = second := by
  have hinjective : ∀ left right : Fin 16,
      hexDigit left = hexDigit right → left = right := by decide
  exact congrArg Fin.val (hinjective ⟨first, hfirst⟩ ⟨second, hsecond⟩ hdigit)

theorem hexString_injective : Function.Injective hexString := by
  intro left right heq
  have hdigits := String.ofList_injective heq
  clear heq
  induction left generalizing right with
  | nil =>
    cases right with
    | nil => rfl
    | cons byte right => cases hdigits
  | cons byte left ih =>
    cases right with
    | nil => cases hdigits
    | cons other right =>
      simp only [List.flatMap_cons, List.cons_append, List.nil_append,
        List.cons.injEq] at hdigits
      obtain ⟨hhigh, hlow, hrest⟩ := hdigits
      have hbyte : byte.toNat < 256 := byte.toNat_lt
      have hother : other.toNat < 256 := other.toNat_lt
      have hquotient : byte.toNat / 16 = other.toNat / 16 :=
        eq_of_hexDigit_eq (by omega) (by omega) hhigh
      have hremainder : byte.toNat % 16 = other.toNat % 16 :=
        eq_of_hexDigit_eq (by omega) (by omega) hlow
      have hsame : byte = other := UInt8.toNat.inj (by omega)
      rw [hsame, ih hrest]

variable {body : Bytes} {artifactType : String} {checked : Option String}

theorem classify_envelope {library : Library} {compile : String → Schema}
    {request : Request} (henvelope : request.contentType = contentTypeDSSE) :
    classify library compile request body = .ok ("dsse", none) :=
  if_pos henvelope

/-- A classified body that can be wrapped and published is accepted. -/
theorem ingestArtifact_classified {library : Library}
    {compile : String → Schema} {surroundings : Surroundings}
    {request : Request} {receiptBytes : Bytes}
    (hissuer : request.ctx.issuer ≠ "") (hsub : request.ctx.sub ≠ "")
    (hread : request.readFails = false) (hbody : readBody request ≠ [])
    (hsubject : ValidSubjectID request.subjectID)
    (hclassified : classify library compile request (readBody request) =
      .ok (artifactType, checked))
    (hpublish : surroundings.publishError = none)
    (hwrap : wrap library (readBody request)
      ⟨request.ctx.issuer, request.ctx.sub⟩ request.subjectID artifactType
      surroundings.receivedAt = .ok receiptBytes) :
    ingestArtifact library compile surroundings request = .ok
      { ref := ⟨surroundings.jobID, request.subjectID,
          hexString (library.sha256 (readBody request)), artifactType,
          receiptBytes⟩
        ingested := ⟨hexString (library.sha256 (readBody request)),
          artifactType, "", request.subjectID,
          ⟨request.ctx.issuer, request.ctx.sub⟩⟩
        checkedSchema := checked } := by
  have hvalid : validateSubjectID request.subjectID = .ok () := hsubject
  have hidentity : ¬ (request.ctx.issuer = "" ∨ request.ctx.sub = "") := by
    simp [hissuer, hsub]
  simp only [ingestArtifact, if_neg hidentity, hread, Bool.false_eq_true,
    if_false, if_neg hbody, if_neg hsubject.ne_empty, hvalid, hclassified,
    submit, hwrap, hpublish]

/-! ## Accepted requests -/

section Accepted

variable {library : Library} {compile : String → Schema}
  {surroundings : Surroundings} {request : Request} {accepted : Accepted}

/-- An accepted body was classified and submitted. -/
theorem submit_of_ingestArtifact
    (haccepted : ingestArtifact library compile surroundings request =
      .ok accepted) :
    ∃ artifactType checked,
      classify library compile request (readBody request) =
        .ok (artifactType, checked) ∧
      submit library surroundings request (readBody request) artifactType
        checked = .ok accepted := by
  unfold ingestArtifact at haccepted
  repeat' split at haccepted
  all_goals try cases haccepted
  rename_i artifactType checked hclassified
  exact ⟨artifactType, checked, hclassified, haccepted⟩

/-- A submitted body was wrapped, and both announcements carry its digest. -/
theorem submit_eq_ok
    (haccepted : submit library surroundings request body artifactType
      checked = .ok accepted) :
    accepted.checkedSchema = checked ∧
      wrap library body ⟨request.ctx.issuer, request.ctx.sub⟩
        request.subjectID artifactType surroundings.receivedAt =
          .ok accepted.ref.receiptBytes ∧
      accepted.ref.contentDigest = hexString (library.sha256 body) ∧
      accepted.ingested.contentDigest = hexString (library.sha256 body) := by
  unfold submit at haccepted
  simp only at haccepted
  repeat' split at haccepted
  all_goals try cases haccepted
  rename_i receiptBytes hwrap _ _
  exact ⟨rfl, hwrap, rfl, rfl⟩

theorem artifactType_of_submit
    (haccepted : submit library surroundings request body artifactType
      checked = .ok accepted) :
    accepted.ref.artifactType = artifactType ∧
      accepted.ingested.artifactType = artifactType := by
  unfold submit at haccepted
  simp only at haccepted
  repeat' split at haccepted
  all_goals try cases haccepted
  exact ⟨rfl, rfl⟩

/-- An accepted body was classified and wrapped. -/
theorem ingestArtifact_eq_ok
    (haccepted : ingestArtifact library compile surroundings request =
      .ok accepted) :
    ∃ artifactType,
      classify library compile request (readBody request) =
        .ok (artifactType, accepted.checkedSchema) ∧
      wrap library (readBody request) ⟨request.ctx.issuer, request.ctx.sub⟩
        request.subjectID artifactType surroundings.receivedAt =
          .ok accepted.ref.receiptBytes := by
  obtain ⟨artifactType, checked, hclassified, hsubmitted⟩ :=
    submit_of_ingestArtifact haccepted
  obtain ⟨rfl, hwrap, -, -⟩ := submit_eq_ok hsubmitted
  exact ⟨artifactType, hclassified, hwrap⟩

end Accepted

end ComplyTime.Ingest
