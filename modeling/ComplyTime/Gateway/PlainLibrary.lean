import ComplyTime.Core.JsonText
import ComplyTime.Core.Sha256
import ComplyTime.Gateway.Ingest

variable {value : Json}

/-!
# Receipts of plain documents

The libraries behind `Wrap` and `UnwrapContent` on plain documents: the parser
and the encoder of compact text, the canonicalizer that sorts members, and
SHA-256.  They obey the laws the receipt layer assumes of its libraries.
-/

namespace ComplyTime.Receipt

open Json JsonText

/-- `json.Unmarshal` on compact texts of plain documents. -/
def unmarshalPlain (bytes : Bytes) : Except GoError Json :=
  match parse bytes with
  | some value => .ok value
  | none => .error (.jsonSyntax "invalid character")

def transformPlain (bytes : Bytes) : Except GoError Bytes :=
  match parse bytes with
  | some value => .ok (textBytes value.canonical)
  | none => .error (.message "Unexpected character")

def plainLibrary : Library where
  unmarshal := unmarshalPlain
  transform := transformPlain
  marshalStatement := fun statement => .ok (textBytes (.obj statement.members))
  sha256 := Sha256.sha256

theorem unmarshal_textBytes (hplain : plain value) :
    plainLibrary.unmarshal (textBytes value) = .ok value := by
  change unmarshalPlain (textBytes value) = .ok value
  rw [unmarshalPlain, parse_textBytes hplain]

theorem transform_textBytes (hplain : plain value) :
    plainLibrary.transform (textBytes value) =
      .ok (textBytes value.canonical) := by
  change transformPlain (textBytes value) = _
  rw [transformPlain, parse_textBytes hplain]

theorem canonicalizes_plainLibrary : plainLibrary.Canonicalizes := by
  intro content canonicalContent value htransform hvalue
  change transformPlain content = .ok canonicalContent at htransform
  change unmarshalPlain content = .ok value at hvalue
  unfold transformPlain at htransform
  unfold unmarshalPlain at hvalue
  cases hparse : parse content with
  | none => simp [hparse] at hvalue
  | some found =>
    obtain rfl : found = value := by simpa [hparse] using hvalue
    obtain rfl : textBytes found.canonical = canonicalContent := by
      simpa [hparse] using htransform
    exact unmarshal_textBytes
      (plain_canonical found (plain_of_parse hparse))

theorem fixesCanonical_plainLibrary : plainLibrary.FixesCanonical := by
  intro content canonicalContent htransform
  change transformPlain content = .ok canonicalContent at htransform
  unfold transformPlain at htransform
  cases hparse : parse content with
  | none => simp [hparse] at htransform
  | some value =>
    obtain rfl : textBytes value.canonical = canonicalContent := by
      simpa [hparse] using htransform
    rw [transform_textBytes (plain_canonical value (plain_of_parse hparse)),
      canonical_canonical]

theorem plain_statement (statement : Statement) :
    plain (.obj statement.members) = true := by
  by_cases htype : statement.type = "" <;>
    by_cases hname : statement.subjectName = "" <;>
      by_cases hpredicate : statement.predicateType = "" <;>
        simp [Statement.members, textMember, Predicate.members, publisherJson,
          plain, plainMembers, plainItems, htype, hname, hpredicate]

theorem renders_plainLibrary : plainLibrary.Renders := by
  intro statement bytes hmarshal
  obtain rfl := Except.ok.inj hmarshal
  exact unmarshal_textBytes (plain_statement statement)

/-! ## Wrapping plain documents -/

/-- `Wrap` over the plain library, with its outcome decided before any text is
built. -/
def wrapPlain (content : Bytes) (publisher : PublisherIdentity)
    (subjectID artifactType receivedAt : String) : Except GoError Bytes :=
  match parse content with
  | none => .error (.within "canonicalize content"
      (.message "Unexpected character"))
  | some value => .ok (textBytes (canonical (.obj (receiptStatement plainLibrary
      (textBytes value.canonical) publisher subjectID artifactType
      receivedAt).members)))

theorem wrap_plainLibrary (content : Bytes) (publisher : PublisherIdentity)
    (subjectID artifactType receivedAt : String) :
    wrap plainLibrary content publisher subjectID artifactType receivedAt =
      wrapPlain content publisher subjectID artifactType receivedAt := by
  have htransform : plainLibrary.transform content =
      transformPlain content := rfl
  unfold wrap wrapPlain
  rw [htransform]
  unfold transformPlain
  cases parse content with
  | none => rfl
  | some value =>
    have hmarshal : ∀ statement : Statement,
        plainLibrary.marshalStatement statement =
          .ok (textBytes (.obj statement.members)) := fun _ => rfl
    simp only [hmarshal, transform_textBytes (plain_statement _)]

theorem wrap_textBytes (hplain : plain value) (publisher : PublisherIdentity)
    (subjectID artifactType receivedAt : String) :
    ∃ receipt, wrap plainLibrary (textBytes value) publisher subjectID
      artifactType receivedAt = .ok receipt := by
  rw [wrap_plainLibrary, wrapPlain, parse_textBytes hplain]
  exact ⟨_, rfl⟩

end ComplyTime.Receipt

namespace ComplyTime.Ingest

open Json JsonText Receipt Subjects

/-! ## Ingesting plain documents -/

/-- One publisher sends the text of a document. -/
def plainRequest (contentType : String) (value : Json) : Request where
  ctx := ⟨"https://ci.example", "job-1", true, [], [], "payments"⟩
  body := textBytes value
  readFails := false
  subjectID := "payments"
  contentType := contentType

def plainSurroundings : Surroundings :=
  ⟨"2026-01-01T00:00:00Z", "job", none⟩

theorem readBody_eq_body {request : Request}
    (hlength : request.body.length ≤ maxBodySize) :
    readBody request = request.body :=
  List.take_of_length_le hlength

variable {compile : String → Schema} {checked : Option String}

theorem ingest_plainRequest {contentType artifactType : String}
    (hplain : plain value) (hsize : (textBytes value).length ≤ maxBodySize)
    (hclassified : classify plainLibrary compile
      (plainRequest contentType value) (textBytes value) =
        .ok (artifactType, checked)) :
    ∃ accepted, ingestArtifact plainLibrary compile plainSurroundings
        (plainRequest contentType value) = .ok accepted ∧
      accepted.checkedSchema = checked ∧
      accepted.ref.artifactType = artifactType ∧
      accepted.ingested.artifactType = artifactType := by
  have hread : readBody (plainRequest contentType value) = textBytes value :=
    readBody_eq_body hsize
  have hnonempty := textBytes_ne_nil hplain
  obtain ⟨receipt, hwrap⟩ := wrap_textBytes hplain
    ⟨"https://ci.example", "job-1"⟩ "payments" artifactType
    "2026-01-01T00:00:00Z"
  rw [← hread] at hclassified hwrap hnonempty
  have hissuer : "https://ci.example" ≠ "" := by decide
  have hsub : "job-1" ≠ "" := by decide
  have hsubject : ValidSubjectID "payments" := by decide
  exact ⟨_, ingestArtifact_classified hissuer hsub rfl hnonempty hsubject
    hclassified rfl hwrap, rfl, rfl, rfl⟩

/-- An object without a subject of its own is classified by its members. -/
theorem classify_plainRequest {members : Members} {contentType : String}
    (hplain : plain (.obj members)) (hjson : contentType ≠ contentTypeDSSE)
    (hsubject : bodySubjectID members = "")
    (hvalid : validateArtifact compile members = .ok checked) :
    classify plainLibrary compile (plainRequest contentType (.obj members))
      (textBytes (.obj members)) = .ok (recordedType members, checked) := by
  have hmap : unmarshalMap plainLibrary (textBytes (.obj members)) =
      .ok members := by
    rw [unmarshalMap, unmarshal_textBytes hplain]
    rfl
  have hother : (plainRequest contentType (.obj members)).contentType ≠
      contentTypeDSSE := hjson
  simp [classify, hother, hmap, hsubject, validate, hvalid]

end ComplyTime.Ingest
