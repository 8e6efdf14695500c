import ComplyTime.Core.Base64
import ComplyTime.Core.Json
import ComplyTime.Messages

/-!
# Receipts

`Wrap` puts the canonical form of the submitted content, base64-encoded, into
an in-toto Statement together with the publisher, and `UnwrapContent` takes it
out again.  The byte-level JSON parser, the canonicalizer, the statement
marshaler and the hash are parameters; the laws below say what the
canonicalizer and the marshaler do to the value a text denotes.
-/

namespace ComplyTime.Receipt

open Json

/-- The predicate of a `gemara-receipt/v1` statement. -/
structure Predicate where
  content : String
  contentDigest : String
  publisher : PublisherIdentity
  artifactType : String
  receivedAt : String
  deriving DecidableEq, Repr

/-- `v1.Statement` with one subject. -/
structure Statement where
  type : String
  subjectName : String
  predicateType : String
  predicate : Predicate
  deriving DecidableEq, Repr

structure Library where
  /-- `json.Unmarshal` up to the choice of the target. -/
  unmarshal : Bytes → Except GoError Json
  /-- `jsoncanonicalizer.Transform`. -/
  transform : Bytes → Except GoError Bytes
  /-- `protojson.MarshalOptions.Marshal`. -/
  marshalStatement : Statement → Except GoError Bytes
  sha256 : Bytes → Bytes

def publisherJson (publisher : PublisherIdentity) : Json :=
  .obj [("issuer", .str publisher.issuer), ("sub", .str publisher.sub)]

def Predicate.members (predicate : Predicate) : Members :=
  [("artifactType", .str predicate.artifactType),
   ("content", .str predicate.content),
   ("contentDigest", .str predicate.contentDigest),
   ("publisher", publisherJson predicate.publisher),
   ("receivedAt", .str predicate.receivedAt)]

/-- A text field under its proto name; an empty one is not emitted. -/
def textMember (name content : String) : Members :=
  if content = "" then [] else [(name, .str content)]

def Statement.members (statement : Statement) : Members :=
  textMember "type" statement.type ++
    ("subject", .arr [.obj (textMember "name" statement.subjectName)]) ::
      (textMember "predicate_type" statement.predicateType ++
        [("predicate", .obj statement.predicate.members)])

/-- The canonicalizer keeps the denoted value and sorts its members. -/
def Library.Canonicalizes (library : Library) : Prop :=
  ∀ content canonicalContent value,
    library.transform content = .ok canonicalContent →
    library.unmarshal content = .ok value →
    library.unmarshal canonicalContent = .ok value.canonical

/-- The canonicalizer leaves what it has returned as it is. -/
def Library.FixesCanonical (library : Library) : Prop :=
  ∀ content canonicalContent,
    library.transform content = .ok canonicalContent →
    library.transform canonicalContent = .ok canonicalContent

/-- A marshaled statement denotes its fields. -/
def Library.Renders (library : Library) : Prop :=
  ∀ statement bytes, library.marshalStatement statement = .ok bytes →
    library.unmarshal bytes = .ok (.obj statement.members)

variable (library : Library)

/-! ## `Wrap` -/

def receiptType : String := "gemara-receipt/v1"

def statementTypeURI : String := "https://in-toto.io/Statement/v1"

def receiptStatement (canonicalContent : Bytes) (publisher : PublisherIdentity)
    (subjectID artifactType receivedAt : String) : Statement where
  type := statementTypeURI
  subjectName := subjectID
  predicateType := receiptType
  predicate :=
    { content := Base64.encodeToString Base64.stdEncoding canonicalContent
      contentDigest := "sha256:" ++ Base64.encodeToString Base64.urlEncoding
        (library.sha256 canonicalContent)
      publisher := publisher
      artifactType := artifactType
      receivedAt := receivedAt }

def wrap (content : Bytes) (publisher : PublisherIdentity)
    (subjectID artifactType receivedAt : String) : Except GoError Bytes :=
  match library.transform content with
  | .error err => .error (.within "canonicalize content" err)
  | .ok canonicalContent =>
    match library.marshalStatement (receiptStatement library canonicalContent
        publisher subjectID artifactType receivedAt) with
    | .error err => .error (.within "marshal statement" err)
    | .ok statementBytes =>
      match library.transform statementBytes with
      | .error err => .error (.within "canonicalize receipt" err)
      | .ok receipt => .ok receipt

/-! ## `UnwrapContent` -/

structure UnwrapResult where
  content : Bytes
  publisher : PublisherIdentity
  format : String
  deriving DecidableEq, Repr

/-- The name of the kind of a value in the texts of type errors. -/
def jsonKind : Json → String
  | .null => "null"
  | .bool _ => "bool"
  | .num _ => "number"
  | .str _ => "string"
  | .arr _ => "array"
  | .obj _ => "object"

/-- Decoding into `map[string]any`: `null` leaves the map nil. -/
def asMap : Json → Except GoError Members
  | .obj members => .ok members
  | .null => .ok []
  | value => .error (.jsonType ("json: cannot unmarshal " ++ jsonKind value ++
      " into Go value of type map[string]interface \x7b\x7d"))

def unmarshalMap (bytes : Bytes) : Except GoError Members :=
  match library.unmarshal bytes with
  | .error err => .error err
  | .ok value => asMap value

def extractPublisher (predicate : Members) :
    Except GoError PublisherIdentity :=
  match objectMember "publisher" predicate with
  | none => .error (.message "predicate missing publisher field")
  | some publisherData =>
    match stringMember "issuer" publisherData,
        stringMember "sub" publisherData with
    | none, _ => .error (.message "publisher missing issuer field")
    | some _, none => .error (.message "publisher missing sub field")
    | some issuer, some sub => .ok ⟨issuer, sub⟩

/-- The content of a predicate whose publisher was read. -/
def extractContent (predicate : Members) (publisher : PublisherIdentity)
    (predicateType : String) : Except GoError UnwrapResult :=
  if predicateType = receiptType then
    match stringMember "content" predicate with
    | none => .error (.message "receipt missing content field")
    | some encodedContent =>
      match Base64.decodeString Base64.stdEncoding encodedContent with
      | none => .error (.within "decode content"
          (.message "illegal base64 data"))
      | some content => .ok ⟨content, publisher, predicateType⟩
  else .error (.message ("unknown predicate type: " ++ predicateType))

def unwrapContent (entry : Bytes) : Except GoError UnwrapResult :=
  match unmarshalMap library entry with
  | .error err => .error (.within "unmarshal entry" err)
  | .ok raw =>
    match stringMember "predicate_type" raw, objectMember "predicate" raw with
    | none, _ => .error
        (.message "unknown entry format: missing predicate_type")
    | some _, none => .error (.message "invalid entry: missing predicate")
    | some predicateType, some predicate =>
      match extractPublisher predicate with
      | .error err => .error (.within "extract publisher" err)
      | .ok publisher => extractContent predicate publisher predicateType

/-- A text in the predicate of an entry. -/
def predicateText (field : String) (entry : Bytes) : Option String :=
  match unmarshalMap library entry with
  | .error _ => none
  | .ok raw => (objectMember "predicate" raw).bind (stringMember field)

/-! ## The round trip -/

section RoundTrip

variable {library} {content receipt : Bytes} {publisher : PublisherIdentity}
  {subjectID artifactType receivedAt : String}

/-- The three library calls behind a receipt. -/
theorem wrap_eq_ok (hwrap : wrap library content publisher subjectID
    artifactType receivedAt = .ok receipt) :
    ∃ canonicalContent statementBytes,
      library.transform content = .ok canonicalContent ∧
      library.marshalStatement (receiptStatement library canonicalContent
        publisher subjectID artifactType receivedAt) = .ok statementBytes ∧
      library.transform statementBytes = .ok receipt := by
  unfold wrap at hwrap
  split at hwrap
  · cases hwrap
  rename_i canonicalContent hcontent
  split at hwrap
  · cases hwrap
  rename_i statementBytes hstatement
  split at hwrap
  · cases hwrap
  rename_i found hreceipt
  obtain rfl := Except.ok.inj hwrap
  exact ⟨canonicalContent, statementBytes, hcontent, hstatement, hreceipt⟩

theorem extractPublisher_canonicalObject (predicate : Predicate) :
    extractPublisher (canonicalObject predicate.members) =
      .ok predicate.publisher := by
  let data : Members := [("issuer", .str predicate.publisher.issuer),
    ("sub", .str predicate.publisher.sub)]
  have hpublisher : objectMember "publisher" predicate.members =
      some data := by
    simp [objectMember, member, Predicate.members, publisherJson, asObject,
      data]
  have hissuer : stringMember "issuer" data =
      some predicate.publisher.issuer := by
    simp [stringMember, member, asString, data]
  have hsub : stringMember "sub" data = some predicate.publisher.sub := by
    simp [stringMember, member, asString, data]
  simp only [extractPublisher, objectMember_canonicalObject, hpublisher,
    Option.map_some, stringMember_canonicalObject, hissuer, hsub]

/-- A receipt denotes the statement about the canonical content. -/
theorem unmarshalMap_wrap (hcanonicalizes : library.Canonicalizes)
    (hrenders : library.Renders)
    (hwrap : wrap library content publisher subjectID artifactType
      receivedAt = .ok receipt) :
    ∃ canonicalContent, library.transform content = .ok canonicalContent ∧
      unmarshalMap library receipt = .ok (canonicalObject
        (receiptStatement library canonicalContent publisher subjectID
          artifactType receivedAt).members) := by
  obtain ⟨canonicalContent, statementBytes, hcontent, hstatement, hreceipt⟩ :=
    wrap_eq_ok hwrap
  have hdecoded := hcanonicalizes statementBytes receipt _ hreceipt
    (hrenders _ statementBytes hstatement)
  rw [canonical_obj] at hdecoded
  refine ⟨canonicalContent, hcontent, ?_⟩
  rw [unmarshalMap, hdecoded]
  rfl

theorem objectMember_predicate (statement : Statement) :
    objectMember "predicate" statement.members =
      some statement.predicate.members := by
  by_cases htype : statement.type = "" <;>
    by_cases hpredicate : statement.predicateType = "" <;>
      simp [objectMember, member, Statement.members, textMember, asObject,
        htype, hpredicate]

section

variable (hcanonicalizes : library.Canonicalizes) (hrenders : library.Renders)
  (hwrap : wrap library content publisher subjectID artifactType
    receivedAt = .ok receipt)

include hcanonicalizes hrenders hwrap

theorem predicateText_wrap :
    ∃ canonicalContent, library.transform content = .ok canonicalContent ∧
      ∀ field, predicateText library field receipt =
        stringMember field (receiptStatement library canonicalContent
          publisher subjectID artifactType receivedAt).predicate.members := by
  obtain ⟨canonicalContent, hcontent, hraw⟩ :=
    unmarshalMap_wrap hcanonicalizes hrenders hwrap
  refine ⟨canonicalContent, hcontent, fun field => ?_⟩
  simp only [predicateText, hraw, objectMember_canonicalObject,
    objectMember_predicate, Option.map_some, Option.bind_some,
    stringMember_canonicalObject]

/-- Unwrapping a receipt yields the canonical content, the publisher and the
format. -/
theorem unwrapContent_wrap :
    ∃ canonicalContent, library.transform content = .ok canonicalContent ∧
      unwrapContent library receipt =
        .ok ⟨canonicalContent, publisher, receiptType⟩ := by
  obtain ⟨canonicalContent, hcontent, hraw⟩ :=
    unmarshalMap_wrap hcanonicalizes hrenders hwrap
  refine ⟨canonicalContent, hcontent, ?_⟩
  let statement := receiptStatement library canonicalContent publisher
    subjectID artifactType receivedAt
  have htype : stringMember "predicate_type" statement.members =
      some receiptType := by
    simp [stringMember, member, Statement.members, textMember, asString,
      statement, receiptStatement, statementTypeURI, receiptType]
  have hencoded : stringMember "content" statement.predicate.members =
      some statement.predicate.content := by
    simp [stringMember, member, Predicate.members, asString]
  have hdecode : Base64.decodeString Base64.stdEncoding
      statement.predicate.content = some canonicalContent :=
    Base64.decodeString_encodeToString Base64.stdEncoding canonicalContent
  simp only [unwrapContent, hraw, stringMember_canonicalObject]
  rw [htype, objectMember_canonicalObject, objectMember_predicate statement]
  simp only [Option.map_some, extractPublisher_canonicalObject,
    extractContent, stringMember_canonicalObject, hencoded, hdecode, if_true]
  rfl

end

end RoundTrip

end ComplyTime.Receipt
