import ComplyTime.Subjects.Validate
import Mathlib.Data.Int.Notation

/-!
# Payloads exchanged by the services

The gateway, the locker and the graph loader talk through NATS: ingest work
items, CloudEvents about evidence, and the two admin requests.  Byte slices are
lists of bytes and `int64` log indices keep their machine type.
-/

namespace ComplyTime

abbrev Bytes := List UInt8

/-- Instants, in nanoseconds. -/
abbrev Time := ℤ

/-- Status and body of an HTTP reply. -/
structure Response where
  status : ℕ
  body : String
  deriving DecidableEq, Repr

/-- `trust.TrustEntry`: a publisher trusted for one subject. -/
structure TrustEntry where
  issuer : String
  sub : String
  deriving DecidableEq, Repr

/-- `events.PublisherIdentity` and `receipt.Publisher`. -/
structure PublisherIdentity where
  issuer : String
  sub : String
  deriving DecidableEq, Repr

/-- `ingest.IngestRef`: the work item the gateway enqueues for the locker. -/
structure IngestRef where
  jobID : String
  subjectID : Subjects.SubjectID
  contentDigest : String
  artifactType : String
  receiptBytes : Bytes
  deriving DecidableEq, Repr

/-- `events.EvidenceIngestedData`. -/
structure EvidenceIngestedData where
  contentDigest : String
  artifactType : String
  storageRef : String
  subjectID : Subjects.SubjectID
  publisher : PublisherIdentity
  deriving DecidableEq, Repr

/-- `events.EvidenceSealedData`. -/
structure EvidenceSealedData where
  contentDigest : String
  logIndex : Int64
  receiptDigest : String
  receiptType : String
  storageRef : String
  subjectID : Subjects.SubjectID
  deriving DecidableEq, Repr

/-- `admin.RegisterRequest`. -/
structure RegisterRequest where
  subjectID : Subjects.SubjectID
  registrantIssuer : String
  registrantSub : String
  deriving DecidableEq, Repr

/-- `admin.SealTrustRequest`. -/
structure SealTrustRequest where
  subjectID : Subjects.SubjectID
  /-- Nil when the request body had no list. -/
  trustedPublishers : Option (List TrustEntry)
  operatorIssuer : String
  operatorSub : String
  deriving DecidableEq, Repr

/-- What a consumer answers the stream with once it has handled a message. -/
inductive Verdict
  | ack
  | nak
  | term
  deriving DecidableEq, Repr

/-- `int64(index)` for a `uint64` log index. -/
def toLogIndex (index : ℕ) : Int64 := (UInt64.ofNat index).toInt64

end ComplyTime
