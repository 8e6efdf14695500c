import ComplyTime.Core.Decimal
import ComplyTime.Core.Keyset
import ComplyTime.Core.KeyedGraph
import ComplyTime.Core.RemoteStore
import ComplyTime.Graph.Parser
import Mathlib.Data.Int.ConditionallyCompleteOrder

/-!
# The graph writer

Every method of the writer is one Cypher query.  The queries that change the
graph are functions on it; those that read it return what the driver hands to
the code, and a property of an unexpected type panics in the type assertion.
-/

namespace ComplyTime.Graph

open Cypher RemoteStore

/-! ## The graph -/

inductive NodeLabel
  | subject
  | publisher
  | ingestedStub
  | evidence
  | entity (label : EntityLabel)
  deriving DecidableEq, Repr

inductive RelationType
  | targets
  | publishedBy
  | defines
  | edge (edgeType : EdgeType)
  deriving DecidableEq, Repr

abbrev EvidenceGraph := Cypher.Graph NodeLabel String PropertyValue RelationType

abbrev Pattern := NodePattern NodeLabel String PropertyValue

/-- What identifies a node: the label and the properties every `MERGE` of it
names. -/
inductive NodeKey
  | subject (subjectID : String)
  | publisher (identity : PublisherIdentity)
  | ingestedStub (digest subjectID : String)
  | evidence (logIndex : Int64)
  | entity (label : EntityLabel) (id : String)
  deriving DecidableEq, Repr

def NodeKey.pattern : NodeKey → Pattern
  | .subject subjectID => ⟨.subject, [("id", .text subjectID)]⟩
  | .publisher ⟨issuer, sub⟩ =>
    ⟨.publisher, [("issuer", .text issuer), ("sub", .text sub)]⟩
  | .ingestedStub digest subjectID =>
    ⟨.ingestedStub, [("digest", .text digest), ("subjectId", .text subjectID)]⟩
  | .evidence logIndex => ⟨.evidence, [("logIndex", .integer logIndex)]⟩
  | .entity label id => ⟨.entity label, [("id", .text id)]⟩

def anyOf (label : NodeLabel) : Pattern := ⟨label, []⟩

/-! ## Upserts -/

structure EvidenceRecord where
  logIndex : Int64
  digest : String
  receiptDigest : String
  artifactType : String
  status : String
  subjectID : String
  publisherIssuer : String
  publisherSub : String
  sealed : Time
  deriving DecidableEq, Repr

/-- The publisher the record names. -/
def EvidenceRecord.publisher (record : EvidenceRecord) : PublisherIdentity :=
  ⟨record.publisherIssuer, record.publisherSub⟩

def upsertSubject (subjectID : String) (graph : EvidenceGraph) :
    EvidenceGraph :=
  (graph.query.mergeNode (NodeKey.subject subjectID).pattern).graph

def upsertPublisher (issuer sub : String) (graph : EvidenceGraph) :
    EvidenceGraph :=
  (graph.query.mergeNode (NodeKey.publisher ⟨issuer, sub⟩).pattern).graph

def upsertIngestedStub (digest subjectID issuer sub : String)
    (graph : EvidenceGraph) : EvidenceGraph :=
  (graph.query
    |>.matchNode (NodeKey.subject subjectID).pattern
    |>.matchNode (NodeKey.publisher ⟨issuer, sub⟩).pattern
    |>.mergeNode (NodeKey.ingestedStub digest subjectID).pattern
    |>.mergeRelationship (fun (_, stub) => stub) .targets
      (fun (((_, subject), _), _) => subject)
    |>.mergeRelationship (fun (_, stub) => stub) .publishedBy
      (fun ((_, publisher), _) => publisher)).graph

def EvidenceRecord.properties (record : EvidenceRecord) :
    List (String × PropertyValue) :=
  [("digest", .text record.digest),
   ("receiptDigest", .text record.receiptDigest),
   ("artifactType", .text record.artifactType),
   ("status", .text record.status),
   ("sealed", .localDateTime record.sealed)]

def upsertEvidence (record : EvidenceRecord) (graph : EvidenceGraph) :
    EvidenceGraph :=
  (graph.query
    |>.matchNode (NodeKey.subject record.subjectID).pattern
    |>.matchNode (NodeKey.publisher record.publisher).pattern
    |>.mergeNode (NodeKey.evidence record.logIndex).pattern
    |>.setProperties (fun (_, evidence) => evidence) record.properties
    |>.mergeRelationship (fun (_, evidence) => evidence) .targets
      (fun (((_, subject), _), _) => subject)
    |>.mergeRelationship (fun (_, evidence) => evidence) .publishedBy
      (fun ((_, publisher), _) => publisher)).graph

def upsertEntity (entity : EntityRecord) (graph : EvidenceGraph) :
    EvidenceGraph :=
  (graph.query
    |>.mergeNode (NodeKey.entity entity.label entity.id).pattern
    |>.setProperties (fun (_, node) => node) entity.properties
    |>.matchNode (NodeKey.evidence entity.evidenceLogIndex).pattern
    |>.mergeRelationship (fun (_, evidence) => evidence) .defines
      (fun ((_, node), _) => node)).graph

def upsertEdge (edge : EdgeRecord) (graph : EvidenceGraph) : EvidenceGraph :=
  (graph.query
    |>.matchNode (NodeKey.entity edge.fromLabel edge.fromID).pattern
    |>.matchNode (NodeKey.entity edge.toLabel edge.toID).pattern
    |>.mergeRelationship (fun ((_, source), _) => source)
      (.edge edge.edgeType) (fun (_, target) => target)).graph

/-- The calls that change the graph. -/
inductive Upsert
  | subject (subjectID : String)
  | publisher (issuer sub : String)
  | ingestedStub (digest subjectID issuer sub : String)
  | evidence (record : EvidenceRecord)
  | entity (record : EntityRecord)
  | edge (record : EdgeRecord)

def Upsert.apply : Upsert → EvidenceGraph → EvidenceGraph
  | .subject subjectID => upsertSubject subjectID
  | .publisher issuer sub => upsertPublisher issuer sub
  | .ingestedStub digest subjectID issuer sub =>
    upsertIngestedStub digest subjectID issuer sub
  | .evidence record => upsertEvidence record
  | .entity record => upsertEntity record
  | .edge record => upsertEdge record

/-! ## `FindPublisherByDigest` -/

abbrev Outcome (α : Type) := Except (Failure GoError) α

/-- The property of a bound node as the driver returns it. -/
def property (graph : EvidenceGraph) (index : ℕ) (name : String) :
    Option PropertyValue :=
  (graph.nodes[index]?).bind fun node => node.properties name

/-- `value.(string)`. -/
def assertString : Option PropertyValue → Outcome String
  | some (.text content) => .ok content
  | _ => .error (.panic "interface conversion: not a string")

/-- `value.(int64)`. -/
def assertInt64 : Option PropertyValue → Outcome Int64
  | some (.integer value) => .ok value
  | _ => .error (.panic "interface conversion: not an int64")

/-- `toTime`: the zero time for everything but a local date-time. -/
def toTime : Option PropertyValue → Time
  | some (.localDateTime value) => value
  | _ => 0

/-- The identity a publisher node carries. -/
def publisherOf (graph : EvidenceGraph) (publisher : ℕ) :
    Outcome PublisherIdentity := do
  let issuer ← assertString (property graph publisher "issuer")
  let sub ← assertString (property graph publisher "sub")
  return ⟨issuer, sub⟩

def publishersByDigest (graph : EvidenceGraph) (subjectID digest : String) :
    List ℕ :=
  (graph.query
    |>.matchNode (NodeKey.ingestedStub digest subjectID).pattern
    |>.matchOutgoing (fun (_, stub) => stub) .publishedBy
      (anyOf .publisher)).rows.map Prod.snd

/-- `LIMIT 1` without an order returns any one row; `pick` says which. -/
def limitOne (pick : ℕ) (rows : List ℕ) : Option ℕ := rows[pick % rows.length]?

/-- `lookup` is the error the query fails with, or the row it returns. -/
def findPublisherByDigest (lookup : Except GoError ℕ)
    (subjectID digest : String) (graph : EvidenceGraph) :
    Outcome PublisherIdentity :=
  match lookup with
  | .error err => .error (.error err)
  | .ok pick =>
    match limitOne pick (publishersByDigest graph subjectID digest) with
    | none => .ok ⟨"", ""⟩
    | some publisher => publisherOf graph publisher

/-! ## `Evidence` -/

structure EvidenceFilter where
  artifactType : Option String
  since : Option Time
  before : Option Time
  cursor : Option String
  limit : Option Int64

def EvidenceFilter.none : EvidenceFilter := ⟨.none, .none, .none, .none, .none⟩

structure EvidenceItem where
  logIndex : Int64
  digest : String
  artifactType : String
  status : String
  sealed : Time
  publisher : PublisherIdentity
  deriving DecidableEq, Repr

structure EvidenceResult where
  subjectID : String
  evidence : List EvidenceItem
  nextCursor : Option String
  deriving DecidableEq, Repr

/-- The bindings of a match of
`(s:Subject)<-[:TARGETS]-(e:Evidence)-[:PUBLISHED_BY]->(p:Publisher)`. -/
structure EvidenceRow where
  subject : ℕ
  evidence : ℕ
  publisher : ℕ
  deriving DecidableEq, Repr

def evidenceRows (graph : EvidenceGraph) : List EvidenceRow :=
  (graph.query
    |>.matchNode (anyOf .subject)
    |>.matchIncoming (fun (_, subject) => subject) .targets (anyOf .evidence)
    |>.matchOutgoing (fun (_, evidence) => evidence) .publishedBy
      (anyOf .publisher)).rows.map
    fun (((_, subject), evidence), publisher) => ⟨subject, evidence, publisher⟩

/-- The log index the cursor stands for; a cursor that is not base64 is
ignored, and one that is no number stands for what `ParseInt` returns. -/
def cursorIndex (cursor : Option String) : Option Int64 :=
  (cursor.bind (Base64.decodeString Base64.stdEncoding)).map
    fun decoded => (Decimal.parseInt decoded).1

def encodeCursor (logIndex : Int64) : String :=
  Base64.encodeToString Base64.stdEncoding (Decimal.formatInt logIndex)

/-- The integer a property holds, if it does. -/
def integerProperty (graph : EvidenceGraph) (index : ℕ) (name : String) :
    Option Int64 :=
  match property graph index name with
  | some (.integer value) => some value
  | _ => none

/-- The instant a property holds, if it does. -/
def timeProperty (graph : EvidenceGraph) (index : ℕ) (name : String) :
    Option Time :=
  match property graph index name with
  | some (.localDateTime value) => some value
  | _ => none

/-- A time in a query.  `UpsertEvidence` stores local date-times; a `time.Time`
is sent as a date-time with a zone. -/
inductive Temporal
  | localDateTime (value : Time)
  | dateTime (value : Time)
  deriving DecidableEq, Repr

/-- A comparison in a `WHERE`: times of two types have no order, and no row is
returned for them. -/
def Temporal.compare (relation : Time → Time → Bool) :
    Temporal → Temporal → Bool
  | .localDateTime left, .localDateTime right => relation left right
  | .dateTime left, .dateTime right => relation left right
  | _, _ => false

/-- `e.sealed >= $since`. -/
def sealedSince (sealed since : Time) : Bool :=
  (Temporal.localDateTime sealed).compare (fun left right => right ≤ left)
    (.dateTime since)

/-- `e.sealed < $before`. -/
def sealedBefore (sealed before : Time) : Bool :=
  (Temporal.localDateTime sealed).compare (fun left right => left < right)
    (.dateTime before)

/-- The conjunction the filter builds; a comparison with a missing property is
not true. -/
def whereClause (graph : EvidenceGraph) (subjectID : String)
    (filter : EvidenceFilter) (row : EvidenceRow) : Bool :=
  decide (property graph row.subject "id" = some (.text subjectID)) &&
  (filter.artifactType.all fun artifactType =>
    decide (property graph row.evidence "artifactType" =
      some (.text artifactType))) &&
  (filter.since.all fun since =>
    (timeProperty graph row.evidence "sealed").any fun sealed =>
      sealedSince sealed since) &&
  (filter.before.all fun before =>
    (timeProperty graph row.evidence "sealed").any fun sealed =>
      sealedBefore sealed before) &&
  ((cursorIndex filter.cursor).all fun cursor =>
    (integerProperty graph row.evidence "logIndex").any fun logIndex =>
      decide (cursor.toInt < logIndex.toInt))

/-- `ORDER BY e.logIndex`, with missing values last. -/
def orderIndex (graph : EvidenceGraph) (row : EvidenceRow) : WithTop ℤ :=
  (integerProperty graph row.evidence "logIndex").map Int64.toInt

def evidenceItem (graph : EvidenceGraph) (row : EvidenceRow) :
    Outcome EvidenceItem := do
  let logIndex ← assertInt64 (property graph row.evidence "logIndex")
  let digest ← assertString (property graph row.evidence "digest")
  let artifactType ← assertString (property graph row.evidence "artifactType")
  let status ← assertString (property graph row.evidence "status")
  let publisher ← publisherOf graph row.publisher
  return ⟨logIndex, digest, artifactType, status,
    toTime (property graph row.evidence "sealed"), publisher⟩

/-- The page size: fifty unless a positive one is asked for. -/
def pageLimit (filter : EvidenceFilter) : Int64 :=
  match filter.limit with
  | none => 50
  | some limit => if 0 < limit.toInt then limit else 50

def evidence (graph : EvidenceGraph) (subjectID : String)
    (filter : EvidenceFilter) : Outcome EvidenceResult :=
  let limit := pageLimit filter
  if (limit + 1).toInt < 0 then
    .error (.error (.message
      "Limit on number of returned elements must be non-negative."))
  else do
    let matching := (evidenceRows graph).filter
      (whereClause graph subjectID filter)
    let ordered := matching.insertionSort
      fun left right => orderIndex graph left ≤ orderIndex graph right
    let items ← (ordered.take (limit + 1).toInt.toNat).mapM (evidenceItem graph)
    let page := Keyset.pageOf limit.toInt.toNat
      (fun item => encodeCursor item.logIndex) items
    return ⟨subjectID, page.items, page.next⟩

end ComplyTime.Graph
