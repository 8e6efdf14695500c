import ComplyTime.Graph.Materialized

/-!
# The graph loader

The loader consumes the events of the `EVIDENCE` stream.  An ingested event
leaves a stub that remembers the publisher of a digest; a sealed event fetches
the receipt from the locker, looks the publisher up by subject and digest, and
writes the evidence and the entities of the artifact.  Every handler stops at
the first call that fails, with the writes before it in place.
-/

namespace ComplyTime.Graph

open RemoteStore

abbrev LoaderProgram := Program EvidenceGraph GoError

/-- The fields of the loader, and the libraries it calls. -/
structure Loader where
  lockerURL : String
  /-- Whether `http.NewRequestWithContext` refuses a URL. -/
  newRequest : Bytes → Option GoError
  library : Receipt.Library
  decoders : CatalogDecoders

structure HTTPResponse where
  statusCode : ℕ
  /-- What `io.ReadAll` makes of the body. -/
  body : Except GoError Bytes

/-- What surrounds the handling of one message: the answers of the locker, the
outcome of the publisher lookup, and the clock. -/
structure Surroundings where
  respond : Bytes → Except GoError HTTPResponse
  lookup : Except GoError ℕ
  now : Time

/-- `fmt.Errorf(context + ": %w", err)` around the errors of a program. -/
def within {α : Type} (context : String) (program : LoaderProgram α) :
    LoaderProgram α :=
  mapError (GoError.within context) program

/-- An error value is a failure of the handler. -/
def ofResult {α : Type} (result : Except GoError α) : LoaderProgram α :=
  compute (result.mapError Failure.error)

def call (upsert : Upsert) : LoaderProgram Unit := write upsert.apply

/-! ## `fetchArtifact` -/

/-- The bytes of a text. -/
def utf8 (text : String) : Bytes := text.toList.flatMap String.utf8EncodeChar

/-- `l.lockerURL + "/ledgers/" + storageRef[len("locker://"):]`. -/
def artifactURL (lockerURL storageRef : String) :
    Except (Failure GoError) Bytes :=
  if (utf8 storageRef).length < 9 then
    .error (.panic ("runtime error: slice bounds out of range [9:" ++
      toString (utf8 storageRef).length ++ "]"))
  else .ok (utf8 (lockerURL ++ "/ledgers/") ++ (utf8 storageRef).drop 9)

theorem utf8_append (first second : String) :
    utf8 (first ++ second) = utf8 first ++ utf8 second := by
  rw [utf8, String.toList_append, List.flatMap_append, utf8, utf8]

theorem artifactURL_append (lockerURL path : String) :
    artifactURL lockerURL ("locker://" ++ path) =
      .ok (utf8 (lockerURL ++ "/ledgers/" ++ path)) := by
  have hscheme : (utf8 "locker://").length = 9 := by decide
  have hlength : ¬ (utf8 ("locker://" ++ path)).length < 9 := by
    rw [utf8_append, List.length_append, hscheme]
    omega
  rw [artifactURL, if_neg hlength, utf8_append "locker://" path,
    List.drop_left' hscheme, ← utf8_append]

def readResponse (response : HTTPResponse) : Except GoError Bytes :=
  if response.statusCode = 200 then
    response.body.mapError (GoError.within "reading response body")
  else .error
    (.message ("locker returned " ++ toString response.statusCode))

def requestArtifact (loader : Loader) (surroundings : Surroundings)
    (url : Bytes) : Except GoError Bytes :=
  match loader.newRequest url with
  | some err => .error (.within "creating request" err)
  | none =>
    match surroundings.respond url with
    | .error err => .error (.within "fetching from locker" err)
    | .ok response => readResponse response

def fetchArtifact (loader : Loader) (surroundings : Surroundings)
    (storageRef : String) : Except (Failure GoError) Bytes :=
  match artifactURL loader.lockerURL storageRef with
  | .error failure => .error failure
  | .ok url => (requestArtifact loader surroundings url).mapError .error

/-! ## `processArtifact` -/

/-- The stub of one end of an edge. -/
def stubEntity (id : String) (label : EntityLabel) (logIndex : Int64) :
    EntityRecord :=
  ⟨id, label, [("stub", .flag true)], logIndex⟩

/-- The two ends of an edge, then the edge. -/
def processEdge (logIndex : Int64) (edge : EdgeRecord) :
    LoaderProgram Unit := do
  within ("upserting stub entity " ++ edge.fromID)
    (call (.entity (stubEntity edge.fromID edge.fromLabel logIndex)))
  within ("upserting stub entity " ++ edge.toID)
    (call (.entity (stubEntity edge.toID edge.toLabel logIndex)))
  within ("upserting edge " ++ edge.fromID ++ "->" ++ edge.toID)
    (call (.edge edge))

def processEntity (entity : EntityRecord) : LoaderProgram Unit :=
  within ("upserting entity " ++ entity.id) (call (.entity entity))

def processArtifact (loader : Loader) (artifactType : String) (data : Bytes)
    (logIndex : Int64) : LoaderProgram Unit := do
  let parsed ← within "parsing artifact"
    (ofResult (parseArtifact loader.decoders artifactType data logIndex))
  parsed.entities.forM processEntity
  parsed.edges.forM (processEdge logIndex)

/-! ## Handlers -/

def handleIngested (data : Except GoError EvidenceIngestedData) :
    LoaderProgram Unit := do
  let data ← within "extracting ingested data" (ofResult data)
  within "upserting subject" (call (.subject data.subjectID))
  within "upserting publisher"
    (call (.publisher data.publisher.issuer data.publisher.sub))
  within "upserting ingested stub"
    (call (.ingestedStub data.contentDigest data.subjectID
      data.publisher.issuer data.publisher.sub))

/-- The publisher of evidence whose submission the graph does not know. -/
def placeholder : PublisherIdentity := ⟨"locker-service", "locker"⟩

/-- A failed or empty lookup falls back to the placeholder. -/
def orPlaceholder : Except GoError PublisherIdentity → PublisherIdentity
  | .error _ => placeholder
  | .ok identity => if identity.issuer = "" then placeholder else identity

def resolvePublisher (lookup : Except GoError ℕ) (data : EvidenceSealedData) :
    LoaderProgram PublisherIdentity := do
  let found ← attempt
    (read (findPublisherByDigest lookup data.subjectID data.contentDigest))
  return orPlaceholder found

/-- An event without a time counts as sealed now. -/
def sealedTime (surroundings : Surroundings) (time : Time) : Time :=
  if time = 0 then surroundings.now else time

/-- The evidence a sealed event stands for. -/
def evidenceRecord (data : EvidenceSealedData) (artifactType : String)
    (publisher : PublisherIdentity) (sealed : Time) : EvidenceRecord where
  logIndex := data.logIndex
  digest := data.contentDigest
  receiptDigest := data.receiptDigest
  artifactType := artifactType
  status := "sealed"
  subjectID := data.subjectID
  publisherIssuer := publisher.issuer
  publisherSub := publisher.sub
  sealed := sealed

def handleSealed (loader : Loader) (surroundings : Surroundings) (time : Time)
    (data : Except GoError EvidenceSealedData) : LoaderProgram Unit := do
  let data ← within "extracting sealed data" (ofResult data)
  let receiptBytes ← within "fetching artifact"
    (compute (fetchArtifact loader surroundings data.storageRef))
  let unwrapped ← within "unwrapping receipt"
    (ofResult (Receipt.unwrapContent loader.library receiptBytes))
  within "upserting subject" (call (.subject data.subjectID))
  let publisher ← resolvePublisher surroundings.lookup data
  within "upserting publisher" (call (.publisher publisher.issuer publisher.sub))
  let artifactType := inferArtifactType loader.library unwrapped.content
  within "upserting evidence"
    (call (.evidence (evidenceRecord data artifactType publisher
      (sealedTime surroundings time))))
  within "processing artifact"
    (processArtifact loader artifactType unwrapped.content data.logIndex)

def handleSubjectRegistered (data : Except GoError String) :
    LoaderProgram Unit := do
  let subjectID ← within "extracting subject data" (ofResult data)
  within "upserting subject" (call (.subject subjectID))

/-! ## `handleMessage` -/

/-- A parsed CloudEvent, with what `DataAs` makes of its data. -/
inductive Event
  | ingested (data : Except GoError EvidenceIngestedData)
  | sealed (time : Time) (data : Except GoError EvidenceSealedData)
  | subjectRegistered (data : Except GoError String)
  | other (type : String)

/-- Only the error value itself is inspected, never what it wraps. -/
def isPermanentError : GoError → Bool
  | .jsonType _ => true
  | .jsonSyntax _ => true
  | .canceled => true
  | _ => false

/-- The handler of an event, if its type is known. -/
def handlerOf (loader : Loader) (surroundings : Surroundings) :
    Event → Option (LoaderProgram Unit)
  | .ingested data => some (handleIngested data)
  | .sealed time data => some (handleSealed loader surroundings time data)
  | .subjectRegistered data => some (handleSubjectRegistered data)
  | .other _ => none

/-- What the message is answered with; a panic answers nothing. -/
def verdictOf : Except (Failure GoError) Unit → Option Verdict
  | .ok () => some .ack
  | .error (.error err) => some (if isPermanentError err then .term else .nak)
  | .error (.panic _) => none

def handleMessage (loader : Loader) (surroundings : Surroundings)
    (message : Except GoError Event) (world : World EvidenceGraph GoError) :
    Option Verdict × World EvidenceGraph GoError :=
  match message with
  | .error _ => (some .term, world)
  | .ok event =>
    match handlerOf loader surroundings event with
    | none => (some .ack, world)
    | some handler =>
      let (result, next) := exec handler world
      (verdictOf result, next)

end ComplyTime.Graph
