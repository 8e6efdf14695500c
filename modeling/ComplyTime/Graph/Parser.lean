import ComplyTime.Gateway.Receipt

/-!
# Artifact types and catalogs

The graph loader infers the type of an artifact by decoding its `metadata.type`
into a struct, and extracts entities and edges from the three catalog types.
The catalog decoders belong to the Gemara library and are parameters.
-/

namespace ComplyTime.Graph

open Json

/-! ## `inferArtifactType` -/

/-- A string field while its struct is being decoded, with whether some value
did not fit. -/
structure FieldState where
  content : String
  failed : Bool
  deriving DecidableEq, Repr

/-- `null` leaves the field alone, and so does a value of another type, after
which the decoder reports an error. -/
def decodeString (state : FieldState) : Json → FieldState
  | .str content => { state with content := content }
  | .null => state
  | _ => { state with failed := true }

/-- Decode a nested struct whose only field is the named one. -/
def decodeStruct (name : String) (decode : FieldState → Json → FieldState)
    (state : FieldState) : Json → FieldState
  | .obj members => decodeField name decode state members
  | .null => state
  | _ => { state with failed := true }

def decodeMetadataType (value : Json) : FieldState :=
  decodeStruct "metadata" (decodeStruct "type" decodeString) ⟨"", false⟩ value

def artifactTypeOf (value : Json) : String :=
  let decoded := decodeMetadataType value
  if decoded.failed then "unknown"
  else if decoded.content = "" then "unknown"
  else decoded.content

def inferArtifactType (library : Receipt.Library) (data : Bytes) : String :=
  match library.unmarshal data with
  | .error _ => "unknown"
  | .ok value => artifactTypeOf value

theorem content_of_artifactTypeOf {value : Json} {artifactType : String}
    (hinferred : artifactTypeOf value = artifactType)
    (hknown : artifactType ≠ "unknown") :
    (decodeMetadataType value).content = artifactType := by
  unfold artifactTypeOf at hinferred
  simp only at hinferred
  split at hinferred
  · exact absurd hinferred.symm hknown
  · split at hinferred
    · exact absurd hinferred.symm hknown
    · exact hinferred

/-- In a canonical document the exactly spelled `metadata.type` decides, when
it is a string. -/
theorem decodeMetadataType_canonical {members metadata : Members}
    {content : String}
    (hmetadata : objectMember "metadata" members = some metadata)
    (htype : stringMember "type" metadata = some content) :
    (decodeMetadataType (canonical (.obj members))).content = content := by
  have hobject : member "metadata" (canonicalObject members) =
      some (.obj (canonicalObject metadata)) := by
    rw [objectMember] at hmetadata
    obtain ⟨value, hvalue, hmembers⟩ := Option.bind_eq_some_iff.mp hmetadata
    cases value with
    | obj found =>
      obtain rfl := Option.some.inj hmembers
      rw [member_canonicalObject, hvalue, Option.map_some, canonical_obj]
    | _ => cases hmembers
  have hstring : member "type" (canonicalObject metadata) =
      some (.str content) := by
    rw [stringMember] at htype
    obtain ⟨value, hvalue, hcontent⟩ := Option.bind_eq_some_iff.mp htype
    cases value with
    | str found =>
      obtain rfl := Option.some.inj hcontent
      rw [member_canonicalObject, hvalue, Option.map_some, canonical]
    | _ => cases hcontent
  obtain ⟨outer, houter⟩ := decodeField_sorted "metadata"
    (decodeStruct "type" decodeString)
    (spelledLast_of_plain (by decide)) (pairwise_sortMembers _) hobject
    (by decide) ⟨"", false⟩
  obtain ⟨inner, hinner⟩ := decodeField_sorted "type" decodeString
    (spelledLast_of_plain (by decide)) (pairwise_sortMembers _) hstring
    (by decide) outer
  rw [canonical_obj]
  change (decodeField "metadata" (decodeStruct "type" decodeString) ⟨"", false⟩
    (canonicalObject members)).content = content
  rw [canonicalObject, houter]
  change (decodeField "type" decodeString outer
    (canonicalObject metadata)).content = content
  rw [canonicalObject, hinner]
  rfl

/-! ## Records -/

/-- The labels the parsers give to entities, and those the queries look for. -/
inductive EntityLabel
  | capability
  | threat
  | control
  | vector
  | evaluationFinding
  | guidance
  deriving DecidableEq, Repr

/-- The relationships the parsers write, and those the queries look for. -/
inductive EdgeType
  | addresses
  | introduces
  | leverages
  | evaluates
  | applies
  deriving DecidableEq, Repr

inductive PropertyValue
  | text (content : String)
  | texts (contents : List String)
  | flag (value : Bool)
  | integer (value : Int64)
  | localDateTime (value : Time)
  deriving DecidableEq, Repr

structure EntityRecord where
  id : String
  label : EntityLabel
  properties : List (String × PropertyValue)
  evidenceLogIndex : Int64
  deriving DecidableEq, Repr

structure EdgeRecord where
  fromID : String
  fromLabel : EntityLabel
  toID : String
  toLabel : EntityLabel
  edgeType : EdgeType
  deriving DecidableEq, Repr

structure ParsedArtifact where
  catalogID : String
  entities : List EntityRecord
  edges : List EdgeRecord
  deriving DecidableEq, Repr

/-! ## Catalogs -/

/-- The reference IDs of one mapping to another catalog. -/
abbrev Mapping := List String

structure Control where
  id : String
  title : String
  objective : String
  group : String
  assessmentRequirements : List String
  threats : List Mapping

structure Threat where
  id : String
  title : String
  description : String
  group : String
  capabilities : List Mapping
  vectors : List Mapping

structure Capability where
  id : String
  title : String
  description : String
  group : String

structure ControlCatalog where
  metadataID : String
  controls : List Control

structure ThreatCatalog where
  metadataID : String
  threats : List Threat

structure CapabilityCatalog where
  metadataID : String
  capabilities : List Capability

/-- `json.Unmarshal` into the catalog types of the Gemara library. -/
structure CatalogDecoders where
  controlCatalog : Bytes → Except GoError ControlCatalog
  threatCatalog : Bytes → Except GoError ThreatCatalog
  capabilityCatalog : Bytes → Except GoError CapabilityCatalog

/-- One edge for each non-empty reference of the mappings. -/
def mappingEdges (edge : String → EdgeRecord) (mappings : List Mapping) :
    List EdgeRecord :=
  (mappings.flatten.filter fun referenceID => referenceID ≠ "").map edge

def controlProperties (catalogID : String) (control : Control) :
    List (String × PropertyValue) :=
  [("title", .text control.title), ("objective", .text control.objective),
   ("group", .text control.group), ("catalogID", .text catalogID)] ++
    if control.assessmentRequirements = [] then []
    else [("assessmentRequirements", .texts control.assessmentRequirements)]

def describedProperties (title description group : String) :
    List (String × PropertyValue) :=
  [("title", .text title), ("description", .text description),
   ("group", .text group)]

def controlEdges (control : Control) : List EdgeRecord :=
  mappingEdges
    (fun referenceID =>
      ⟨control.id, .control, referenceID, .threat, .addresses⟩)
    control.threats

def threatEdges (threat : Threat) : List EdgeRecord :=
  mappingEdges
    (fun referenceID =>
      ⟨referenceID, .capability, threat.id, .threat, .introduces⟩)
    threat.capabilities ++
  mappingEdges
    (fun referenceID => ⟨threat.id, .threat, referenceID, .vector, .leverages⟩)
    threat.vectors

def parseControlCatalog (catalog : ControlCatalog) (logIndex : Int64) :
    ParsedArtifact where
  catalogID := catalog.metadataID
  entities := catalog.controls.map fun control =>
    ⟨control.id, .control, controlProperties catalog.metadataID control,
      logIndex⟩
  edges := catalog.controls.flatMap controlEdges

def parseThreatCatalog (catalog : ThreatCatalog) (logIndex : Int64) :
    ParsedArtifact where
  catalogID := catalog.metadataID
  entities := catalog.threats.map fun threat =>
    ⟨threat.id, .threat, describedProperties threat.title threat.description
      threat.group, logIndex⟩
  edges := catalog.threats.flatMap threatEdges

def parseCapabilityCatalog (catalog : CapabilityCatalog) (logIndex : Int64) :
    ParsedArtifact where
  catalogID := catalog.metadataID
  entities := catalog.capabilities.map fun capability =>
    ⟨capability.id, .capability, describedProperties capability.title
      capability.description capability.group, logIndex⟩
  edges := []

def parseWith {Catalog : Type} (name : String)
    (decoded : Except GoError Catalog)
    (parse : Catalog → ParsedArtifact) : Except GoError ParsedArtifact :=
  match decoded with
  | .error err => .error (.within ("unmarshaling " ++ name) err)
  | .ok catalog => .ok (parse catalog)

def parseArtifact (decoders : CatalogDecoders) (artifactType : String)
    (data : Bytes) (logIndex : Int64) : Except GoError ParsedArtifact :=
  if artifactType = "ControlCatalog" then
    parseWith "ControlCatalog" (decoders.controlCatalog data)
      fun catalog => parseControlCatalog catalog logIndex
  else if artifactType = "ThreatCatalog" then
    parseWith "ThreatCatalog" (decoders.threatCatalog data)
      fun catalog => parseThreatCatalog catalog logIndex
  else if artifactType = "CapabilityCatalog" then
    parseWith "CapabilityCatalog" (decoders.capabilityCatalog data)
      fun catalog => parseCapabilityCatalog catalog logIndex
  else .ok ⟨"", [], []⟩

end ComplyTime.Graph
