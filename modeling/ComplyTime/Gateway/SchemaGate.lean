import ComplyTime.Gateway.PlainLibrary
import ComplyTime.Graph.Parser

/-!
# The schema gate

The gateway validates by the exact keys `metadata.type` and `type` of a body
that is not declared an envelope.  The graph loader materializes by what the
struct decoder finds in the sealed content, whatever the content type was and
however the keys are spelled.  The two agree on a body exactly when it is
validated under its own `metadata.type`, spelled exactly, or names the loader's
type at the top level.
-/

namespace ComplyTime.SchemaGate

open Json JsonText Receipt Ingest ComplyTime.Graph Subjects

/-- The types whose entities the loader writes to the graph. -/
def materializedTypes : List String :=
  ["ControlCatalog", "ThreatCatalog", "CapabilityCatalog"]

/-- `metadata.type`, spelled exactly, is a non-empty string. -/
def NamesType (artifact : Members) : Prop :=
  ∃ metadata content, objectMember "metadata" artifact = some metadata ∧
    stringMember "type" metadata = some content ∧ content ≠ ""

theorem metadataType_of_names {artifact metadata : Members} {content : String}
    (hmetadata : objectMember "metadata" artifact = some metadata)
    (htype : stringMember "type" metadata = some content) :
    metadataType artifact = content := by
  rw [metadataType, hmetadata, Option.bind_some, htype, Option.getD_some]

theorem namesType_of_metadataType {artifact : Members}
    (hne : metadataType artifact ≠ "") : NamesType artifact := by
  unfold metadataType at hne
  cases hmetadata : objectMember "metadata" artifact with
  | none =>
    rw [hmetadata] at hne
    exact absurd rfl hne
  | some metadata =>
    cases htype : stringMember "type" metadata with
    | none =>
      rw [hmetadata, Option.bind_some, htype] at hne
      exact absurd rfl hne
    | some content =>
      rw [hmetadata, Option.bind_some, htype] at hne
      exact ⟨metadata, content, hmetadata, htype, hne⟩

section Gate

variable {library : Library} {compile : String → Schema}
  {artifact : Members} {artifactType : String} {checked : Option String}

/-! ## What a check means -/

theorem schemaFor_of_mem (hmem : artifactType ∈ schemaTypes) :
    schemaFor compile artifactType = some (compile artifactType) := by
  rw [schemaFor, if_pos hmem]

theorem schemaFor_eq_some {schema : Schema}
    (hschema : schemaFor compile artifactType = some schema) :
    artifactType ∈ schemaTypes ∧ schema = compile artifactType := by
  unfold schemaFor at hschema
  split at hschema
  · rename_i hmem
    exact ⟨hmem, (Option.some.inj hschema).symm⟩
  · cases hschema

theorem checkSchema_eq_ok {schema : Schema}
    (hchecked : checkSchema schema artifactType artifact = .ok checked) :
    checked = some artifactType ∧ schema artifact = .ok () := by
  unfold checkSchema at hchecked
  split at hchecked
  · cases hchecked
  · rename_i hpassed
    exact ⟨(Except.ok.inj hchecked).symm, hpassed⟩

/-- A validated artifact has passed the schema of its `metadata.type`, or of
its top-level type, or none. -/
theorem validateArtifact_eq_ok
    (hvalid : validateArtifact compile artifact = .ok checked) :
    (metadataType artifact ≠ "" ∧ checked = some (metadataType artifact)) ∨
      (metadataType artifact = "" ∧
        checked = (stringMember "type" artifact).filter
          fun topLevelType => topLevelType ∈ schemaTypes) := by
  unfold validateArtifact at hvalid
  by_cases hempty : metadataType artifact = ""
  · rw [if_pos hempty] at hvalid
    refine .inr ⟨hempty, ?_⟩
    cases htype : stringMember "type" artifact with
    | none =>
      rw [htype] at hvalid
      exact (Except.ok.inj hvalid).symm
    | some topLevelType =>
      simp only [htype] at hvalid
      cases hschema : schemaFor compile topLevelType with
      | none =>
        simp only [hschema] at hvalid
        have hunknown : topLevelType ∉ schemaTypes := by
          intro hmem
          rw [schemaFor_of_mem hmem] at hschema
          cases hschema
        rw [Option.filter_some, if_neg (by simpa using hunknown)]
        exact (Except.ok.inj hvalid).symm
      | some schema =>
        simp only [hschema] at hvalid
        have hmem := (schemaFor_eq_some hschema).1
        rw [Option.filter_some, if_pos (by simpa using hmem)]
        exact (checkSchema_eq_ok hvalid).1
  · rw [if_neg hempty] at hvalid
    refine .inl ⟨hempty, ?_⟩
    cases hschema : schemaFor compile (metadataType artifact) with
    | none =>
      simp only [hschema] at hvalid
      cases hvalid
    | some schema =>
      simp only [hschema] at hvalid
      exact (checkSchema_eq_ok hvalid).1

theorem passes_of_checked
    (hvalid : validateArtifact compile artifact = .ok (some artifactType)) :
    artifactType ∈ schemaTypes ∧ compile artifactType artifact = .ok () := by
  have hcheck : ∀ {schema : Schema} {name : String},
      schemaFor compile name = some schema →
      checkSchema schema name artifact = .ok (some artifactType) →
      artifactType ∈ schemaTypes ∧ compile artifactType artifact = .ok () := by
    intro schema name hschema hchecked
    obtain ⟨hname, hpassed⟩ := checkSchema_eq_ok hchecked
    obtain rfl := Option.some.inj hname
    obtain ⟨hmem, rfl⟩ := schemaFor_eq_some hschema
    exact ⟨hmem, hpassed⟩
  unfold validateArtifact at hvalid
  split at hvalid
  · split at hvalid
    · cases hvalid
    · split at hvalid
      · cases hvalid
      · rename_i schema hschema
        exact hcheck hschema hvalid
  · split at hvalid
    · cases hvalid
    · rename_i schema hschema
      exact hcheck hschema hvalid

/-- An envelope is not checked; any other body is decoded, typed and
validated. -/
theorem classify_eq_ok {request : Request} {body : Bytes}
    (hclassified : classify library compile request body =
      .ok (artifactType, checked)) :
    (request.contentType = contentTypeDSSE ∧ checked = none) ∨
      (request.contentType ≠ contentTypeDSSE ∧
        ∃ artifact, unmarshalMap library body = .ok artifact ∧
          artifactType = recordedType artifact ∧
          validateArtifact compile artifact = .ok checked) := by
  unfold classify at hclassified
  by_cases hdsse : request.contentType = contentTypeDSSE
  · rw [if_pos hdsse] at hclassified
    exact .inl ⟨hdsse, (Prod.mk.inj (Except.ok.inj hclassified)).2.symm⟩
  rw [if_neg hdsse] at hclassified
  split at hclassified
  · cases hclassified
  rename_i artifact hdecoded
  split at hclassified
  · cases hclassified
  split at hclassified
  · cases hclassified
  rename_i found hvalidated
  obtain ⟨rfl, rfl⟩ := Prod.mk.inj (Except.ok.inj hclassified)
  rw [validate, hdecoded] at hvalidated
  exact .inr ⟨hdsse, artifact, hdecoded, rfl, hvalidated⟩

/-! ## The gate and the loader -/

theorem unmarshalMap_eq_ok {body : Bytes}
    (hdecoded : unmarshalMap library body = .ok artifact) :
    library.unmarshal body = .ok (.obj artifact) ∨
      (library.unmarshal body = .ok .null ∧ artifact = []) := by
  unfold unmarshalMap at hdecoded
  cases hvalue : library.unmarshal body with
  | error err =>
    rw [hvalue] at hdecoded
    cases hdecoded
  | ok value =>
    simp only [hvalue] at hdecoded
    cases value with
    | obj members =>
      obtain rfl := Except.ok.inj hdecoded
      exact .inl rfl
    | null => exact .inr ⟨rfl, (Except.ok.inj hdecoded).symm⟩
    | _ => cases hdecoded

/-- An exactly spelled type is the one the loader infers. -/
theorem metadataType_eq_inferred (hcanonicalizes : library.Canonicalizes)
    {body canonicalContent : Bytes}
    (htransform : library.transform body = .ok canonicalContent)
    (hdecoded : unmarshalMap library body = .ok artifact)
    (hnames : NamesType artifact)
    (hinferred : inferArtifactType library canonicalContent = artifactType)
    (hknown : artifactType ≠ "unknown") :
    metadataType artifact = artifactType := by
  obtain ⟨metadata, content, hmetadata, htype, -⟩ := hnames
  rw [metadataType_of_names hmetadata htype]
  rcases unmarshalMap_eq_ok hdecoded with hobject | ⟨-, rfl⟩
  · have hcanonical := hcanonicalizes body canonicalContent _ htransform hobject
    rw [inferArtifactType, hcanonical] at hinferred
    have hcontent := content_of_artifactTypeOf hinferred hknown
    rw [decodeMetadataType_canonical hmetadata htype] at hcontent
    exact hcontent
  · cases hmetadata

end Gate

/-- For every accepted request whose sealed content the loader materializes as
one of the catalog types, the body was validated against the schema of that
type exactly when it was not declared an envelope and names a type in
`metadata.type`, spelled exactly, or the catalog type at the top level. -/
theorem validated_iff_of_materialized {library : Library}
    {compile : String → Schema} {surroundings : Surroundings}
    {request : Request} {accepted : Accepted}
    (hcanonicalizes : library.Canonicalizes) (hrenders : library.Renders)
    (haccepted : ingestArtifact library compile surroundings request =
      .ok accepted) :
    ∃ unwrapped,
      unwrapContent library accepted.ref.receiptBytes = .ok unwrapped ∧
      ∀ artifactType ∈ materializedTypes,
        inferArtifactType library unwrapped.content = artifactType →
        (accepted.checkedSchema = some artifactType ↔
          request.contentType ≠ contentTypeDSSE ∧
            ∃ artifact,
              unmarshalMap library (readBody request) = .ok artifact ∧
              (NamesType artifact ∨
                stringMember "type" artifact = some artifactType)) := by
  obtain ⟨recorded, hclassified, hwrap⟩ := ingestArtifact_eq_ok haccepted
  obtain ⟨canonicalContent, htransform, hunwrap⟩ :=
    unwrapContent_wrap hcanonicalizes hrenders hwrap
  refine ⟨_, hunwrap, ?_⟩
  intro artifactType hmaterialized hinferred
  have hknown : artifactType ≠ "unknown" := by
    rintro rfl
    exact absurd hmaterialized (by decide)
  have hschema : artifactType ∈ schemaTypes := by
    simp only [materializedTypes, List.mem_cons, List.not_mem_nil,
      or_false] at hmaterialized
    rcases hmaterialized with rfl | rfl | rfl <;> decide
  rcases classify_eq_ok hclassified with
    ⟨hdsse, hnone⟩ | ⟨hdsse, artifact, hdecoded, -, hvalidated⟩
  · simp [hdsse, hnone]
  have hresult := validateArtifact_eq_ok hvalidated
  constructor
  · intro hchecked
    refine ⟨hdsse, artifact, hdecoded, ?_⟩
    rcases hresult with ⟨hne, -⟩ | ⟨-, htop⟩
    · exact .inl (namesType_of_metadataType hne)
    · rw [hchecked] at htop
      exact .inr (Option.filter_eq_some_iff.mp htop.symm).1
  · rintro ⟨-, found, hfound, hcondition⟩
    obtain rfl := Except.ok.inj (hdecoded.symm.trans hfound)
    rcases hresult with ⟨hne, hchecked⟩ | ⟨hempty, htop⟩
    · rw [hchecked, metadataType_eq_inferred hcanonicalizes htransform hdecoded
        (namesType_of_metadataType hne) hinferred hknown]
    · rcases hcondition with hnames | htype
      · obtain ⟨metadata, content, hmetadata, htype, hne⟩ := hnames
        rw [metadataType_of_names hmetadata htype] at hempty
        exact absurd hempty hne
      · rw [htop, htype, Option.filter_some, if_pos (by simpa using hschema)]

/-! ## Two capability catalogs -/

/-- The required members of a capability catalog. -/
def sampleCompile : String → Schema := fun _ artifact =>
  match objectMember "metadata" artifact, stringMember "title" artifact with
  | some metadata, some _ =>
    if ["author", "description", "gemara-version", "id", "type"].all
      fun name => (member name metadata).isSome then .ok ()
    else .error ["metadata: missing properties"]
  | _, _ => .error ["/: missing properties"]

def catalogRequest (members : Members) : Request :=
  plainRequest "application/json" (.obj members)

/-- A valid object is accepted, and the loader sees its canonical form. -/
theorem ingest_catalogRequest {members : Members} {checked : Option String}
    (hplain : plain (.obj members))
    (hsize : (textBytes (.obj members)).length ≤ maxBodySize)
    (hsubject : bodySubjectID members = "")
    (hvalid : validateArtifact sampleCompile members = .ok checked) :
    ∃ accepted unwrapped,
      ingestArtifact plainLibrary sampleCompile plainSurroundings
        (catalogRequest members) = .ok accepted ∧
      unwrapContent plainLibrary accepted.ref.receiptBytes = .ok unwrapped ∧
      inferArtifactType plainLibrary unwrapped.content =
        artifactTypeOf (canonical (.obj members)) ∧
      accepted.checkedSchema = checked ∧
      accepted.ref.artifactType = recordedType members ∧
      accepted.ingested.artifactType = recordedType members := by
  obtain ⟨accepted, haccepted, hchecked, href, hingested⟩ :=
    ingest_plainRequest hplain hsize (classify_plainRequest hplain
      (by decide : "application/json" ≠ contentTypeDSSE) hsubject hvalid)
  obtain ⟨_, -, hwrap⟩ := ingestArtifact_eq_ok haccepted
  obtain ⟨canonicalContent, hcontent, hunwrap⟩ := unwrapContent_wrap
    canonicalizes_plainLibrary renders_plainLibrary hwrap
  have hread : readBody (plainRequest "application/json" (.obj members)) =
      textBytes (.obj members) := readBody_eq_body hsize
  rw [hread, transform_textBytes hplain] at hcontent
  obtain rfl := Except.ok.inj hcontent
  refine ⟨accepted, _, haccepted, hunwrap, ?_, hchecked, href, hingested⟩
  rw [inferArtifactType, unmarshal_textBytes (plain_canonical _ hplain)]

def validCatalog : Members :=
  [("metadata", .obj
    [("author", .obj [("id", .str "a"), ("name", .str "n"),
      ("type", .str "Human")]),
     ("description", .str "d"), ("gemara-version", .str "1"),
     ("id", .str "c"), ("type", .str "CapabilityCatalog")]),
   ("title", .str "t")]

def misspelledCatalog : Members :=
  [("metadata", .obj [("Type", .str "CapabilityCatalog")])]

/-- A catalog with an exactly spelled type is checked against the schema of the
type it is materialized as. -/
theorem valid_catalog_checked :
    ∃ accepted unwrapped,
      ingestArtifact plainLibrary sampleCompile plainSurroundings
        (catalogRequest validCatalog) = .ok accepted ∧
      unwrapContent plainLibrary accepted.ref.receiptBytes = .ok unwrapped ∧
      inferArtifactType plainLibrary unwrapped.content = "CapabilityCatalog" ∧
      accepted.checkedSchema = some "CapabilityCatalog" := by
  have hplain : plain (.obj validCatalog) = true := by decide
  have hsize : (textBytes (.obj validCatalog)).length ≤ maxBodySize := by
    decide +kernel
  have hvalid : validateArtifact sampleCompile validCatalog =
      .ok (some "CapabilityCatalog") := by rfl
  obtain ⟨accepted, result, haccepted, hresult, hinferred, -⟩ :=
    ingest_catalogRequest hplain hsize (by decide) hvalid
  obtain ⟨unwrapped, hunwrap, hgate⟩ := validated_iff_of_materialized
    canonicalizes_plainLibrary renders_plainLibrary haccepted
  rw [hunwrap] at hresult
  obtain rfl := Except.ok.inj hresult
  have hcatalog : artifactTypeOf (canonical (.obj validCatalog)) =
      "CapabilityCatalog" := by decide
  rw [hcatalog] at hinferred
  have hjson : (catalogRequest validCatalog).contentType ≠
      contentTypeDSSE := by decide
  have hmap : unmarshalMap plainLibrary (readBody
      (catalogRequest validCatalog)) = .ok validCatalog := by
    have hread : readBody (catalogRequest validCatalog) =
        textBytes (.obj validCatalog) := readBody_eq_body hsize
    rw [hread, unmarshalMap, unmarshal_textBytes hplain]
    rfl
  refine ⟨accepted, unwrapped, haccepted, hunwrap, hinferred, ?_⟩
  exact (hgate "CapabilityCatalog" (by decide) hinferred).mpr
    ⟨hjson, _, hmap, .inl (namesType_of_metadataType (by decide))⟩

/-- A catalog that spells the key `Type` is accepted unchecked and materialized
all the same, although it violates the schema. -/
theorem misspelled_catalog_unchecked :
    ∃ accepted unwrapped,
      ingestArtifact plainLibrary sampleCompile plainSurroundings
        (catalogRequest misspelledCatalog) = .ok accepted ∧
      unwrapContent plainLibrary accepted.ref.receiptBytes = .ok unwrapped ∧
      inferArtifactType plainLibrary unwrapped.content = "CapabilityCatalog" ∧
      accepted.checkedSchema = none ∧
      (sampleCompile "CapabilityCatalog" misspelledCatalog).isOk = false := by
  have hvalid : validateArtifact sampleCompile misspelledCatalog =
      .ok none := by rfl
  obtain ⟨accepted, unwrapped, haccepted, hunwrap, hinferred, hchecked, -⟩ :=
    ingest_catalogRequest (by decide) (by decide +kernel) (by decide) hvalid
  have hcatalog : artifactTypeOf (canonical (.obj misspelledCatalog)) =
      "CapabilityCatalog" := by decide
  exact ⟨accepted, unwrapped, haccepted, hunwrap, hinferred.trans hcatalog,
    hchecked, by decide⟩

end ComplyTime.SchemaGate
