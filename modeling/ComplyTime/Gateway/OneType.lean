import ComplyTime.Gateway.SchemaGate

/-!
# One type per artifact

Three readers look for the type of one document.  The handler records
`metadata.type`, also when it is empty, and else the top-level type.  The
schema registry checks `metadata.type` unless it is empty, and else the
top-level type.  The loader decodes `metadata.type` into a struct, where keys
match up to case, and knows no top-level type.
-/

namespace ComplyTime.SchemaGate

open Json JsonText Receipt Ingest ComplyTime.Graph Subjects

/-! ## What the struct decoder reads -/

def stringTexts : Json → List String
  | .str content => [content]
  | _ => []

def fitsString : Json → Bool
  | .str _ => true
  | .null => true
  | _ => false

/-- The texts below a field, under all spellings of its name. -/
def memberTexts (name : String) (texts : Json → List String) :
    Json → List String
  | .obj members => (spellings name members).flatMap texts
  | _ => []

/-- `null`, or an object in which the values of the field fit. -/
def fitsMember (name : String) (fits : Json → Bool) : Json → Bool
  | .obj members => (spellings name members).all fits
  | .null => true
  | _ => false

/-- The decoder keeps the last text and remembers whether all values fit. -/
def KeepsLast (decode : FieldState → Json → FieldState)
    (texts : Json → List String) (fits : Json → Bool) : Prop :=
  ∀ state value, decode state value =
    ⟨(texts value).getLastD state.content, state.failed || !fits value⟩

theorem keepsLast_decodeString :
    KeepsLast decodeString stringTexts fitsString := by
  intro state value
  cases value with
  | str content => simp [decodeString, stringTexts, fitsString]
  | _ => simp [decodeString, stringTexts, fitsString]

variable {decode : FieldState → Json → FieldState} {texts : Json → List String}

theorem keepsLast_foldl {fits : Json → Bool}
    (hkeeps : KeepsLast decode texts fits) (state : FieldState)
    (values : List Json) :
    values.foldl decode state =
      ⟨(values.flatMap texts).getLastD state.content,
        state.failed || !values.all fits⟩ := by
  induction values generalizing state with
  | nil => simp
  | cons value values ih =>
    rw [List.foldl_cons, ih, hkeeps state value]
    cases hlater : (values.flatMap texts).getLast? with
    | none => simp [List.getLastD_eq_getLast?, hlater, Bool.or_assoc]
    | some text => simp [List.getLastD_eq_getLast?, hlater, Bool.or_assoc]

theorem keepsLast_decodeStruct (name : String) {fits : Json → Bool}
    (hkeeps : KeepsLast decode texts fits) :
    KeepsLast (decodeStruct name decode) (memberTexts name texts)
      (fitsMember name fits) := by
  intro state value
  cases value with
  | obj members =>
    rw [decodeStruct, decodeField_eq_foldl, keepsLast_foldl hkeeps]
    rfl
  | _ => simp [decodeStruct, memberTexts, fitsMember]

/-- The last text at `metadata.type`, however the keys are spelled, in the
canonical form of an object. -/
def lastType (artifact : Members) : String :=
  (memberTexts "metadata" (memberTexts "type" stringTexts)
    (canonical (.obj artifact))).getLastD ""

/-- What stands at `metadata.type` under any spelling is text or absent. -/
def fitsType (artifact : Members) : Bool :=
  fitsMember "metadata" (fitsMember "type" fitsString)
    (canonical (.obj artifact))

theorem decodeMetadataType_object (artifact : Members) :
    decodeMetadataType (canonical (.obj artifact)) =
      ⟨lastType artifact, !fitsType artifact⟩ :=
  (keepsLast_decodeStruct "metadata"
    (keepsLast_decodeStruct "type" keepsLast_decodeString)) ⟨"", false⟩ _

theorem artifactTypeOf_object (artifact : Members) :
    artifactTypeOf (canonical (.obj artifact)) =
      if fitsType artifact ∧ lastType artifact ≠ "" then lastType artifact
      else "unknown" := by
  rw [artifactTypeOf, decodeMetadataType_object]
  by_cases hfits : fitsType artifact = true
  · by_cases hempty : lastType artifact = "" <;> simp [hfits, hempty]
  · simp [hfits]

/-! ## Three readers -/

/-- The exactly spelled type stands beside nothing that does not fit.  Without
it, the type of other spellings is the top-level one, or where there is none,
no Gemara type stands at the top level. -/
def TypedAlike (artifact : Members) : Prop :=
  if metadataType artifact ≠ "" then fitsType artifact = true
  else if fitsType artifact ∧ lastType artifact ∉ ["", "unknown"] then
    stringMember "type" artifact = some (lastType artifact)
  else ∀ topLevelType, stringMember "type" artifact = some topLevelType →
    topLevelType ∉ schemaTypes

/-- The readers agree: what was checked and what the loader infers, if
anything, is what the receipt records, and the loader infers every recorded
Gemara type. -/
structure OneType (checkedSchema : Option String) (recorded inferred : String) :
    Prop where
  checked_eq : ∀ artifactType, checkedSchema = some artifactType →
    artifactType = recorded
  inferred_eq : inferred ≠ "unknown" → inferred = recorded
  inferred_of_gemara : recorded ∈ schemaTypes → inferred = recorded

section Readers

variable {artifact : Members}

theorem recordedType_of_metadataType (hne : metadataType artifact ≠ "")
    (hknown : metadataType artifact ≠ "unknown") :
    recordedType artifact = metadataType artifact := by
  obtain ⟨metadata, content, hmetadata, htype, -⟩ :=
    namesType_of_metadataType hne
  have hcontent := metadataType_of_names hmetadata htype
  rw [hcontent] at hknown
  simp [recordedType, hcontent, hmetadata, htype, hknown]

theorem lastType_of_names {metadata : Members} {content : String}
    (hmetadata : objectMember "metadata" artifact = some metadata)
    (htype : stringMember "type" metadata = some content) :
    lastType artifact = content := by
  have hcontent := decodeMetadataType_canonical hmetadata htype
  rwa [decodeMetadataType_object] at hcontent

/-- Without a type in the metadata the handler records the empty text it found
there, or the top-level type. -/
theorem recordedType_of_empty (hempty : metadataType artifact = "") :
    recordedType artifact = "" ∧ lastType artifact = "" ∨
      recordedType artifact =
        (stringMember "type" artifact).getD "unknown" := by
  unfold metadataType at hempty
  unfold recordedType
  cases hnested : (objectMember "metadata" artifact).bind
      (stringMember "type") with
  | none => simp
  | some content =>
    obtain ⟨metadata, hmetadata, htype⟩ := Option.bind_eq_some_iff.mp hnested
    rw [hnested, Option.getD_some] at hempty
    subst hempty
    exact .inl ⟨by simp, lastType_of_names hmetadata htype⟩

variable {compile : String → Schema} {checked : Option String}

/-- A type in the metadata was checked and recorded; the loader infers it
unless some other spelling does not fit. -/
theorem oneType_of_metadataType (hne : metadataType artifact ≠ "")
    (hvalid : validateArtifact compile artifact =
      .ok (some (metadataType artifact))) :
    OneType (some (metadataType artifact)) (recordedType artifact)
        (artifactTypeOf (canonical (.obj artifact))) ↔
      fitsType artifact = true := by
  have hschema := (passes_of_checked hvalid).1
  have hknown : metadataType artifact ≠ "unknown" := by
    intro hunknown
    rw [hunknown] at hschema
    exact absurd hschema (by decide)
  obtain ⟨metadata, content, hmetadata, htype, -⟩ :=
    namesType_of_metadataType hne
  have hlast : lastType artifact = metadataType artifact := by
    rw [lastType_of_names hmetadata htype,
      metadataType_of_names hmetadata htype]
  rw [artifactTypeOf_object, recordedType_of_metadataType hne hknown, hlast]
  constructor
  · intro hone
    by_contra hmisfit
    have hinferred := hone.inferred_of_gemara hschema
    rw [if_neg fun hboth => hmisfit hboth.1] at hinferred
    exact hknown hinferred.symm
  · intro hfits
    rw [if_pos ⟨hfits, hne⟩]
    exact ⟨fun found hfound => (Option.some.inj hfound).symm,
      fun _ => rfl, fun _ => rfl⟩

/-- A type that only other spellings show has to be the top-level type. -/
theorem oneType_of_respelled (hempty : metadataType artifact = "")
    (hfits : fitsType artifact = true) (hne : lastType artifact ≠ "")
    (hknown : lastType artifact ≠ "unknown") :
    OneType ((stringMember "type" artifact).filter
          fun topLevelType => topLevelType ∈ schemaTypes)
        (recordedType artifact)
        (artifactTypeOf (canonical (.obj artifact))) ↔
      stringMember "type" artifact = some (lastType artifact) := by
  have hrecorded : recordedType artifact =
      (stringMember "type" artifact).getD "unknown" :=
    (recordedType_of_empty hempty).resolve_left fun hboth => hne hboth.2
  rw [artifactTypeOf_object, if_pos ⟨hfits, hne⟩, hrecorded]
  constructor
  · intro hone
    have hinferred := hone.inferred_eq hknown
    cases htype : stringMember "type" artifact with
    | none =>
      rw [htype] at hinferred
      exact absurd hinferred hknown
    | some topLevelType =>
      rw [htype] at hinferred
      rw [hinferred, Option.getD_some]
  · intro htype
    rw [htype]
    exact ⟨fun found hfound => (Option.some.inj
      (Option.filter_eq_some_iff.mp hfound).1).symm, fun _ => rfl,
      fun _ => rfl⟩

/-- A document whose type the loader does not see must not be recorded under
one. -/
theorem oneType_of_unknown (hempty : metadataType artifact = "")
    (hunseen : artifactTypeOf (canonical (.obj artifact)) = "unknown") :
    OneType ((stringMember "type" artifact).filter
          fun topLevelType => topLevelType ∈ schemaTypes)
        (recordedType artifact)
        (artifactTypeOf (canonical (.obj artifact))) ↔
      ∀ topLevelType, stringMember "type" artifact = some topLevelType →
        topLevelType ∉ schemaTypes := by
  have hunknown : "unknown" ∉ schemaTypes := by decide
  rw [hunseen]
  constructor
  · intro hone topLevelType htype hmem
    have hchecked := hone.checked_eq topLevelType (by
      rw [htype, Option.filter_some, if_pos (by simpa using hmem)])
    rw [hchecked] at hmem
    have hinferred := hone.inferred_of_gemara hmem
    rw [← hinferred] at hmem
    exact hunknown hmem
  · intro htop
    refine ⟨?_, fun hknown => absurd rfl hknown, ?_⟩
    · intro found hfound
      obtain ⟨htype, hmem⟩ := Option.filter_eq_some_iff.mp hfound
      exact absurd (by simpa using hmem) (htop found htype)
    · intro hgemara
      rcases recordedType_of_empty hempty with ⟨hnone, -⟩ | hsome
      · rw [hnone] at hgemara
        exact absurd hgemara (by decide)
      · rw [hsome] at hgemara
        cases htype : stringMember "type" artifact with
        | none =>
          rw [htype] at hgemara
          exact absurd hgemara hunknown
        | some topLevelType =>
          rw [htype] at hgemara
          exact absurd hgemara (htop topLevelType htype)

/-- On a valid artifact the readers agree exactly when it is typed alike. -/
theorem oneType_iff (hvalid : validateArtifact compile artifact = .ok checked) :
    OneType checked (recordedType artifact)
        (artifactTypeOf (canonical (.obj artifact))) ↔
      TypedAlike artifact := by
  unfold TypedAlike
  rcases validateArtifact_eq_ok hvalid with ⟨hne, rfl⟩ | ⟨hempty, rfl⟩
  · rw [if_pos hne]
    exact oneType_of_metadataType hne hvalid
  · rw [if_neg (not_not.mpr hempty)]
    split
    · rename_i hseen
      simp only [List.mem_cons, List.not_mem_nil, or_false, not_or] at hseen
      exact oneType_of_respelled hempty hseen.1 hseen.2.1 hseen.2.2
    · rename_i hunseen
      refine oneType_of_unknown hempty ?_
      rw [artifactTypeOf_object]
      split
      · rename_i hboth
        by_contra hknown
        exact hunseen ⟨hboth.1, by simp [hboth.2, hknown]⟩
      · rfl

end Readers

/-- For every accepted request that is not declared an envelope: the receipt,
the work item and the ingested event carry one type, and it agrees with the
checked schema and with the type the loader infers from the unwrapped content
exactly when the body is typed alike under all spellings of its keys. -/
theorem one_type_iff {library : Library} {compile : String → Schema}
    {surroundings : Surroundings} {request : Request} {accepted : Accepted}
    (hcanonicalizes : library.Canonicalizes) (hrenders : library.Renders)
    (haccepted : ingestArtifact library compile surroundings request =
      .ok accepted)
    (hjson : request.contentType ≠ contentTypeDSSE) :
    ∃ artifact unwrapped recorded,
      unmarshalMap library (readBody request) = .ok artifact ∧
      unwrapContent library accepted.ref.receiptBytes = .ok unwrapped ∧
      predicateText library "artifactType" accepted.ref.receiptBytes =
        some recorded ∧
      accepted.ref.artifactType = recorded ∧
      accepted.ingested.artifactType = recorded ∧
      (OneType accepted.checkedSchema recorded
          (inferArtifactType library unwrapped.content) ↔
        TypedAlike artifact) := by
  obtain ⟨recorded, checked, hclassified, hsubmitted⟩ :=
    submit_of_ingestArtifact haccepted
  obtain ⟨rfl, hwrap, -, -⟩ := submit_eq_ok hsubmitted
  obtain ⟨href, hingested⟩ := artifactType_of_submit hsubmitted
  obtain ⟨canonicalContent, htransform, hunwrap⟩ :=
    unwrapContent_wrap hcanonicalizes hrenders hwrap
  obtain ⟨_, _, htexts⟩ := predicateText_wrap hcanonicalizes hrenders hwrap
  have htext : predicateText library "artifactType"
      accepted.ref.receiptBytes = some recorded := by
    rw [htexts]
    simp [stringMember, member, Predicate.members, asString, receiptStatement]
  rcases classify_eq_ok hclassified with
    ⟨hdsse, -⟩ | ⟨-, artifact, hdecoded, rfl, hvalidated⟩
  · exact absurd hdsse hjson
  · refine ⟨artifact, _, _, hdecoded, hunwrap, htext, href, hingested, ?_⟩
    have hinferred : inferArtifactType library canonicalContent =
        artifactTypeOf (canonical (.obj artifact)) := by
      rcases unmarshalMap_eq_ok hdecoded with hobject | ⟨hnull, rfl⟩
      · rw [inferArtifactType,
          hcanonicalizes _ canonicalContent _ htransform hobject]
      · rw [inferArtifactType,
          hcanonicalizes _ canonicalContent _ htransform hnull]
        rfl
    rw [hinferred]
    exact oneType_iff hvalidated

/-! ## Catalogs of one type and of two -/

/-- The readers agree on the catalog that spells its type exactly. -/
theorem valid_catalog_one_type :
    ∃ accepted unwrapped recorded,
      ingestArtifact plainLibrary sampleCompile plainSurroundings
        (catalogRequest validCatalog) = .ok accepted ∧
      unwrapContent plainLibrary accepted.ref.receiptBytes = .ok unwrapped ∧
      accepted.ingested.artifactType = recorded ∧
      OneType accepted.checkedSchema recorded
        (inferArtifactType plainLibrary unwrapped.content) := by
  have hplain : plain (.obj validCatalog) = true := by decide
  have hsize : (textBytes (.obj validCatalog)).length ≤ maxBodySize := by
    decide +kernel
  have hvalid : validateArtifact sampleCompile validCatalog =
      .ok (some "CapabilityCatalog") := by rfl
  obtain ⟨accepted, -, haccepted, -⟩ :=
    ingest_catalogRequest hplain hsize (by decide) hvalid
  have hjson : (catalogRequest validCatalog).contentType ≠
      contentTypeDSSE := by decide
  obtain ⟨artifact, unwrapped, recorded, hartifact, hunwrap, -, -, hingested,
    hone⟩ := one_type_iff canonicalizes_plainLibrary renders_plainLibrary
      haccepted hjson
  have hread : readBody (catalogRequest validCatalog) =
      textBytes (.obj validCatalog) := readBody_eq_body hsize
  rw [hread, unmarshalMap, unmarshal_textBytes hplain] at hartifact
  obtain rfl : validCatalog = artifact := Except.ok.inj hartifact
  refine ⟨accepted, unwrapped, recorded, haccepted, hunwrap, hingested,
    hone.mpr ?_⟩
  rw [TypedAlike, if_pos (by decide)]
  decide

/-- The catalog that spells the key `Type` is recorded and announced as
`unknown`, and the loader takes it for a capability catalog. -/
theorem misspelled_catalog_two_types :
    ∃ accepted unwrapped,
      ingestArtifact plainLibrary sampleCompile plainSurroundings
        (catalogRequest misspelledCatalog) = .ok accepted ∧
      unwrapContent plainLibrary accepted.ref.receiptBytes = .ok unwrapped ∧
      accepted.ref.artifactType = "unknown" ∧
      accepted.ingested.artifactType = "unknown" ∧
      inferArtifactType plainLibrary unwrapped.content =
        "CapabilityCatalog" := by
  have hvalid : validateArtifact sampleCompile misspelledCatalog =
      .ok none := by rfl
  obtain ⟨accepted, unwrapped, haccepted, hunwrap, hinferred, -, href,
    hingested⟩ := ingest_catalogRequest (by decide) (by decide +kernel)
      (by decide) hvalid
  have hunknown : recordedType misspelledCatalog = "unknown" := by decide
  have hcatalog : artifactTypeOf (canonical (.obj misspelledCatalog)) =
      "CapabilityCatalog" := by decide
  exact ⟨accepted, unwrapped, haccepted, hunwrap, href.trans hunknown,
    hingested.trans hunknown, hinferred.trans hcatalog⟩

end ComplyTime.SchemaGate
