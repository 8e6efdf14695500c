import ComplyTime.Graph.LoaderRuns
import ComplyTime.Graph.SealedWrites
import ComplyTime.Graph.SubjectView

/-!
# Subjects in one graph

All subjects share one graph, and an entity is the node of its label and ID,
whoever defines it.  Sealed events of other subjects leave the coverage and the
threat model of a subject alone as long as they write no evidence and no entity
that the subject's queries read.  A catalog that reuses the ID of a control
overwrites what the other subject's catalog says about it.
-/

namespace ComplyTime.Graph

open Cypher Keyed Merging RemoteStore

/-- The entities an upsert describes or relates. -/
def Upsert.entityKeys : Upsert → List NodeKey
  | .entity record => [.entity record.label record.id]
  | .edge record => [.entity record.fromLabel record.fromID,
      .entity record.toLabel record.toID]
  | _ => []

/-- The evidence of a sealed event, and the entities its artifact lists or
refers to. -/
def writtenKeys (loader : Loader) (data : EvidenceSealedData)
    (content : Bytes) : List NodeKey :=
  .evidence data.logIndex ::
    (artifactUpserts loader content data.logIndex).flatMap Upsert.entityKeys

/-- Not the key of the subject, nor of a node its queries read. -/
def Foreign (graph : EvidenceGraph) (subjectID : String) (key : NodeKey) :
    Prop :=
  key ≠ .subject subjectID ∧
    ∀ index, Reads graph subjectID index → ¬ schema.At graph key index

/-- A sealed event of the subject. -/
def SealedOf (subjectID : String) (delivery : Delivery) : Prop :=
  ∃ time data, delivery.message = .ok (.sealed time (.ok data)) ∧
    data.subjectID = subjectID

/-- If the delivery is a sealed event whose receipt can be read, all it writes
is foreign to the subject. -/
def Apart (loader : Loader) (graph : EvidenceGraph) (subjectID : String)
    (delivery : Delivery) : Prop :=
  ∀ time data unwrapped, delivery.message = .ok (.sealed time (.ok data)) →
    readReceipt loader delivery.surroundings data.storageRef = some unwrapped →
    ∀ key ∈ writtenKeys loader data unwrapped.content,
      Foreign graph subjectID key

/-! ## The keys a sealed event names -/

section Names

variable {loader : Loader} {data : EvidenceSealedData} {content : Bytes}
  {upsert : Upsert} {write : GraphWrite} {key : NodeKey}

theorem names_artifactUpserts {logIndex : Int64}
    (hupsert : upsert ∈ artifactUpserts loader content logIndex)
    (hwrite : write ∈ upsert.writes) (hnames : write.Names key) :
    key = .evidence logIndex ∨ key ∈ upsert.entityKeys := by
  have hentity : ∀ {record : EntityRecord}, record.evidenceLogIndex = logIndex →
      upsert = .entity record →
      key = .evidence logIndex ∨ key ∈ upsert.entityKeys := by
    rintro record rfl rfl
    simp only [Upsert.writes, List.mem_cons, List.not_mem_nil, or_false]
      at hwrite
    simp only [Upsert.entityKeys, List.mem_singleton]
    rcases hwrite with rfl | rfl
    · exact .inr hnames.symm
    · exact hnames.imp Eq.symm Eq.symm
  rw [artifactUpserts] at hupsert
  split at hupsert
  · cases hupsert
  · rename_i parsed hparsed
    rcases mem_upserts.mp hupsert with ⟨entity, hmem, rfl⟩ | ⟨edge, _, hedge⟩
    · exact hentity (evidenceLogIndex_of_parseArtifact hparsed hmem) rfl
    · simp only [edgeUpserts, List.mem_cons, List.not_mem_nil, or_false]
        at hedge
      rcases hedge with rfl | rfl | rfl
      · exact hentity rfl rfl
      · exact hentity rfl rfl
      · right
        obtain rfl := List.mem_singleton.mp hwrite
        simp only [Upsert.entityKeys, List.mem_cons, List.not_mem_nil, or_false]
        exact hnames.imp Eq.symm Eq.symm

/-- A sealed event names its subject, publishers, its evidence and the entities
of its artifact. -/
theorem names_sealedUpserts {receipt : Option Receipt.UnwrapResult}
    {sealed : Time} {answer : Outcome PublisherIdentity}
    (hupsert : upsert ∈ sealedUpserts loader data receipt sealed answer)
    (hwrite : write ∈ upsert.writes) (hnames : write.Names key) :
    key = .subject data.subjectID ∨ (∃ identity, key = .publisher identity) ∨
      ∃ unwrapped, receipt = some unwrapped ∧
        key ∈ writtenKeys loader data unwrapped.content := by
  obtain ⟨unwrapped, rfl, rfl | ⟨publisher, rfl | rfl | hartifact⟩⟩ :=
    mem_sealedUpserts hupsert
  · obtain rfl := List.mem_singleton.mp hwrite
    exact .inl hnames.symm
  · obtain rfl := List.mem_singleton.mp hwrite
    exact .inr (.inl ⟨_, hnames.symm⟩)
  · -- The evidence, linked to the subject and to the publisher.
    have hevidence : NodeKey.evidence data.logIndex ∈
        writtenKeys loader data unwrapped.content := List.mem_cons_self
    simp only [Upsert.writes, attributedWrites, List.mem_cons,
      List.not_mem_nil, or_false] at hwrite
    rcases hwrite with rfl | rfl | rfl
    · exact .inr (.inr ⟨unwrapped, rfl, hnames ▸ hevidence⟩)
    · rcases hnames with rfl | rfl
      · exact .inr (.inr ⟨unwrapped, rfl, hevidence⟩)
      · exact .inl rfl
    · rcases hnames with rfl | rfl
      · exact .inr (.inr ⟨unwrapped, rfl, hevidence⟩)
      · exact .inr (.inl ⟨_, rfl⟩)
  · refine .inr (.inr ⟨unwrapped, rfl, ?_⟩)
    rcases names_artifactUpserts hartifact hwrite hnames with rfl | hmem
    · exact List.mem_cons_self
    · exact List.mem_cons_of_mem _
        (List.mem_flatMap.mpr ⟨upsert, hartifact, hmem⟩)

end Names

variable {subjectID : String}

/-! ## Deliveries -/

section Deliveries

variable {loader : Loader} {state : LoaderState} {delivery : Delivery}
  {touched : NodeKey → Prop}

/-- The upserts a delivery of a sealed event has performed. -/
theorem exists_delivered {time : Time} {data : EvidenceSealedData}
    (hmessage : delivery.message = .ok (.sealed time (.ok data))) :
    ∃ performed left, sealedUpserts loader data
        (readReceipt loader delivery.surroundings data.storageRef)
        (sealedTime delivery.surroundings time)
        (lookupAnswer delivery.surroundings data state.graph) =
          performed ++ left ∧
      (state.deliver loader delivery).graph =
        applyUpserts performed state.graph := by
  obtain ⟨performed, left, hplan, hstore⟩ := handleSealed_makes.stops
    ⟨state.graph, delivery.replies⟩
  obtain ⟨made, missing, hupserts, rfl, rfl⟩ := List.map_eq_append_iff.mp hplan
  refine ⟨made, missing, hupserts, ?_⟩
  rw [LoaderState.deliver, hmessage]
  exact hstore

/-- A delivery of a sealed event, every write performed. -/
theorem graph_deliver (loader : Loader) (state : LoaderState)
    (surroundings : Surroundings) (time : Time) (data : EvidenceSealedData) :
    (state.deliver loader ⟨.ok (.sealed time (.ok data)), surroundings,
        []⟩).graph =
      applyUpserts (sealedUpserts loader data
        (readReceipt loader surroundings data.storageRef)
        (sealedTime surroundings time)
        (lookupAnswer surroundings data state.graph)) state.graph :=
  handleSealed_makes.completes state.graph

/-- A delivery of a sealed event rewrites the graph on the keys it names. -/
theorem rewritten_deliver {time : Time} {data : EvidenceSealedData}
    (hmessage : delivery.message = .ok (.sealed time (.ok data)))
    (hsubject : touched (.subject data.subjectID))
    (hpublisher : ∀ identity, touched (.publisher identity))
    (hwritten : ∀ unwrapped,
      readReceipt loader delivery.surroundings data.storageRef =
        some unwrapped →
      ∀ key ∈ writtenKeys loader data unwrapped.content, touched key) :
    Rewritten schema touched state.graph
      (state.deliver loader delivery).graph := by
  obtain ⟨performed, left, hsplit, hgraph⟩ := exists_delivered hmessage
  have hmade : ∀ upsert ∈ performed, upsert ∈ sealedUpserts loader data
      (readReceipt loader delivery.surroundings data.storageRef)
      (sealedTime delivery.surroundings time)
      (lookupAnswer delivery.surroundings data state.graph) := by
    intro upsert hmem
    rw [hsplit]
    exact List.mem_append_left left hmem
  have hkeeps : ∀ upsert ∈ performed, upsert.KeepsKeys :=
    fun upsert hmem => keepsKeys_sealedUpserts (hmade upsert hmem)
  have hready : FoundAll (performed ++ left) (contentOf state.graph) ∧
      ReadyAll schema (writesOf (performed ++ left))
        (contentOf state.graph) := by
    rw [← hsplit]
    exact ready_sealedUpserts
  rw [foundAll_append, writesOf_append, readyAll_append] at hready
  refine ⟨writesOf performed, ?_, ?_, hready.2.1, ?_⟩
  · rw [hgraph]
    exact contentOf_applyUpserts hkeeps hready.1.1
  · exact fun write => keepsKeys_writesOf hkeeps
  · intro write hmem key hnames
    obtain ⟨upsert, hupsert, hwrite⟩ := List.mem_flatMap.mp hmem
    rcases names_sealedUpserts (hmade upsert hupsert) hwrite hnames with
      rfl | ⟨identity, rfl⟩ | ⟨unwrapped, hreceipt, hkey⟩
    · exact hsubject
    · exact hpublisher identity
    · exact hwritten unwrapped hreceipt key hkey

variable {graph : EvidenceGraph}

theorem label_of_reads {index : ℕ} (hread : Reads graph subjectID index) :
    graph.fitsAt (anyOf .evidence) index = true ∨
      ∃ label, graph.fitsAt (anyOf (.entity label)) index = true := by
  cases hread with
  | evidence hevidence =>
    obtain ⟨subject, -, hincoming⟩ := hevidence
    exact .inl (mem_incoming.mp hincoming).2
  | entity hevidence hentity => exact .inr ⟨_, (mem_outgoing.mp hentity).2⟩
  | evaluated hevidence hfinding hcontrol =>
    exact .inr ⟨_, (mem_outgoing.mp hcontrol).2⟩

theorem foreign_of_label {key : NodeKey} (hsubject : key ≠ .subject subjectID)
    (hevidence : key.pattern.label ≠ .evidence)
    (hentity : ∀ label, key.pattern.label ≠ .entity label) :
    Foreign graph subjectID key := by
  refine ⟨hsubject, ?_⟩
  intro index hread hat
  rcases label_of_reads hread with hlabel | ⟨label, hlabel⟩
  · exact hevidence (label_of_at hat hlabel)
  · exact hentity label (label_of_at hat hlabel)

/-- Sealed events of another subject rewrite the graph on foreign keys. -/
theorem rewritten_of_apart {subjectID other : String}
    (hdistinct : other ≠ subjectID) {deliveries : List Delivery}
    (hsealed : ∀ delivery ∈ deliveries, SealedOf other delivery)
    (hapart : ∀ delivery ∈ deliveries, Apart loader graph subjectID delivery) :
    Rewritten schema (Foreign graph subjectID) state.graph
      (deliveries.foldl (LoaderState.deliver loader) state).graph := by
  induction deliveries generalizing state with
  | nil => exact Rewritten.refl state.graph
  | cons delivery deliveries ih =>
    obtain ⟨time, data, hmessage, rfl⟩ := hsealed delivery List.mem_cons_self
    have hfirst : Rewritten schema (Foreign graph subjectID) state.graph
        (state.deliver loader delivery).graph := by
      apply rewritten_deliver hmessage
      · apply foreign_of_label
        · exact fun heq => hdistinct (NodeKey.subject.inj heq)
        · exact NodeLabel.noConfusion
        · exact fun _ => NodeLabel.noConfusion
      · intro identity
        apply foreign_of_label
        · exact NodeKey.noConfusion
        · exact NodeLabel.noConfusion
        · exact fun _ => NodeLabel.noConfusion
      · intro unwrapped hreceipt
        exact hapart delivery List.mem_cons_self time data unwrapped hmessage
          hreceipt
    apply hfirst.trans
    apply ih
    · exact List.forall_mem_of_forall_mem_cons hsealed
    · exact List.forall_mem_of_forall_mem_cons hapart

/-- Sealed events of another subject, whatever becomes of their writes, leave
the possible answers of `Coverage` and `ThreatModel` as they were, if they
write nothing the subject's queries read. -/
theorem subject_isolation {subjectID other : String}
    (hdistinct : other ≠ subjectID) {deliveries : List Delivery}
    (hsealed : ∀ delivery ∈ deliveries, SealedOf other delivery)
    (hapart : ∀ delivery ∈ deliveries,
      Apart loader state.graph subjectID delivery) :
    (∀ catalogID answer,
      Coverage (deliveries.foldl (LoaderState.deliver loader) state).graph
          subjectID catalogID answer ↔
        Coverage state.graph subjectID catalogID answer) ∧
      ∀ answer,
        ThreatModel (deliveries.foldl (LoaderState.deliver loader)
            state).graph subjectID answer ↔
          ThreatModel state.graph subjectID answer := by
  have hrewritten : Rewritten schema (Foreign state.graph subjectID)
      state.graph (deliveries.foldl (LoaderState.deliver loader) state).graph :=
    rewritten_of_apart hdistinct hsealed hapart
  have hsubject : ¬ Foreign state.graph subjectID (.subject subjectID) :=
    fun hforeign => hforeign.1 rfl
  have hreads : ∀ index, Reads state.graph subjectID index →
      Spared schema (Foreign state.graph subjectID) state.graph index := by
    intro index hread
    constructor
    · rcases label_of_reads hread with hlabel | ⟨label, hlabel⟩
      · exact lt_length_of_fitsAt state.graph hlabel
      · exact lt_length_of_fitsAt state.graph hlabel
    · exact fun key hforeign => hforeign.2 index hread
  exact ⟨coverage_iff hrewritten hsubject hreads,
    threatModel_iff hrewritten hsubject hreads⟩

end Deliveries

/-! ## Catalogs of two subjects -/

/-- A control catalog with one control, as a document. -/
def catalogDocument (catalogID id title : String) : Json :=
  .obj [("controls", .arr [.obj [("id", .str id), ("title", .str title)]]),
    ("metadata", .obj [("id", .str catalogID),
      ("type", .str "ControlCatalog")])]

def catalogOf (catalogID id title : String) : ControlCatalog where
  metadataID := catalogID
  controls := [⟨id, title, "", "", [], []⟩]

/-- What the decoder makes of such documents. -/
def decodeCatalog (content : Bytes) : Except GoError ControlCatalog :=
  match JsonText.parse content with
  | some (.obj [("controls", .arr [.obj [(_, .str id), (_, .str title)]]),
      ("metadata", .obj [(_, .str catalogID), _])]) =>
      .ok (catalogOf catalogID id title)
  | _ => .error (.message "no catalog")

def catalogLoader : Loader :=
  { plainLoader with
    decoders := { plainLoader.decoders with controlCatalog := decodeCatalog } }

/-- The locker answers with the receipt of the document. -/
def catalogSurroundings (document : Json) : Surroundings where
  respond := fun _ =>
    (Receipt.wrap Receipt.plainLibrary (JsonText.textBytes document) builder
      "" "ControlCatalog" "").map fun receipt => ⟨200, .ok receipt⟩
  lookup := .ok 0
  now := 0

/-- The sealed event of an entry with the document. -/
def catalogDelivery (subjectID : String) (logIndex : Int64)
    (document : Json) : Delivery where
  message := .ok (.sealed 1 (.ok (sealedData subjectID "digest" logIndex)))
  surroundings := catalogSurroundings document
  replies := []

section Catalogs

variable {document : Json} {storageRef : String}

theorem readReceipt_catalog {loader : Loader}
    (hrequest : ∀ url, loader.newRequest url = none)
    (hlibrary : loader.library = Receipt.plainLibrary)
    (hplain : JsonText.plain document = true)
    (hcanonical : document.canonical = document)
    (hlength : ¬ (utf8 storageRef).length < 9) :
    readReceipt loader (catalogSurroundings document) storageRef =
      some ⟨JsonText.textBytes document, builder, Receipt.receiptType⟩ := by
  obtain ⟨receipt, hwrap⟩ :=
    Receipt.wrap_textBytes hplain builder "" "ControlCatalog" ""
  obtain ⟨canonicalContent, hcontent, hunwrap⟩ := Receipt.unwrapContent_wrap
    Receipt.canonicalizes_plainLibrary Receipt.renders_plainLibrary hwrap
  rw [Receipt.transform_textBytes hplain, hcanonical] at hcontent
  obtain rfl := Except.ok.inj hcontent
  have hfetch : fetchArtifact loader (catalogSurroundings document)
      storageRef = .ok receipt := by
    rw [fetchArtifact, artifactURL, if_neg hlength]
    simp only [requestArtifact, hrequest, catalogSurroundings, hwrap]
    rfl
  rw [readReceipt, hfetch, hlibrary]
  simp only [hunwrap]
  rfl

/-- What a catalog with one control writes. -/
def controlUpsert (catalogID id title : String) (logIndex : Int64) : Upsert :=
  .entity ⟨id, .control, controlProperties catalogID ⟨id, title, "", "", [],
    []⟩, logIndex⟩

variable {catalogID id title : String}

theorem canonical_pair {first second : String} {left right : Json}
    (hordered : Json.utf16 first ≤ Json.utf16 second)
    (hleft : left.canonical = left) (hright : right.canonical = right) :
    (Json.obj [(first, left), (second, right)]).canonical =
      .obj [(first, left), (second, right)] := by
  rw [Json.canonical_obj, Json.canonicalObject_eq_self]
  · rw [Json.canonicalMembers_eq_self_iff]
    simp [hleft, hright]
  · simp [Json.Precedes, hordered]

theorem canonical_str (text : String) :
    (Json.str text).canonical = .str text := by
  simp [Json.canonical]

theorem canonical_catalogDocument :
    (catalogDocument catalogID id title).canonical =
      catalogDocument catalogID id title := by
  apply canonical_pair (by decide)
  · rw [Json.canonical, Json.canonicalItems, Json.canonicalItems,
      canonical_pair (by decide) (canonical_str id) (canonical_str title)]
  · exact canonical_pair (by decide) (canonical_str catalogID)
      (canonical_str "ControlCatalog")

section

variable (hplain : JsonText.plain (catalogDocument catalogID id title) = true)
  (htype : artifactTypeOf (catalogDocument catalogID id title) =
    "ControlCatalog")

include hplain htype

theorem inferArtifactType_catalog :
    inferArtifactType catalogLoader.library
        (JsonText.textBytes (catalogDocument catalogID id title)) =
      "ControlCatalog" := by
  have hunmarshal : catalogLoader.library.unmarshal
      (JsonText.textBytes (catalogDocument catalogID id title)) =
        .ok (catalogDocument catalogID id title) :=
    Receipt.unmarshal_textBytes hplain
  rw [inferArtifactType, hunmarshal]
  exact htype

theorem artifactUpserts_catalog (logIndex : Int64) :
    artifactUpserts catalogLoader
        (JsonText.textBytes (catalogDocument catalogID id title)) logIndex =
      [controlUpsert catalogID id title logIndex] := by
  have hdecode : decodeCatalog
      (JsonText.textBytes (catalogDocument catalogID id title)) =
        .ok (catalogOf catalogID id title) := by
    rw [decodeCatalog, JsonText.parse_textBytes hplain]
    rfl
  have hdecoder : catalogLoader.decoders.controlCatalog = decodeCatalog := rfl
  rw [artifactUpserts, inferArtifactType_catalog hplain htype, parseArtifact,
    if_pos rfl, hdecoder, hdecode]
  rfl

/-- What a document of the subject writes where no publisher is known. -/
def catalogUpserts (subjectID : String) (logIndex : Int64)
    (catalogID id title : String) : List Upsert :=
  [.subject subjectID, .publisher placeholder.issuer placeholder.sub,
    .evidence (evidenceRecord (sealedData subjectID "digest" logIndex)
      "ControlCatalog" placeholder 1),
    controlUpsert catalogID id title logIndex]

theorem deliver_catalog {state : LoaderState} {logIndex : Int64}
    (hlength : ¬ (utf8 (sealedData subjectID "digest"
      logIndex).storageRef).length < 9)
    (hanswer : findPublisherByDigest (.ok 0) subjectID "digest"
      (upsertSubject subjectID state.graph) = .ok ⟨"", ""⟩) :
    (state.deliver catalogLoader (catalogDelivery subjectID logIndex
        (catalogDocument catalogID id title))).graph =
      applyUpserts (catalogUpserts subjectID logIndex catalogID id title)
        state.graph := by
  have hlookup : lookupAnswer (catalogSurroundings
      (catalogDocument catalogID id title))
      (sealedData subjectID "digest" logIndex) state.graph =
        .ok ⟨"", ""⟩ := hanswer
  rw [catalogDelivery, graph_deliver,
    readReceipt_catalog (fun _ => rfl) rfl hplain canonical_catalogDocument
      hlength, hlookup]
  simp only [sealedUpserts, resolved, Option.map_some, Option.getD_some,
    evidenceUpserts, inferArtifactType_catalog hplain htype,
    artifactUpserts_catalog hplain htype]
  rfl

end

end Catalogs

/-- After the only entry of the first subject. -/
def alphaSealed : LoaderState :=
  LoaderState.initial.deliver catalogLoader (catalogDelivery "alpha" 0
    (catalogDocument "alpha-catalog" "C1" "Encryption"))

/-- A catalog of the second subject, at another log index. -/
def betaDelivery (id : String) : Delivery :=
  catalogDelivery "beta" 1 (catalogDocument "beta-catalog" id "Logging")

theorem graph_alphaSealed :
    alphaSealed.graph = applyUpserts (catalogUpserts "alpha" 0 "alpha-catalog"
      "C1" "Encryption") Graph.empty := by
  apply deliver_catalog
  · decide
  · decide +kernel
  · decide +kernel
  · decide +kernel

theorem graph_betaDelivery :
    (alphaSealed.deliver catalogLoader (betaDelivery "C1")).graph =
      applyUpserts (catalogUpserts "beta" 1 "beta-catalog" "C1" "Logging")
        alphaSealed.graph := by
  apply deliver_catalog
  · decide
  · decide +kernel
  · decide +kernel
  · rw [graph_alphaSealed]
    decide +kernel

/-- The second subject reuses the ID of a control: it disappears from the
coverage of the first one's catalog, and its title changes. -/
theorem reused_control_id :
    SealedOf "beta" (betaDelivery "C1") ∧
      Coverage alphaSealed.graph "alpha" "alpha-catalog"
        (.ok ⟨"alpha", "alpha-catalog", "ControlCatalog", 0, 1,
          [⟨"C1", "Encryption", .uncovered, none⟩]⟩) ∧
      (∀ answer,
        Coverage (alphaSealed.deliver catalogLoader (betaDelivery "C1")).graph
          "alpha" "alpha-catalog" answer →
        answer = .ok ⟨"alpha", "alpha-catalog", "ControlCatalog", 0, 0, []⟩) ∧
      (sourceRows alphaSealed.graph "alpha" .control).map SourceRow.title =
        [some (.text "Encryption")] ∧
      (sourceRows (alphaSealed.deliver catalogLoader
        (betaDelivery "C1")).graph "alpha" .control).map SourceRow.title =
          [some (.text "Logging")] := by
  rw [graph_betaDelivery, graph_alphaSealed]
  refine ⟨⟨1, _, rfl, rfl⟩, ?_, ?_, by decide +kernel, by decide +kernel⟩
  · refine ⟨[(some (.text "C1"), some (.text "Encryption"))], [], ?_, ?_, ?_⟩
    · apply List.Perm.of_eq
      decide +kernel
    · apply List.Perm.of_eq
      decide +kernel
    · decide +kernel
  · rintro answer ⟨controls, latest, hcontrols, hlatest, rfl⟩
    have hnone : coverageControls (applyUpserts (catalogUpserts "beta" 1
        "beta-catalog" "C1" "Logging") (applyUpserts (catalogUpserts "alpha" 0
          "alpha-catalog" "C1" "Encryption") Graph.empty)) "alpha"
            "alpha-catalog" = [] := by decide +kernel
    have hnone' : latestEvidence (evaluations (applyUpserts (catalogUpserts
        "beta" 1 "beta-catalog" "C1" "Logging") (applyUpserts (catalogUpserts
          "alpha" 0 "alpha-catalog" "C1" "Encryption") Graph.empty)) "alpha"
            "alpha-catalog") = [] := by decide +kernel
    rw [hnone] at hcontrols
    rw [hnone'] at hlatest
    obtain rfl := hcontrols.eq_nil
    obtain rfl := hlatest.eq_nil
    rfl

/-- A catalog with other controls leaves the first subject alone. -/
theorem other_control_id :
    SealedOf "beta" (betaDelivery "C2") ∧
      (∀ catalogID answer,
        Coverage ([betaDelivery "C2"].foldl
            (LoaderState.deliver catalogLoader) alphaSealed).graph "alpha"
            catalogID answer ↔
          Coverage alphaSealed.graph "alpha" catalogID answer) ∧
      ∀ answer,
        ThreatModel ([betaDelivery "C2"].foldl
            (LoaderState.deliver catalogLoader) alphaSealed).graph "alpha"
            answer ↔
          ThreatModel alphaSealed.graph "alpha" answer := by
  have hsealed : SealedOf "beta" (betaDelivery "C2") := ⟨1, _, rfl, rfl⟩
  have hforeign : ∀ key : NodeKey, key ≠ .subject "alpha" →
      alphaSealed.graph.select (schema.pattern key) = [] →
      Foreign alphaSealed.graph "alpha" key := by
    intro key hsubject hselect
    refine ⟨hsubject, ?_⟩
    intro index _ hat
    have hmem := (mem_select alphaSealed.graph).mpr hat
    rw [hselect] at hmem
    cases hmem
  have hapart : Apart catalogLoader alphaSealed.graph "alpha"
      (betaDelivery "C2") := by
    intro time data unwrapped hmessage hreceipt
    obtain ⟨rfl, hdata⟩ := Event.sealed.inj (Except.ok.inj hmessage)
    obtain rfl := Except.ok.inj hdata
    have hplain : JsonText.plain (catalogDocument "beta-catalog" "C2"
      "Logging") = true := by decide
    rw [betaDelivery, catalogDelivery, readReceipt_catalog (fun _ => rfl) rfl
      hplain canonical_catalogDocument (by decide +kernel)] at hreceipt
    obtain rfl := Option.some.inj hreceipt
    rw [writtenKeys, artifactUpserts_catalog hplain (by decide +kernel)]
    simp only [controlUpsert, List.flatMap_cons, List.flatMap_nil,
      Upsert.entityKeys, List.append_nil, List.mem_cons, List.not_mem_nil,
      or_false, forall_eq_or_imp, forall_eq]
    constructor
    · apply hforeign _ NodeKey.noConfusion
      rw [graph_alphaSealed]
      decide +kernel
    · apply hforeign _ NodeKey.noConfusion
      rw [graph_alphaSealed]
      decide +kernel
  have hdistinct : "beta" ≠ "alpha" := by decide
  exact ⟨hsealed, subject_isolation hdistinct
    (List.forall_mem_singleton.mpr hsealed)
    (List.forall_mem_singleton.mpr hapart)⟩

end ComplyTime.Graph
