import ComplyTime.Graph.Book

/-!
# Handling an event

Each handler is followed call by call: whatever the replies of the store, the
graph afterwards represents the book from before or the book with the entry of
the event, and the latter whenever the handler returns nil.
-/

namespace ComplyTime.Graph

open Cypher Keyed RemoteStore

/-! ## Reading nodes by key -/

section Reading

variable {graph : EvidenceGraph} {materialized : Materialized} {key : NodeKey}
  {index : ℕ} {name : String}

theorem property_eq (hrefines : schema.Refines graph materialized)
    (hat : schema.At graph key index) :
    property graph index name =
      (materialized.node key).bind fun properties => properties name := by
  obtain ⟨node, hnode, _⟩ := at_iff.mp hat
  rw [property, hnode, ← hrefines.view_eq, hrefines.keys.node_of_at hat hnode]
  rfl

theorem property_of_at {value : PropertyValue}
    (hat : schema.At graph key index)
    (hmem : (name, value) ∈ key.pattern.properties) :
    property graph index name = some value := by
  obtain ⟨node, hnode, hfits⟩ := at_iff.mp hat
  rw [property, hnode]
  exact (fits_iff.mp hfits).2 (name, value) hmem

theorem label_of_at {label : NodeLabel} (hat : schema.At graph key index)
    (hfits : graph.fitsAt (anyOf label) index = true) :
    key.pattern.label = label := by
  obtain ⟨node, hnode, hkey⟩ := at_iff.mp hat
  rw [Graph.fitsAt, hnode] at hfits
  have hlabel : node.label = label := (fits_iff.mp hfits).1
  exact (fits_iff.mp hkey).1.symm.trans hlabel

theorem exists_key {label : NodeLabel} (hkeys : schema.Keys graph)
    (hfits : graph.fitsAt (anyOf label) index = true) :
    ∃ key, schema.At graph key index ∧ key.pattern.label = label := by
  obtain ⟨key, hat⟩ := hkeys.total index (lt_length_of_fitsAt graph hfits)
  exact ⟨key, hat, label_of_at hat hfits⟩

theorem fitsAt_anyOf (hat : schema.At graph key index) :
    graph.fitsAt (anyOf key.pattern.label) index = true := by
  obtain ⟨node, hnode, hfits⟩ := at_iff.mp hat
  rw [Graph.fitsAt, hnode, Option.any_some, fits_iff]
  exact ⟨(fits_iff.mp hfits).1, by simp [anyOf]⟩

theorem exists_publisher (hkeys : schema.Keys graph)
    (hfits : graph.fitsAt (anyOf .publisher) index = true) :
    ∃ identity, schema.At graph (.publisher identity) index := by
  obtain ⟨key, hat, hlabel⟩ := exists_key hkeys hfits
  cases key with
  | publisher identity => exact ⟨identity, hat⟩
  | _ => cases hlabel

theorem publisherOf_at {identity : PublisherIdentity}
    (hat : schema.At graph (.publisher identity) index) :
    publisherOf graph index = .ok identity := by
  have hissuer : property graph index "issuer" =
      some (.text identity.issuer) :=
    property_of_at hat (by simp [NodeKey.pattern])
  have hsub : property graph index "sub" = some (.text identity.sub) :=
    property_of_at hat (by simp [NodeKey.pattern])
  simp only [publisherOf, hissuer, hsub, assertString]
  rfl

end Reading

/-! ## The publisher lookup -/

section Lookup

variable {graph : EvidenceGraph} {materialized : Materialized} {book : Book}
  {subjectID digest : String}

section

variable (hrefines : schema.Refines graph materialized)

include hrefines

theorem at_of_link {near far : NodeKey} {type : RelationType}
    (hlink : materialized.link near type far) :
    ∃ index, schema.At graph far index := by
  rw [← hrefines.view_eq] at hlink
  obtain ⟨_, index, _, hat, _⟩ := hlink
  exact ⟨index, hat⟩

/-- The publishers matched from the node of a key are those it is linked to. -/
theorem exists_row_publisher {key : NodeKey} {index : ℕ} :
    (∃ row, (row, index) ∈ (graph.query
      |>.matchNode key.pattern
      |>.matchOutgoing (fun (_, near) => near) .publishedBy
        (anyOf .publisher)).rows) ↔
      ∃ identity, schema.At graph (.publisher identity) index ∧
        materialized.link key .publishedBy (.publisher identity) := by
  rw [← hrefines.view_eq]
  simp only [Prod.exists, Table.matchOutgoing, Table.matchNode,
    mem_rows_extend, mem_outgoing, mem_select]
  constructor
  · rintro ⟨_, near, ⟨_, hnear⟩, hmem, hfits⟩
    obtain ⟨identity, hat⟩ := exists_publisher hrefines.keys hfits
    exact ⟨identity, hat, near, index, hnear, hat, hmem⟩
  · rintro ⟨identity, hat, near, far, hnear, hfar, hmem⟩
    obtain rfl := hrefines.keys.unique hat hfar
    exact ⟨(), near, ⟨List.mem_singleton_self _, hnear⟩, hmem, fitsAt_anyOf hat⟩

theorem mem_publishersByDigest {index : ℕ} :
    index ∈ publishersByDigest graph subjectID digest ↔
      ∃ identity, schema.At graph (.publisher identity) index ∧
        materialized.link (.ingestedStub digest subjectID) .publishedBy
          (.publisher identity) := by
  rw [← exists_row_publisher hrefines, publishersByDigest, List.mem_map]
  constructor
  · rintro ⟨⟨row, _⟩, hmem, rfl⟩
    exact ⟨row, hmem⟩
  · rintro ⟨row, hmem⟩
    exact ⟨(row, index), hmem, rfl⟩

end

theorem limitOne_eq_none {pick : ℕ} {rows : List ℕ}
    (hnone : limitOne pick rows = none) : rows = [] := by
  rw [limitOne, List.getElem?_eq_none_iff] at hnone
  by_contra hne
  have hlt := Nat.mod_lt pick (List.length_pos_of_ne_nil hne)
  omega

/-- A lookup that does not fail answers with the publisher of some stub, or
with nothing when there is none. -/
theorem findPublisherByDigest_ok (hrefines : schema.Refines graph materialized)
    (hrepresents : Represents book materialized) (pick : ℕ) :
    ∃ found, findPublisherByDigest (.ok pick) subjectID digest graph =
        .ok found ∧
      ((found = ⟨"", ""⟩ ∧
          ∀ publisher, ⟨digest, subjectID, publisher⟩ ∉ book.stubs) ∨
        ⟨digest, subjectID, found⟩ ∈ book.stubs) := by
  rw [findPublisherByDigest]
  cases hlimit : limitOne pick (publishersByDigest graph subjectID digest) with
  | none =>
    refine ⟨⟨"", ""⟩, rfl, .inl ⟨rfl, ?_⟩⟩
    intro publisher hstub
    have hlink := (hrepresents.stubbed _ _ _).mpr hstub
    obtain ⟨index, hat⟩ := at_of_link hrefines hlink
    have hmem := (mem_publishersByDigest hrefines).mpr
      ⟨publisher, hat, hlink⟩
    rw [limitOne_eq_none hlimit] at hmem
    cases hmem
  | some index =>
    have hmem := List.mem_of_getElem? hlimit
    obtain ⟨identity, hat, hlink⟩ := (mem_publishersByDigest hrefines).mp hmem
    exact ⟨identity, publisherOf_at hat,
      .inr ((hrepresents.stubbed _ _ _).mp hlink)⟩

/-- The publishers a sealed event may be attributed to: the placeholder when
the lookup fails or finds no stub, else the publisher of some stub. -/
inductive Resolves (stubs : List Stub) (data : EvidenceSealedData) :
    Except GoError ℕ → PublisherIdentity → Prop
  | failed (err : GoError) : Resolves stubs data (.error err) placeholder
  | unknown (pick : ℕ) :
      (∀ publisher, ⟨data.contentDigest, data.subjectID, publisher⟩ ∉ stubs) →
      Resolves stubs data (.ok pick) placeholder
  | found (pick : ℕ) (publisher : PublisherIdentity) :
      ⟨data.contentDigest, data.subjectID, publisher⟩ ∈ stubs →
      Resolves stubs data (.ok pick) (orPlaceholder (.ok publisher))

end Lookup

/-! ## Calls -/

/-- The graph stands for a keyed graph with the property. -/
def Stands (condition : Materialized → Prop) (graph : EvidenceGraph) : Prop :=
  ∃ materialized, schema.Refines graph materialized ∧ condition materialized

theorem Stands.mono {weaker stronger : Materialized → Prop}
    (himp : ∀ materialized, stronger materialized → weaker materialized)
    (graph : EvidenceGraph) (hstands : Stands stronger graph) :
    Stands weaker graph := by
  obtain ⟨materialized, hrefines, hholds⟩ := hstands
  exact ⟨materialized, hrefines, himp materialized hholds⟩

theorem Stands.apply {pre post : Materialized → Prop} {graph : EvidenceGraph}
    (hstands : Stands pre graph) {upsert : Upsert} (hkeeps : upsert.KeepsKeys)
    (hpost : ∀ materialized, pre materialized →
      post (upsert.materialize materialized)) :
    Stands post (upsert.apply graph) := by
  obtain ⟨materialized, hrefines, hpre⟩ := hstands
  exact ⟨upsert.materialize materialized,
    Upsert.apply_refines hrefines hkeeps, hpost materialized hpre⟩

variable {context : String}

/-- A call moves from one property to the next, or fails with either. -/
theorem call_triple {pre post failed : Materialized → Prop} {upsert : Upsert}
    (hkeeps : upsert.KeepsKeys) (hpost : ∀ materialized, pre materialized →
      post (upsert.materialize materialized))
    (hbefore : ∀ materialized, pre materialized → failed materialized)
    (hafter : ∀ materialized, post materialized → failed materialized) :
    Triple (Stands pre) (within context (call upsert)) (fun _ => Stands post)
      (Stands failed) := by
  have hwritten : ∀ graph, Stands pre graph →
      Stands post (upsert.apply graph) :=
    fun graph hstands => hstands.apply hkeeps hpost
  apply Triple.mapError
  apply Triple.write hwritten
  · exact fun graph hpre => (hwritten graph hpre).mono hafter _
  · exact fun graph hpre => hpre.mono hbefore _

theorem result_bind {α β : Type} {pre failed : EvidenceGraph → Prop}
    {post : β → EvidenceGraph → Prop} {result : Except GoError α}
    {rest : α → LoaderProgram β}
    (hrest : ∀ value, result = .ok value → Triple pre (rest value) post failed)
    (hfailed : ∀ graph, pre graph → failed graph) :
    Triple pre (within context (ofResult result) >>= rest) post failed := by
  apply Triple.compute_bind
  · intro value hvalue
    apply hrest value
    cases result with
    | error err => cases hvalue
    | ok found => exact congrArg Except.ok (Except.ok.inj hvalue)
  · exact hfailed

/-! ## Handlers -/

/-- The receipt at a storage reference, if it can be fetched and unwrapped. -/
def readReceipt (loader : Loader) (surroundings : Surroundings)
    (storageRef : String) : Option Receipt.UnwrapResult :=
  match fetchArtifact loader surroundings storageRef with
  | .error _ => none
  | .ok receiptBytes =>
    (Receipt.unwrapContent loader.library receiptBytes).toOption

/-- The books that differ from the given one by the entry of an event. -/
def Entry (loader : Loader) (surroundings : Surroundings) (book : Book) :
    Event → Book → Prop
  | .ingested (.ok data), next =>
    next = book.ingest ⟨data.contentDigest, data.subjectID, data.publisher⟩
  | .sealed time (.ok data), next =>
    ∃ unwrapped publisher,
      readReceipt loader surroundings data.storageRef = some unwrapped ∧
      Resolves book.stubs data surroundings.lookup publisher ∧
      next = book.seal (evidenceRecord data
        (inferArtifactType loader.library unwrapped.content) publisher
        (sealedTime surroundings time))
  | .subjectRegistered (.ok _), next => next = book
  | _, _ => False

/-- The entry of the event is in the book. -/
def Entered (loader : Loader) (surroundings : Surroundings) (book : Book)
    (event : Event) (graph : Materialized) : Prop :=
  ∃ next, Entry loader surroundings book event next ∧ Represents next graph

section Handlers

variable {loader : Loader} {surroundings : Surroundings} {book : Book}

theorem Represents.ensureSubject {graph : Materialized}
    (hrepresents : Represents book graph) (subjectID : String) :
    Represents book (graph.ensure (.subject subjectID)) :=
  hrepresents.ensure fun _ => NodeKey.noConfusion

theorem Represents.ensurePublisher {graph : Materialized}
    (hrepresents : Represents book graph) (identity : PublisherIdentity) :
    Represents book (graph.ensure (.publisher identity)) :=
  hrepresents.ensure fun _ => NodeKey.noConfusion

/-- A condition that does not depend on the graph. -/
theorem triple_of_known {α : Type} {known : Prop}
    {condition : Materialized → Prop} {program : LoaderProgram α}
    {post : α → EvidenceGraph → Prop} {failed : EvidenceGraph → Prop}
    (htriple : known → Triple (Stands condition) program post failed) :
    Triple (Stands fun graph => known ∧ condition graph) program post
      failed := by
  rintro world ⟨graph, hrefines, hknown, hcondition⟩
  exact htriple hknown world ⟨graph, hrefines, hcondition⟩

section Ends

variable {failed : Materialized → Prop}

theorem subject_triple (hfailed : ∀ graph, Represents book graph → failed graph)
    (subjectID : String) :
    Triple (Stands (Represents book))
      (within "upserting subject" (call (.subject subjectID)))
      (fun _ => Stands fun graph => Represents book graph ∧
        graph.Holds (.subject subjectID))
      (Stands failed) := by
  apply call_triple
  · trivial
  · intro graph hrepresents
    exact ⟨hrepresents.ensureSubject subjectID, holds_ensure.mpr (.inl rfl)⟩
  · exact hfailed
  · exact fun graph hmiddle => hfailed graph hmiddle.1

theorem publisher_triple
    (hfailed : ∀ graph, Represents book graph → failed graph)
    {subjectID : String} (publisher : PublisherIdentity) :
    Triple
      (Stands fun graph => Represents book graph ∧
        graph.Holds (.subject subjectID))
      (within "upserting publisher"
        (call (.publisher publisher.issuer publisher.sub)))
      (fun _ => Stands fun graph => Represents book graph ∧
        graph.Holds (.subject subjectID) ∧ graph.Holds (.publisher publisher))
      (Stands failed) := by
  apply call_triple
  · trivial
  · rintro graph ⟨hrepresents, hholds⟩
    exact ⟨hrepresents.ensurePublisher publisher,
      holds_ensure.mpr (.inr hholds), holds_ensure.mpr (.inl rfl)⟩
  · exact fun graph hmiddle => hfailed graph hmiddle.1
  · exact fun graph hmiddle => hfailed graph hmiddle.1

end Ends

theorem handleIngested_triple (data : Except GoError EvidenceIngestedData) :
    Triple (Stands (Represents book)) (handleIngested data)
      (fun _ => Stands (Entered loader surroundings book (.ingested data)))
      (Stands fun graph => Represents book graph ∨
        Entered loader surroundings book (.ingested data) graph) := by
  apply result_bind _ (Stands.mono fun _ => Or.inl)
  rintro data rfl
  apply Triple.bind (subject_triple (fun _ => Or.inl) data.subjectID)
  intro _
  apply Triple.bind (publisher_triple (fun _ => Or.inl) data.publisher)
  intro _
  apply call_triple
  · trivial
  · rintro graph ⟨hrepresents, hholds, hholds'⟩
    exact ⟨_, rfl, hrepresents.ingestStub hholds hholds'⟩
  · exact fun _ hmiddle => .inl hmiddle.1
  · exact fun _ => Or.inr

theorem handleSubjectRegistered_triple (data : Except GoError String) :
    Triple (Stands (Represents book)) (handleSubjectRegistered data)
      (fun _ => Stands (Entered loader surroundings book
        (.subjectRegistered data)))
      (Stands fun graph => Represents book graph ∨
        Entered loader surroundings book (.subjectRegistered data) graph) := by
  apply result_bind _ (Stands.mono fun _ => Or.inl)
  rintro subjectID rfl
  apply call_triple
  · trivial
  · intro graph hrepresents
    exact ⟨book, rfl, hrepresents.ensureSubject subjectID⟩
  · exact fun _ => Or.inl
  · exact fun _ => Or.inr

end Handlers

/-! ## Artifacts -/

section Artifacts

variable {loader : Loader} {artifactType : String} {data : Bytes}
  {logIndex : Int64}

variable {parsed : ParsedArtifact}

theorem parseWith_eq_ok {Catalog : Type} {name : String}
    {decoded : Except GoError Catalog} {parse : Catalog → ParsedArtifact}
    (hparsed : parseWith name decoded parse = .ok parsed) :
    ∃ catalog, parse catalog = parsed := by
  cases decoded with
  | error err => cases hparsed
  | ok catalog => exact ⟨catalog, Except.ok.inj hparsed⟩

theorem parseArtifact_cases
    (hparsed : parseArtifact loader.decoders artifactType data logIndex =
      .ok parsed) :
    (∃ catalog, parseControlCatalog catalog logIndex = parsed) ∨
    (∃ catalog, parseThreatCatalog catalog logIndex = parsed) ∨
    (∃ catalog, parseCapabilityCatalog catalog logIndex = parsed) ∨
    ⟨"", [], []⟩ = parsed := by
  unfold parseArtifact at hparsed
  split at hparsed
  · exact .inl (parseWith_eq_ok hparsed)
  split at hparsed
  · exact .inr (.inl (parseWith_eq_ok hparsed))
  split at hparsed
  · exact .inr (.inr (.inl (parseWith_eq_ok hparsed)))
  · exact .inr (.inr (.inr (Except.ok.inj hparsed)))

/-- The properties the parsers assign. -/
def propertyNames : List String :=
  ["title", "objective", "group", "catalogID", "assessmentRequirements",
    "description"]

theorem mem_propertyNames_control {catalogID name : String}
    {control : Control}
    (hname : name ∈ (controlProperties catalogID control).map Prod.fst) :
    name ∈ propertyNames := by
  revert hname
  unfold controlProperties
  split
  · simp +contextual [propertyNames, or_imp]
  · simp +contextual [propertyNames, or_imp]

section

variable {entity : EntityRecord}
  (hparsed : parseArtifact loader.decoders artifactType data logIndex =
    .ok parsed) (hmem : entity ∈ parsed.entities)

include hparsed hmem

theorem mem_propertyNames {name : String}
    (hname : name ∈ entity.properties.map Prod.fst) :
    name ∈ propertyNames := by
  have hdescribed : ∀ title description group : String,
      name ∈ (describedProperties title description group).map Prod.fst →
        name ∈ propertyNames := by
    intro title description group
    simp +contextual [describedProperties, propertyNames, or_imp]
  rcases parseArtifact_cases hparsed with
    ⟨catalog, rfl⟩ | ⟨catalog, rfl⟩ | ⟨catalog, rfl⟩ | rfl
  · obtain ⟨control, _, rfl⟩ := List.mem_map.mp hmem
    exact mem_propertyNames_control hname
  · obtain ⟨threat, _, rfl⟩ := List.mem_map.mp hmem
    exact hdescribed _ _ _ hname
  · obtain ⟨capability, _, rfl⟩ := List.mem_map.mp hmem
    exact hdescribed _ _ _ hname
  · cases hmem

theorem keepsKeys_of_parseArtifact :
    (Upsert.entity entity).KeepsKeys := by
  intro value hvalue
  obtain ⟨before, after, hproperties, -⟩ := List.lookup_eq_some_iff.mp hvalue
  have hid : "id" ∈ entity.properties.map Prod.fst := by simp [hproperties]
  exact absurd (mem_propertyNames hparsed hmem hid) (by decide)

end

theorem keepsKeys_stubEntity (id : String) (label : EntityLabel) :
    (Upsert.entity (stubEntity id label logIndex)).KeepsKeys := by
  intro value hvalue
  simp [stubEntity, List.lookup_cons] at hvalue

variable {inv : Materialized → Prop}

theorem entity_triple {record : EntityRecord}
    (hdefine : ∀ graph record, inv graph → inv (graph.define record))
    (hkeeps : (Upsert.entity record).KeepsKeys) :
    Triple (Stands inv) (within context (call (.entity record)))
      (fun _ => Stands inv) (Stands inv) := by
  apply call_triple hkeeps
  · exact fun graph => hdefine graph record
  · exact fun _ => id
  · exact fun _ => id

theorem processArtifact_triple
    (hdefine : ∀ graph record, inv graph → inv (graph.define record))
    (hrelate : ∀ graph record, inv graph → inv (graph.relate record)) :
    Triple (Stands inv) (processArtifact loader artifactType data logIndex)
      (fun _ => Stands inv) (Stands inv) := by
  apply result_bind _ fun _ => id
  intro parsed hparsed
  have hentities : Triple (Stands inv) (parsed.entities.forM processEntity)
      (fun _ => Stands inv) (Stands inv) := by
    apply Triple.forM
    intro entity hmem
    exact entity_triple hdefine (keepsKeys_of_parseArtifact hparsed hmem)
  apply Triple.bind hentities
  intro _
  apply Triple.forM
  intro edge _
  apply Triple.bind
    (entity_triple hdefine (keepsKeys_stubEntity edge.fromID edge.fromLabel))
  intro _
  apply Triple.bind
    (entity_triple hdefine (keepsKeys_stubEntity edge.toID edge.toLabel))
  intro _
  apply call_triple
  · trivial
  · exact fun graph => hrelate graph edge
  · exact fun _ => id
  · exact fun _ => id

end Artifacts

/-! ## Sealed events -/

section Sealed

variable {loader : Loader} {surroundings : Surroundings} {book : Book}
  {data : EvidenceSealedData}

theorem exec_resolvePublisher (lookup : Except GoError ℕ)
    (world : World EvidenceGraph GoError) :
    exec (resolvePublisher lookup data) world =
      match findPublisherByDigest lookup data.subjectID data.contentDigest
          world.store with
      | .ok identity => (.ok (orPlaceholder (.ok identity)), world)
      | .error (.error err) => (.ok (orPlaceholder (.error err)), world)
      | .error (.panic text) => (.error (.panic text), world) := by
  unfold resolvePublisher
  rw [exec_bind, exec_attempt, exec_read]
  rcases findPublisherByDigest lookup data.subjectID data.contentDigest
    world.store with (_ | _) | _ <;> rfl

theorem resolvePublisher_triple (lookup : Except GoError ℕ)
    {failed : EvidenceGraph → Prop} :
    Triple
      (Stands fun graph => Represents book graph ∧
        graph.Holds (.subject data.subjectID))
      (resolvePublisher lookup data)
      (fun publisher => Stands fun graph =>
        Resolves book.stubs data lookup publisher ∧ Represents book graph ∧
          graph.Holds (.subject data.subjectID))
      failed := by
  rintro world ⟨graph, hrefines, hrepresents, hholds⟩
  rw [exec_resolvePublisher]
  cases lookup with
  | error err => exact ⟨graph, hrefines, .failed err, hrepresents, hholds⟩
  | ok pick =>
    obtain ⟨found, hfound, hstubs⟩ :=
      findPublisherByDigest_ok hrefines hrepresents pick
    rw [hfound]
    refine ⟨graph, hrefines, ?_, hrepresents, hholds⟩
    rcases hstubs with ⟨rfl, hnone⟩ | hstub
    · exact .unknown pick hnone
    · exact .found pick found hstub

theorem handleSealed_triple (time : Time)
    (data : Except GoError EvidenceSealedData) :
    Triple (Stands (Represents book))
      (handleSealed loader surroundings time data)
      (fun _ => Stands (Entered loader surroundings book (.sealed time data)))
      (Stands fun graph => Represents book graph ∨
        Entered loader surroundings book (.sealed time data) graph) := by
  apply result_bind _ (Stands.mono fun _ => Or.inl)
  rintro data rfl
  apply Triple.compute_bind _ (Stands.mono fun _ => Or.inl)
  intro receiptBytes hfetch
  apply result_bind _ (Stands.mono fun _ => Or.inl)
  intro unwrapped hunwrap
  have hreceipt : readReceipt loader surroundings data.storageRef =
      some unwrapped := by
    simp [readReceipt, hfetch, hunwrap, Except.toOption]
  apply Triple.bind (subject_triple (fun _ => Or.inl) data.subjectID)
  intro _
  apply Triple.bind (resolvePublisher_triple surroundings.lookup)
  intro publisher
  apply triple_of_known
  intro hresolves
  apply Triple.bind (publisher_triple (fun _ => Or.inl) publisher)
  intro _
  have hevidence : Triple
      (Stands fun graph => Represents book graph ∧
        graph.Holds (.subject data.subjectID) ∧
        graph.Holds (.publisher publisher))
      (within "upserting evidence" (call (.evidence (evidenceRecord data
        (inferArtifactType loader.library unwrapped.content) publisher
        (sealedTime surroundings time)))))
      (fun _ => Stands
        (Entered loader surroundings book (.sealed time (.ok data))))
      (Stands fun graph => Represents book graph ∨
        Entered loader surroundings book (.sealed time (.ok data)) graph) := by
    apply call_triple
    · trivial
    · rintro graph ⟨hrepresents, hholds, hholds'⟩
      exact ⟨_, ⟨unwrapped, publisher, hreceipt, hresolves, rfl⟩,
        hrepresents.sealEvidence hholds hholds'⟩
    · exact fun _ hmiddle => .inl hmiddle.1
    · exact fun _ => Or.inr
  apply Triple.bind hevidence
  intro _
  apply Triple.mapError
  have hprocess : Triple
      (Stands (Entered loader surroundings book (.sealed time (.ok data))))
      (processArtifact loader
        (inferArtifactType loader.library unwrapped.content) unwrapped.content
        data.logIndex)
      (fun _ => Stands
        (Entered loader surroundings book (.sealed time (.ok data))))
      (Stands
        (Entered loader surroundings book (.sealed time (.ok data)))) := by
    apply processArtifact_triple
    · rintro graph record ⟨next, hentry, hrepresents⟩
      exact ⟨next, hentry, hrepresents.define record⟩
    · rintro graph record ⟨next, hentry, hrepresents⟩
      exact ⟨next, hentry, hrepresents.relate record⟩
  exact hprocess.weaken (fun _ => id) (fun _ _ => id)
    (Stands.mono fun _ => Or.inr)

end Sealed

/-! ## All events -/

/-- However handling an event ends, the book has grown by at most its entry,
and by exactly that when the handler returns nil. -/
theorem handler_triple {loader : Loader} {surroundings : Surroundings}
    {book : Book} {event : Event} {handler : LoaderProgram Unit}
    (hhandler : handlerOf loader surroundings event = some handler) :
    Triple (Stands (Represents book)) handler
      (fun _ => Stands (Entered loader surroundings book event))
      (Stands fun graph => Represents book graph ∨
        Entered loader surroundings book event graph) := by
  cases event with
  | ingested data =>
    obtain rfl := Option.some.inj hhandler
    exact handleIngested_triple data
  | sealed time data =>
    obtain rfl := Option.some.inj hhandler
    exact handleSealed_triple time data
  | subjectRegistered data =>
    obtain rfl := Option.some.inj hhandler
    exact handleSubjectRegistered_triple data
  | other type => cases hhandler

end ComplyTime.Graph
