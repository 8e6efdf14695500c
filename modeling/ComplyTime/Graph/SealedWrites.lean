import ComplyTime.Graph.Writes

/-!
# The writes of a sealed event

What a sealed event writes is planned by the receipt in the locker, the answer
of the publisher lookup and the time the evidence counts as sealed.  Handling
it performs this plan, up to the first write that fails.  On any graph the
evidence finds its subject and its publisher, and the artifact its evidence.
-/

namespace ComplyTime.Graph

open Cypher Keyed Merging RemoteStore

/-- The answer of the publisher lookup while the event is handled. -/
def lookupAnswer (surroundings : Surroundings) (data : EvidenceSealedData)
    (graph : EvidenceGraph) : Outcome PublisherIdentity :=
  findPublisherByDigest surroundings.lookup data.subjectID data.contentDigest
    (upsertSubject data.subjectID graph)

/-- The publisher the answer of the lookup stands for; a panic ends the
handling. -/
def resolved : Outcome PublisherIdentity → Option PublisherIdentity
  | .ok identity => some (orPlaceholder (.ok identity))
  | .error (.error err) => some (orPlaceholder (.error err))
  | .error (.panic _) => none

/-- The upserts of the artifact in a receipt; none if it cannot be parsed. -/
def artifactUpserts (loader : Loader) (content : Bytes) (logIndex : Int64) :
    List Upsert :=
  match parseArtifact loader.decoders
      (inferArtifactType loader.library content) content logIndex with
  | .error _ => []
  | .ok parsed => parsed.upserts logIndex

/-- The upserts once the publisher is known. -/
def evidenceUpserts (loader : Loader) (data : EvidenceSealedData)
    (content : Bytes) (sealed : Time) (publisher : PublisherIdentity) :
    List Upsert :=
  .publisher publisher.issuer publisher.sub ::
    .evidence (evidenceRecord data (inferArtifactType loader.library content)
      publisher sealed) ::
    artifactUpserts loader content data.logIndex

/-- The upserts of a sealed event with the given receipt, sealed time and
lookup answer. -/
def sealedUpserts (loader : Loader) (data : EvidenceSealedData)
    (receipt : Option Receipt.UnwrapResult) (sealed : Time)
    (answer : Outcome PublisherIdentity) : List Upsert :=
  match receipt with
  | none => []
  | some unwrapped =>
    .subject data.subjectID ::
      ((resolved answer).map
        (evidenceUpserts loader data unwrapped.content sealed)).getD []

/-! ## Handling follows the plan -/

section Handling

variable {loader : Loader} {surroundings : Surroundings} {time : Time}
  {data : EvidenceSealedData} {graph : EvidenceGraph}

theorem processArtifact_makes (content : Bytes) (logIndex : Int64) :
    Makes (processArtifact loader (inferArtifactType loader.library content)
        content logIndex)
      fun _ => (artifactUpserts loader content logIndex).map Upsert.apply := by
  rw [artifactUpserts]
  cases hparsed : parseArtifact loader.decoders
      (inferArtifactType loader.library content) content logIndex with
  | error err =>
    rw [processArtifact, hparsed]
    exact Makes.compute_error _ _ _
  | ok parsed => exact Makes.of_performs (processArtifact_performs hparsed)

/-- The calls once the publisher is known. -/
theorem evidence_makes (loader : Loader) (data : EvidenceSealedData)
    (content : Bytes) (sealed : Time) (publisher : PublisherIdentity) :
    Makes (do
      within "upserting publisher"
        (call (.publisher publisher.issuer publisher.sub))
      let artifactType := inferArtifactType loader.library content
      within "upserting evidence"
        (call (.evidence (evidenceRecord data artifactType publisher sealed)))
      within "processing artifact" (processArtifact loader artifactType content
        data.logIndex))
      fun _ => (evidenceUpserts loader data content sealed publisher).map
        Upsert.apply :=
  Makes.after (call_performs _ _) (Makes.after (call_performs _ _)
    ((processArtifact_makes content data.logIndex).mapError _))

/-- What the handler makes of the answer of the lookup. -/
def publisherAnswer (lookup : Except GoError ℕ) (data : EvidenceSealedData)
    (graph : EvidenceGraph) : Outcome PublisherIdentity :=
  match findPublisherByDigest lookup data.subjectID data.contentDigest
      graph with
  | .ok identity => .ok (orPlaceholder (.ok identity))
  | .error (.error err) => .ok (orPlaceholder (.error err))
  | .error (.panic text) => .error (.panic text)

theorem resolvePublisher_asks (lookup : Except GoError ℕ)
    (data : EvidenceSealedData) (world : World EvidenceGraph GoError) :
    exec (resolvePublisher lookup data) world =
      (publisherAnswer lookup data world.store, world) := by
  rw [exec_resolvePublisher, publisherAnswer]
  rcases findPublisherByDigest lookup data.subjectID data.contentDigest
    world.store with (_ | _) | _ <;> rfl

/-- The calls once the receipt is there. -/
theorem receipt_makes (content : Bytes) (sealed : Time) :
    Makes (do
      within "upserting subject" (call (.subject data.subjectID))
      let publisher ← resolvePublisher surroundings.lookup data
      within "upserting publisher"
        (call (.publisher publisher.issuer publisher.sub))
      let artifactType := inferArtifactType loader.library content
      within "upserting evidence"
        (call (.evidence (evidenceRecord data artifactType publisher sealed)))
      within "processing artifact" (processArtifact loader artifactType content
        data.logIndex))
      fun graph => (Upsert.subject data.subjectID ::
        ((resolved (lookupAnswer surroundings data graph)).map
          (evidenceUpserts loader data content sealed)).getD []).map
            Upsert.apply := by
  have hmakes := Makes.after
    (call_performs "upserting subject" (.subject data.subjectID))
    (Makes.ask (resolvePublisher_asks surroundings.lookup data)
      (evidence_makes loader data content sealed))
  convert hmakes using 2 with graph
  have happly : applyAll [(Upsert.subject data.subjectID).apply] graph =
      upsertSubject data.subjectID graph := rfl
  rw [List.map_cons, List.singleton_append, lookupAnswer, happly,
    publisherAnswer]
  rcases findPublisherByDigest surroundings.lookup data.subjectID
    data.contentDigest (upsertSubject data.subjectID graph) with
    (_ | _) | _ <;> rfl

/-- Handling a sealed event performs its upserts. -/
theorem handleSealed_makes :
    Makes (handleSealed loader surroundings time (.ok data)) fun graph =>
      (sealedUpserts loader data
        (readReceipt loader surroundings data.storageRef)
        (sealedTime surroundings time)
        (lookupAnswer surroundings data graph)).map Upsert.apply := by
  apply Makes.compute_ok
  rw [readReceipt]
  cases fetchArtifact loader surroundings data.storageRef with
  | error failure => exact Makes.compute_error _ _ _
  | ok receiptBytes =>
    apply Makes.compute_ok
    dsimp only
    cases Receipt.unwrapContent loader.library receiptBytes with
    | error err => exact Makes.compute_error _ _ _
    | ok unwrapped =>
      apply Makes.compute_ok
      exact receipt_makes unwrapped.content (sealedTime surroundings time)

/-! ## The writes are ready -/

variable {upsert : Upsert} {receipt : Option Receipt.UnwrapResult}
  {sealed : Time} {answer : Outcome PublisherIdentity}

theorem keepsKeys_artifactUpserts {content : Bytes} {logIndex : Int64}
    (hmem : upsert ∈ artifactUpserts loader content logIndex) :
    upsert.KeepsKeys := by
  rw [artifactUpserts] at hmem
  split at hmem
  · cases hmem
  · rename_i parsed hparsed
    exact keepsKeys_upserts hparsed hmem

/-- The subject, then the publisher, the evidence and its artifact. -/
theorem mem_sealedUpserts
    (hmem : upsert ∈ sealedUpserts loader data receipt sealed answer) :
    ∃ unwrapped, receipt = some unwrapped ∧
      (upsert = .subject data.subjectID ∨
        ∃ publisher, upsert = .publisher publisher.issuer publisher.sub ∨
          upsert = .evidence (evidenceRecord data (inferArtifactType
            loader.library unwrapped.content) publisher sealed) ∨
          upsert ∈ artifactUpserts loader unwrapped.content
            data.logIndex) := by
  cases receipt with
  | none => cases hmem
  | some unwrapped =>
    refine ⟨unwrapped, rfl, ?_⟩
    rcases List.mem_cons.mp hmem with hsubject | hmem
    · exact .inl hsubject
    · cases hresolved : resolved answer with
      | none =>
        rw [hresolved] at hmem
        cases hmem
      | some publisher =>
        rw [hresolved] at hmem
        simp only [Option.map_some, Option.getD_some, evidenceUpserts,
          List.mem_cons] at hmem
        exact .inr ⟨publisher, hmem⟩

theorem keepsKeys_sealedUpserts
    (hmem : upsert ∈ sealedUpserts loader data receipt sealed answer) :
    upsert.KeepsKeys := by
  obtain ⟨unwrapped, -, rfl | ⟨publisher, rfl | rfl | hartifact⟩⟩ :=
    mem_sealedUpserts hmem
  · trivial
  · trivial
  · trivial
  · exact keepsKeys_artifactUpserts hartifact

variable {content : GraphContent}

theorem ready_artifactUpserts {bytes : Bytes} {logIndex : Int64}
    (hevidence : Has content (.evidence logIndex)) :
    FoundAll (artifactUpserts loader bytes logIndex) content ∧
      ReadyAll schema (writesOf (artifactUpserts loader bytes logIndex))
        content := by
  rw [artifactUpserts]
  split
  · exact ⟨trivial, trivial⟩
  · rename_i parsed hparsed
    exact ⟨foundAll_of_forall fun _ hmem _ => found_of_mem_upserts hmem,
      readyAll_upserts hparsed hevidence⟩

/-- The evidence finds its subject and its publisher, and the artifact its
evidence. -/
theorem ready_evidenceUpserts (loader : Loader) (bytes : Bytes) (sealed : Time)
    (publisher : PublisherIdentity)
    (hsubject : Has content (.subject data.subjectID)) :
    FoundAll (evidenceUpserts loader data bytes sealed publisher) content ∧
      ReadyAll schema (writesOf (evidenceUpserts loader data bytes sealed
        publisher)) content := by
  let record := evidenceRecord data (inferArtifactType loader.library bytes)
    publisher sealed
  let published := (Write.node (.publisher publisher) []).apply schema content
  have hpublisher : Has published (.publisher publisher) :=
    has_node (keepsKey_nil _)
  have hsubject' : Has published (.subject data.subjectID) :=
    hsubject.apply (keepsKey_nil _)
  let merged := (Write.node (.evidence data.logIndex)
    record.properties).apply schema published
  have hevidence : Has merged (.evidence data.logIndex) :=
    has_node (keepsKey_evidence record)
  have hsubject'' : Has merged (.subject data.subjectID) :=
    hsubject'.apply (keepsKey_evidence record)
  have hpublisher' : Has merged (.publisher publisher) :=
    hpublisher.apply (keepsKey_evidence record)
  have hartifact : FoundAll (artifactUpserts loader bytes data.logIndex)
        (run schema (Upsert.evidence record).writes published) ∧
      ReadyAll schema (writesOf (artifactUpserts loader bytes data.logIndex))
        (run schema (Upsert.evidence record).writes published) :=
    ready_artifactUpserts hevidence
  exact ⟨⟨trivial, ⟨hsubject', hpublisher⟩, hartifact.1⟩, trivial, trivial,
    ⟨hevidence, hsubject''⟩, ⟨hevidence, hpublisher'⟩, hartifact.2⟩

theorem ready_sealedUpserts :
    FoundAll (sealedUpserts loader data receipt sealed answer) content ∧
      ReadyAll schema (writesOf (sealedUpserts loader data receipt sealed
        answer)) content := by
  cases receipt with
  | none => exact ⟨trivial, trivial⟩
  | some unwrapped =>
    have hsubject : Has (run schema (Upsert.subject data.subjectID).writes
        content) (.subject data.subjectID) := has_node (keepsKey_nil _)
    rw [sealedUpserts]
    cases resolved answer with
    | none => exact ⟨⟨trivial, trivial⟩, trivial, trivial⟩
    | some publisher =>
      have hready := ready_evidenceUpserts loader unwrapped.content sealed
        publisher hsubject
      exact ⟨⟨trivial, hready.1⟩, trivial, hready.2⟩

theorem contentOf_sealedUpserts :
    contentOf (applyUpserts (sealedUpserts loader data receipt sealed answer)
        graph) =
      run schema (writesOf (sealedUpserts loader data receipt sealed answer))
        (contentOf graph) :=
  contentOf_applyUpserts (fun _ => keepsKeys_sealedUpserts)
    ready_sealedUpserts.1

end Handling

end ComplyTime.Graph
