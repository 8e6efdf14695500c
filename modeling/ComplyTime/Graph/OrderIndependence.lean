import ComplyTime.Core.WriteOrder
import ComplyTime.Graph.LoaderRuns
import ComplyTime.Graph.Writes

/-!
# Artifacts in any order

Artifacts reach the loader in any order, more than once, and a run may stop at
any write.  When every entity is defined by one artifact only, and once in it,
no two writes disagree about a property: the stub of a reference assigns a
property that no catalog defines.  The graph afterwards is then the same for
all runs in which each artifact has once been processed to its end.
-/

namespace ComplyTime.Graph

open Cypher Keyed Merging RemoteStore

/-- An artifact the loader can parse, with the log index of its evidence. -/
structure Artifact (loader : Loader) where
  artifactType : String
  data : Bytes
  logIndex : Int64
  parsed : ParsedArtifact
  parses : parseArtifact loader.decoders artifactType data logIndex = .ok parsed

def Artifact.upserts {loader : Loader} (artifact : Artifact loader) :
    List Upsert :=
  artifact.parsed.upserts artifact.logIndex

/-- One run of `processArtifact`, and how the store answers its writes. -/
structure Attempt (loader : Loader) where
  artifact : Artifact loader
  replies : List (Reply GoError)

section Attempts

variable {loader : Loader}

def Attempt.exec (attempt : Attempt loader) (graph : EvidenceGraph) :
    Except (Failure GoError) Unit × World EvidenceGraph GoError :=
  RemoteStore.exec (processArtifact loader attempt.artifact.artifactType
    attempt.artifact.data attempt.artifact.logIndex) ⟨graph, attempt.replies⟩

def Attempt.after (attempt : Attempt loader) (graph : EvidenceGraph) :
    EvidenceGraph :=
  (attempt.exec graph).2.store

/-- The graph after one attempt after the other. -/
def processAll (attempts : List (Attempt loader)) (graph : EvidenceGraph) :
    EvidenceGraph :=
  attempts.foldl (fun current attempt => attempt.after current) graph

/-- Some attempt at the artifact has run to its end. -/
def Completed (artifact : Artifact loader) :
    List (Attempt loader) → EvidenceGraph → Prop
  | [], _ => False
  | attempt :: attempts, graph =>
    (attempt.artifact = artifact ∧ (attempt.exec graph).1 = .ok ()) ∨
      Completed artifact attempts (attempt.after graph)

/-- The attempts process these artifacts, each of them once to its end. -/
structure Processes (artifacts : List (Artifact loader))
    (attempts : List (Attempt loader)) (graph : EvidenceGraph) : Prop where
  only : ∀ attempt ∈ attempts, attempt.artifact ∈ artifacts
  completed : ∀ artifact ∈ artifacts, Completed artifact attempts graph

/-- Each entity is defined by at most one artifact, and once in it. -/
def DefinedOnce (artifacts : List (Artifact loader)) : Prop :=
  ((artifacts.flatMap fun artifact => artifact.parsed.entities).map
    fun entity => (entity.label, entity.id)).Nodup

/-! ## What the attempts write -/

variable {artifacts : List (Artifact loader)} {attempt : Attempt loader}
  {attempts : List (Attempt loader)} {graph : EvidenceGraph}

/-- The upserts one attempt has made, in order. -/
structure Performed (attempt : Attempt loader) (graph : EvidenceGraph)
    (upserts : List Upsert) : Prop where
  after : attempt.after graph = applyUpserts upserts graph
  only : ∀ upsert ∈ upserts, upsert ∈ attempt.artifact.upserts
  all : (attempt.exec graph).1 = .ok () →
    ∀ upsert ∈ attempt.artifact.upserts, upsert ∈ upserts
  ready : Has (contentOf graph) (.evidence attempt.artifact.logIndex) →
    ReadyAll schema (writesOf upserts) (contentOf graph)

/-- An attempt makes the first upserts of its artifact, and all of them when it
runs to its end. -/
theorem exists_performed (attempt : Attempt loader) (graph : EvidenceGraph) :
    ∃ upserts, Performed attempt graph upserts := by
  obtain ⟨performed, left, hsplit, hstore, hok⟩ :=
    (processArtifact_performs attempt.artifact.parses).stops
      ⟨graph, attempt.replies⟩
  obtain ⟨made, missing, hupserts, rfl, rfl⟩ := List.map_eq_append_iff.mp hsplit
  have hmade : attempt.artifact.upserts = made ++ missing := hupserts
  refine ⟨made, hstore, ?_, ?_, ?_⟩
  · intro upsert hmem
    rw [hmade]
    exact List.mem_append_left missing hmem
  · intro hended upsert hmem
    obtain rfl := List.map_eq_nil_iff.mp (hok hended)
    rwa [hmade, List.append_nil] at hmem
  · intro hevidence
    have hready : ReadyAll schema (writesOf attempt.artifact.upserts)
        (contentOf graph) :=
      readyAll_upserts attempt.artifact.parses hevidence
    rw [hmade, writesOf_append, readyAll_append] at hready
    exact hready.1

/-- The upserts some attempts have made, in order. -/
structure Explains (artifacts : List (Artifact loader))
    (attempts : List (Attempt loader)) (graph : EvidenceGraph)
    (upserts : List Upsert) : Prop where
  after : processAll attempts graph = applyUpserts upserts graph
  only : ∀ upsert ∈ upserts, ∃ artifact ∈ artifacts, upsert ∈ artifact.upserts
  all : ∀ artifact, Completed artifact attempts graph →
    ∀ upsert ∈ artifact.upserts, upsert ∈ upserts
  ready : ReadyAll schema (writesOf upserts) (contentOf graph)

variable {upserts : List Upsert} {artifact : Artifact loader}

section

variable (honly : ∀ upsert ∈ upserts, ∃ artifact : Artifact loader,
    upsert ∈ artifact.upserts)

include honly

/-- Upserts of artifacts, on any graph. -/
theorem contentOf_made :
    contentOf (applyUpserts upserts graph) =
      run schema (writesOf upserts) (contentOf graph) := by
  apply contentOf_applyUpserts
  · intro upsert hmem
    obtain ⟨artifact, hupsert⟩ := honly upsert hmem
    exact keepsKeys_upserts artifact.parses hupsert
  · apply foundAll_of_forall
    intro upsert hmem content
    obtain ⟨artifact, hupsert⟩ := honly upsert hmem
    exact found_of_mem_upserts hupsert

theorem keepsKeys_made {write : GraphWrite} (hmem : write ∈ writesOf upserts) :
    write.KeepsKeys schema := by
  apply keepsKeys_writesOf _ hmem
  intro upsert hupsert
  obtain ⟨artifact, hartifact⟩ := honly upsert hupsert
  exact keepsKeys_upserts artifact.parses hartifact

end

/-- Where the evidence of the artifacts is, some list of upserts explains the
attempts. -/
theorem exists_explains (hevidence : ∀ artifact ∈ artifacts,
      Has (contentOf graph) (.evidence artifact.logIndex))
    (honly : ∀ attempt ∈ attempts, attempt.artifact ∈ artifacts) :
    ∃ upserts, Explains artifacts attempts graph upserts := by
  induction attempts generalizing graph with
  | nil =>
    exact ⟨[], rfl, by simp, fun _ hcompleted => hcompleted.elim, trivial⟩
  | cons attempt attempts ih =>
    have hartifact := honly attempt List.mem_cons_self
    obtain ⟨first, hfirst⟩ := exists_performed attempt graph
    have hmade : ∀ upsert ∈ first, ∃ artifact : Artifact loader,
        upsert ∈ artifact.upserts :=
      fun upsert hmem => ⟨attempt.artifact, hfirst.only upsert hmem⟩
    have hcontent : contentOf (attempt.after graph) =
        run schema (writesOf first) (contentOf graph) := by
      rw [hfirst.after]
      exact contentOf_made hmade
    have hstill : ∀ artifact ∈ artifacts,
        Has (contentOf (attempt.after graph))
          (.evidence artifact.logIndex) := by
      intro artifact hmem
      rw [hcontent]
      exact (hevidence artifact hmem).run fun write => keepsKeys_made hmade
    obtain ⟨later, hlater⟩ :=
      ih hstill (List.forall_mem_of_forall_mem_cons honly)
    refine ⟨first ++ later, ?_, ?_, ?_, ?_⟩
    · calc processAll attempts (attempt.after graph)
          = applyUpserts later (attempt.after graph) := hlater.after
        _ = applyUpserts (first ++ later) graph := by
            rw [applyUpserts_append, hfirst.after]
    · intro upsert hmem
      rcases List.mem_append.mp hmem with hmem | hmem
      · exact ⟨attempt.artifact, hartifact, hfirst.only upsert hmem⟩
      · exact hlater.only upsert hmem
    · intro artifact hcompleted upsert hmem
      rcases hcompleted with ⟨rfl, hended⟩ | hcompleted
      · exact List.mem_append_left later (hfirst.all hended upsert hmem)
      · exact List.mem_append_right first
          (hlater.all artifact hcompleted upsert hmem)
    · rw [writesOf_append, readyAll_append, ← hcontent]
      exact ⟨hfirst.ready (hevidence attempt.artifact hartifact), hlater.ready⟩

/-! ## Writes that agree -/

/-- The node writes of an artifact: its entities and the stubs of its
references. -/
theorem node_of_mem_writesOf {key : NodeKey}
    {assignments : List (String × PropertyValue)}
    (hmem : Write.node key assignments ∈ writesOf artifact.upserts) :
    (∃ entity ∈ artifact.parsed.entities,
      key = .entity entity.label entity.id ∧ assignments = entity.properties) ∨
    assignments = [("stub", .flag true)] := by
  obtain ⟨upsert, hupsert, hwrite⟩ := List.mem_flatMap.mp hmem
  rcases mem_upserts.mp hupsert with ⟨entity, hentity, rfl⟩ | ⟨edge, _, hedge⟩
  · left
    simp only [Upsert.writes, List.mem_cons, Write.node.injEq, reduceCtorEq,
      List.not_mem_nil, or_false] at hwrite
    exact ⟨entity, hentity, hwrite⟩
  · right
    simp only [edgeUpserts, List.mem_cons, List.not_mem_nil, or_false] at hedge
    rcases hedge with rfl | rfl | rfl
    · simp only [Upsert.writes, List.mem_cons, Write.node.injEq, reduceCtorEq,
        List.not_mem_nil, or_false] at hwrite
      exact hwrite.2
    · simp only [Upsert.writes, List.mem_cons, Write.node.injEq, reduceCtorEq,
        List.not_mem_nil, or_false] at hwrite
      exact hwrite.2
    · simp [Upsert.writes] at hwrite

theorem lookup_stub {entity : EntityRecord}
    (hentity : entity ∈ artifact.parsed.entities) :
    entity.properties.lookup "stub" = none := by
  rw [List.lookup_eq_none_iff]
  intro property hproperty
  rw [bne_iff_ne]
  intro hname
  have hmem := mem_propertyNames artifact.parses hentity
    (List.mem_map_of_mem hproperty)
  rw [← hname] at hmem
  exact absurd hmem (by decide)

theorem lookup_stub_eq_some {name : String} {value : PropertyValue}
    (hlookup : [("stub", PropertyValue.flag true)].lookup name = some value) :
    name = "stub" ∧ value = .flag true := by
  by_cases hname : name = "stub"
  · subst hname
    exact ⟨rfl, (Option.some.inj hlookup).symm⟩
  · have hnone : [("stub", PropertyValue.flag true)].lookup name = none := by
      simp [List.lookup_cons, beq_false_of_ne hname]
    rw [hnone] at hlookup
    cases hlookup

/-- Entities that are defined once leave no room for disagreement. -/
theorem consistent_of_definedOnce (honce : DefinedOnce artifacts)
    (honly : ∀ upsert ∈ upserts, ∃ artifact ∈ artifacts,
      upsert ∈ artifact.upserts) :
    Consistent (writesOf upserts) := by
  have horigin : ∀ {write : GraphWrite}, write ∈ writesOf upserts →
      ∃ artifact ∈ artifacts, write ∈ writesOf artifact.upserts := by
    intro write hmem
    obtain ⟨upsert, hupsert, hwrite⟩ := List.mem_flatMap.mp hmem
    obtain ⟨artifact, hartifact, hmade⟩ := honly upsert hupsert
    exact ⟨artifact, hartifact, List.mem_flatMap.mpr ⟨upsert, hmade, hwrite⟩⟩
  intro key first second name value other hfirst hsecond hvalue hother
  obtain ⟨artifact, hartifact, hmade⟩ := horigin hfirst
  obtain ⟨artifact', hartifact', hmade'⟩ := horigin hsecond
  rcases node_of_mem_writesOf hmade with ⟨entity, hentity, rfl, rfl⟩ | rfl
  · rcases node_of_mem_writesOf hmade' with
      ⟨entity', hentity', hkey, rfl⟩ | rfl
    · obtain ⟨hlabel, hid⟩ := NodeKey.entity.inj hkey
      have hsame : entity = entity' := by
        apply List.inj_on_of_nodup_map honce
        · exact List.mem_flatMap.mpr ⟨artifact, hartifact, hentity⟩
        · exact List.mem_flatMap.mpr ⟨artifact', hartifact', hentity'⟩
        · exact Prod.ext hlabel hid
      rw [hsame, hother] at hvalue
      exact (Option.some.inj hvalue).symm
    · obtain ⟨rfl, _⟩ := lookup_stub_eq_some hother
      rw [lookup_stub hentity] at hvalue
      cases hvalue
  · obtain ⟨rfl, hflag⟩ := lookup_stub_eq_some hvalue
    rcases node_of_mem_writesOf hmade' with ⟨entity, hentity, _, rfl⟩ | rfl
    · rw [lookup_stub hentity] at hother
      cases hother
    · exact hflag.trans (lookup_stub_eq_some hother).2.symm

/-! ## Any order, any number of attempts -/

/-- Whatever the order of the attempts, however often an artifact is processed
and wherever its runs have stopped: once each artifact has been processed to
its end, the graph holds the same nodes of every key with the same properties,
related in the same way. -/
theorem materialization_order_independent
    {first second : List (Attempt loader)}
    (hevidence : ∀ artifact ∈ artifacts,
      Has (contentOf graph) (.evidence artifact.logIndex))
    (honce : DefinedOnce artifacts)
    (hfirst : Processes artifacts first graph)
    (hsecond : Processes artifacts second graph) :
    Alike schema (contentOf (processAll first graph))
      (contentOf (processAll second graph)) := by
  obtain ⟨upserts, hexplains⟩ := exists_explains hevidence hfirst.only
  obtain ⟨upserts', hexplains'⟩ := exists_explains hevidence hsecond.only
  have honly : ∀ upsert ∈ upserts, ∃ artifact : Artifact loader,
      upsert ∈ artifact.upserts := by
    intro upsert hmem
    obtain ⟨artifact, _, hupsert⟩ := hexplains.only upsert hmem
    exact ⟨artifact, hupsert⟩
  have honly' : ∀ upsert ∈ upserts', ∃ artifact : Artifact loader,
      upsert ∈ artifact.upserts := by
    intro upsert hmem
    obtain ⟨artifact, _, hupsert⟩ := hexplains'.only upsert hmem
    exact ⟨artifact, hupsert⟩
  rw [hexplains.after, hexplains'.after, contentOf_made honly,
    contentOf_made honly']
  apply alike_run
  · -- Both have made every upsert of every artifact, and no other.
    intro write
    simp only [writesOf, List.mem_flatMap]
    constructor
    · rintro ⟨upsert, hmem, hwrite⟩
      obtain ⟨artifact, hartifact, hupsert⟩ := hexplains.only upsert hmem
      exact ⟨upsert, hexplains'.all artifact
        (hsecond.completed artifact hartifact) upsert hupsert, hwrite⟩
    · rintro ⟨upsert, hmem, hwrite⟩
      obtain ⟨artifact, hartifact, hupsert⟩ := hexplains'.only upsert hmem
      exact ⟨upsert, hexplains.all artifact
        (hfirst.completed artifact hartifact) upsert hupsert, hwrite⟩
  · exact fun write => keepsKeys_made honly
  · exact consistent_of_definedOnce honce hexplains.only
  · exact hexplains.ready
  · exact hexplains'.ready

end Attempts

/-! ## Two catalogs -/

def sampleControls : ControlCatalog where
  metadataID := "controls"
  controls := [⟨"C1", "Encryption", "Traffic is encrypted", "network",
    ["TLS is required"], [["T1"]]⟩]

def sampleThreats : ThreatCatalog where
  metadataID := "threats"
  threats := [⟨"T1", "Sniffing", "Traffic is read", "network", [["CAP1"]], []⟩]

def sampleLoader : Loader :=
  { plainLoader with
    decoders := {
      plainLoader.decoders with
      controlCatalog := fun _ => .ok sampleControls
      threatCatalog := fun _ => .ok sampleThreats } }

def controlArtifact : Artifact sampleLoader where
  artifactType := "ControlCatalog"
  data := []
  logIndex := 0
  parsed := parseControlCatalog sampleControls 0
  parses := rfl

def threatArtifact : Artifact sampleLoader where
  artifactType := "ThreatCatalog"
  data := []
  logIndex := 1
  parsed := parseThreatCatalog sampleThreats 1
  parses := rfl

/-- The evidence of both catalogs. -/
def sampleEvidence : EvidenceGraph :=
  applyUpserts [.subject "alpha", .publisher "issuer" "sub",
    .evidence ⟨0, "a", "", "ControlCatalog", "sealed", "alpha", "issuer",
      "sub", 1⟩,
    .evidence ⟨1, "b", "", "ThreatCatalog", "sealed", "alpha", "issuer",
      "sub", 2⟩] Graph.empty

def inOrder : List (Attempt sampleLoader) :=
  [⟨controlArtifact, []⟩, ⟨threatArtifact, []⟩]

/-- The threats first, after a run whose second write is lost; the controls
after a run that is refused at once; then the threats again. -/
def retried : List (Attempt sampleLoader) :=
  [⟨threatArtifact, [.performed, .lost (.message "reset")]⟩,
    ⟨threatArtifact, []⟩, ⟨controlArtifact, [.refused (.message "down")]⟩,
    ⟨controlArtifact, []⟩, ⟨threatArtifact, []⟩]

theorem retried_catalogs_alike :
    Alike schema (contentOf (processAll inOrder sampleEvidence))
      (contentOf (processAll retried sampleEvidence)) := by
  have honce : DefinedOnce [controlArtifact, threatArtifact] := by
    unfold DefinedOnce
    decide
  have hfirst : Processes [controlArtifact, threatArtifact] inOrder
      sampleEvidence := by
    constructor
    · simp [inOrder]
    · simp only [List.mem_cons, List.not_mem_nil, or_false, forall_eq_or_imp,
        forall_eq]
      exact ⟨.inl ⟨rfl, rfl⟩, .inr (.inl ⟨rfl, rfl⟩)⟩
  have hsecond : Processes [controlArtifact, threatArtifact] retried
      sampleEvidence := by
    constructor
    · simp [retried]
    · simp only [List.mem_cons, List.not_mem_nil, or_false, forall_eq_or_imp,
        forall_eq]
      exact ⟨.inr (.inr (.inr (.inl ⟨rfl, rfl⟩))), .inr (.inl ⟨rfl, rfl⟩)⟩
  apply materialization_order_independent _ honce hfirst hsecond
  simp only [List.mem_cons, List.not_mem_nil, or_false, forall_eq_or_imp,
    forall_eq, Has]
  decide +kernel

end ComplyTime.Graph
