import ComplyTime.Graph.Writer

/-!
# Coverage and threat models

The two queries that assemble a result from the entities a subject's evidence
defines.  They name no order, so the store may return the rows of a query in
any, and Go iterates over a map in any order: a call has a set of possible
answers.  A row holds the properties the query returns, and a property of an
unexpected type panics in the type assertion.
-/

namespace ComplyTime.Graph

open Cypher RemoteStore

/-! ## Values -/

/-- `toString`: the empty string for everything but a string. -/
def toStringOrEmpty : Option PropertyValue → String
  | some (.text content) => content
  | _ => ""

def PropertyValue.isText : PropertyValue → Bool
  | .text _ => true
  | _ => false

theorem isText_iff {value : PropertyValue} :
    value.isText = true ↔ ∃ name, value = .text name := by
  cases value <;> simp [PropertyValue.isText]

instance (value : PropertyValue) : Decidable (∃ name, value = .text name) :=
  decidable_of_iff _ isText_iff

instance (value : Option PropertyValue) :
    Decidable (∃ name, value = some (.text name)) :=
  decidable_of_iff (value.any PropertyValue.isText = true) (by
    cases value <;> simp [isText_iff])

theorem eq_text_of_assertString {value : Option PropertyValue} {id : String}
    (hassert : (assertString value).toOption = some id) :
    value = some (.text id) := by
  unfold assertString at hassert
  split at hassert
  · rw [Option.some.inj hassert]
  · cases hassert

/-- `toStringSlice`: nothing for everything but a list of strings. -/
def toStringSlice : Option PropertyValue → List String
  | some (.texts contents) => contents
  | _ => []

/-- `values[key] = value` for one key after the other, as the entries of the
map. -/
def mapOf {Value : Type} (assignments : List (String × Value)) :
    List (String × Value) :=
  assignments.foldl
    (fun entries assignment =>
      entries.filter (fun entry => entry.1 ≠ assignment.1) ++ [assignment]) []

section Entries

variable {Value : Type} {assignments : List (String × Value)}

theorem mapOf_append_singleton (assignments : List (String × Value))
    (assignment : String × Value) :
    mapOf (assignments ++ [assignment]) =
      (mapOf assignments).filter (fun entry => entry.1 ≠ assignment.1) ++
        [assignment] := by
  rw [mapOf, List.foldl_append]
  rfl

theorem mem_of_mem_mapOf {entry : String × Value}
    (hentry : entry ∈ mapOf assignments) : entry ∈ assignments := by
  induction assignments using List.reverseRecOn with
  | nil => exact hentry
  | append_singleton assignments assignment ih =>
    rw [mapOf_append_singleton] at hentry
    rcases List.mem_append.mp hentry with hold | hnew
    · exact List.mem_append_left _ (ih (List.mem_filter.mp hold).1)
    · exact List.mem_append_right _ hnew

theorem nodup_keys_mapOf (assignments : List (String × Value)) :
    ((mapOf assignments).map Prod.fst).Nodup := by
  induction assignments using List.reverseRecOn with
  | nil => exact List.nodup_nil
  | append_singleton assignments last ih =>
    rw [mapOf_append_singleton, List.map_append, List.map_singleton,
      List.nodup_append]
    refine ⟨ih.sublist (List.filter_sublist.map _), List.nodup_singleton _, ?_⟩
    intro key hkey other hother
    obtain ⟨entry, hentry, rfl⟩ := List.mem_map.mp hkey
    rw [List.mem_singleton.mp hother]
    exact of_decide_eq_true (List.mem_filter.mp hentry).2

theorem exists_mem_mapOf {assignment : String × Value}
    (hmem : assignment ∈ assignments) :
    ∃ entry ∈ mapOf assignments, entry.1 = assignment.1 := by
  induction assignments using List.reverseRecOn with
  | nil => exact absurd hmem List.not_mem_nil
  | append_singleton assignments last ih =>
    rw [mapOf_append_singleton]
    by_cases hlast : assignment.1 = last.1
    · exact ⟨last, List.mem_append_right _ (List.mem_singleton_self _),
        hlast.symm⟩
    · have hold : assignment ∈ assignments := by
        rcases List.mem_append.mp hmem with hold | hnew
        · exact hold
        · exact absurd (congrArg Prod.fst (List.mem_singleton.mp hnew)) hlast
      obtain ⟨entry, hentry, hkey⟩ := ih hold
      refine ⟨entry, List.mem_append_left _ (List.mem_filter.mpr
        ⟨hentry, decide_eq_true ?_⟩), hkey⟩
      rwa [hkey]

theorem mapOf_of_nodup (hkeys : (assignments.map Prod.fst).Nodup) :
    mapOf assignments = assignments := by
  induction assignments using List.reverseRecOn with
  | nil => rfl
  | append_singleton assignments last ih =>
    rw [List.map_append, List.map_singleton, List.nodup_append] at hkeys
    rw [mapOf_append_singleton, ih hkeys.1, List.filter_eq_self.mpr]
    intro entry hentry
    exact decide_eq_true (hkeys.2.2 entry.1 (List.mem_map_of_mem hentry)
      last.1 (List.mem_singleton_self _))

theorem lookup_eq_some_iff_mem {entries : List (String × Value)}
    (hkeys : (entries.map Prod.fst).Nodup) {key : String} {value : Value} :
    entries.lookup key = some value ↔ (key, value) ∈ entries := by
  induction entries with
  | nil => simp
  | cons entry entries ih =>
    obtain ⟨other, found⟩ := entry
    rw [List.map_cons, List.nodup_cons] at hkeys
    by_cases hkey : key = other
    · subst hkey
      have hnot : (key, value) ∉ entries := by
        intro hmem
        exact hkeys.1 (List.mem_map.mpr ⟨_, hmem, rfl⟩)
      simp [hnot, eq_comm]
    · rw [List.lookup_cons, beq_eq_false_iff_ne.mpr hkey]
      simp [ih hkeys.2, hkey]

end Entries

/-! ## Rows -/

/-- The evidence of a subject and the entities with a label it defines:
`(s:Subject {id: $subjectID})<-[:TARGETS]-(e:Evidence)-[:DEFINES]->(n:Label)`. -/
def definedNodes (graph : EvidenceGraph) (subjectID : String)
    (label : EntityLabel) : List (ℕ × ℕ) :=
  (graph.query
    |>.matchNode (NodeKey.subject subjectID).pattern
    |>.matchIncoming (fun (_, subject) => subject) .targets (anyOf .evidence)
    |>.matchOutgoing (fun (_, evidence) => evidence) .defines
      (anyOf (.entity label))).rows.map
    fun ((_, evidence), entity) => (evidence, entity)

/-- The same, with `MATCH (e)-[:PUBLISHED_BY]->(p:Publisher)`. -/
def publishedNodes (graph : EvidenceGraph) (subjectID : String)
    (label : EntityLabel) : List ((ℕ × ℕ) × ℕ) :=
  (definedNodes graph subjectID label).flatMap fun (evidence, entity) =>
    (graph.outgoing evidence .publishedBy (anyOf .publisher)).map
      fun publisher => ((evidence, entity), publisher)

/-- `(e)-[:DEFINES]->(f:EvaluationFinding)-[:EVALUATES]->(c:Control)`. -/
def evaluatedNodes (graph : EvidenceGraph) (subjectID : String) :
    List (ℕ × ℕ) :=
  (definedNodes graph subjectID .evaluationFinding).flatMap
    fun (evidence, finding) =>
      (graph.outgoing finding (.edge .evaluates)
        (anyOf (.entity .control))).map fun control => (evidence, control)

/-- Nodes with the labels that are related. -/
def relatedNodes (graph : EvidenceGraph) (source : EntityLabel)
    (type : EdgeType) (target : EntityLabel) : List (ℕ × ℕ) :=
  (graph.query
    |>.matchNode (anyOf (.entity source))
    |>.matchOutgoing (fun (_, near) => near) (.edge type)
      (anyOf (.entity target))).rows.map fun ((_, near), far) => (near, far)

/-- Whether a node has one of the IDs, as in `WHERE n.id IN $ids`. -/
def idAmong (graph : EvidenceGraph) (ids : List String) (index : ℕ) : Bool :=
  ids.any fun id => decide (property graph index "id" = some (.text id))

def inCatalog (graph : EvidenceGraph) (catalogID : String) (index : ℕ) :
    Bool :=
  decide (property graph index "catalogID" = some (.text catalogID))

/-! ## `Coverage` -/

inductive CoverageStatus
  | covered
  | uncovered
  deriving DecidableEq, Repr

structure CoverageControl where
  id : String
  title : String
  status : CoverageStatus
  latestEvidence : Option Time
  deriving DecidableEq, Repr

structure CoverageResult where
  subjectID : String
  catalog : String
  catalogType : String
  covered : ℕ
  total : ℕ
  controls : List CoverageControl
  deriving DecidableEq, Repr

/-- The ID and the title of every control of the catalog. -/
def coverageControls (graph : EvidenceGraph) (subjectID catalogID : String) :
    List (Option PropertyValue × Option PropertyValue) :=
  ((definedNodes graph subjectID .control).filter fun (_, control) =>
    inCatalog graph catalogID control).map fun (_, control) =>
      (property graph control "id", property graph control "title")

/-- The evaluations of the controls of the catalog: the ID of the control, and
when the evidence was sealed. -/
def evaluations (graph : EvidenceGraph) (subjectID catalogID : String) :
    List (Option PropertyValue × Option Time) :=
  ((evaluatedNodes graph subjectID).filter fun (_, control) =>
    inCatalog graph catalogID control).map fun (evidence, control) =>
      (property graph control "id", timeProperty graph evidence "sealed")

/-- `c.id, max(e.sealed)`: one row for each ID, and `max` skips what is
missing. -/
def latestEvidence (rows : List (Option PropertyValue × Option Time)) :
    List (Option PropertyValue × Option Time) :=
  (rows.map Prod.fst).dedup.map fun id =>
    (id, ((rows.filter fun row => row.1 = id).filterMap Prod.snd).max?)

/-- The entries of `coveredMap`. -/
def coveredMap (rows : List (Option PropertyValue × Option Time)) :
    Outcome (List (String × Time)) := do
  let assignments ← rows.filterMapM fun (id, latest) =>
    match latest with
    | none => .ok none
    | some time => do
      let id ← assertString id
      return some (id, time)
  return mapOf assignments

/-- What `Coverage` makes of the rows of its two queries. -/
def coverageResult (subjectID catalogID : String)
    (controls : List (Option PropertyValue × Option PropertyValue))
    (latest : List (Option PropertyValue × Option Time)) :
    Outcome CoverageResult := do
  let controls ← controls.mapM fun (id, title) => do
    let id ← assertString id
    return (id, toStringOrEmpty title)
  let covered ← coveredMap latest
  return {
    subjectID := subjectID
    catalog := catalogID
    catalogType := "ControlCatalog"
    covered := covered.length
    total := controls.length
    controls := controls.map fun (id, title) =>
      match covered.lookup id with
      | some time => ⟨id, title, .covered, some time⟩
      | none => ⟨id, title, .uncovered, none⟩ }

/-- The possible answers of `Coverage`. -/
def Coverage (graph : EvidenceGraph) (subjectID catalogID : String)
    (answer : Outcome CoverageResult) : Prop :=
  ∃ controls latest,
    controls.Perm (coverageControls graph subjectID catalogID) ∧
    latest.Perm (latestEvidence (evaluations graph subjectID catalogID)) ∧
    coverageResult subjectID catalogID controls latest = answer

/-! ## `ThreatModel` -/

structure EvidenceSource where
  logIndex : Int64
  digest : String
  sealed : Time
  publisher : PublisherIdentity
  deriving DecidableEq, Repr

structure ThreatModelCapability where
  id : String
  title : String
  description : String
  introduces : List String
  source : EvidenceSource
  deriving DecidableEq, Repr

structure ThreatModelThreat where
  id : String
  title : String
  description : String
  addressedBy : List String
  leverages : List String
  source : EvidenceSource
  deriving DecidableEq, Repr

structure ThreatModelControl where
  id : String
  title : String
  objective : String
  assessmentRequirements : List String
  applies : List String
  source : EvidenceSource
  deriving DecidableEq, Repr

structure ThreatModelVector where
  id : String
  title : String
  description : String
  deriving DecidableEq, Repr

structure ThreatModelResult where
  subjectID : String
  capabilities : List ThreatModelCapability
  threats : List ThreatModelThreat
  controls : List ThreatModelControl
  vectors : List ThreatModelVector
  deriving DecidableEq, Repr

/-- The properties of an entity, of the evidence that defines it and of its
publisher that a row may hold. -/
structure SourceRow where
  id : Option PropertyValue
  title : Option PropertyValue
  description : Option PropertyValue
  objective : Option PropertyValue
  assessmentRequirements : Option PropertyValue
  logIndex : Option PropertyValue
  digest : Option PropertyValue
  sealed : Option PropertyValue
  issuer : Option PropertyValue
  sub : Option PropertyValue
  deriving DecidableEq, Repr

/-- The row a match returns. -/
def sourceRow (graph : EvidenceGraph) (nodes : (ℕ × ℕ) × ℕ) : SourceRow where
  id := property graph nodes.1.2 "id"
  title := property graph nodes.1.2 "title"
  description := property graph nodes.1.2 "description"
  objective := property graph nodes.1.2 "objective"
  assessmentRequirements := property graph nodes.1.2 "assessmentRequirements"
  logIndex := property graph nodes.1.1 "logIndex"
  digest := property graph nodes.1.1 "digest"
  sealed := property graph nodes.1.1 "sealed"
  issuer := property graph nodes.2 "issuer"
  sub := property graph nodes.2 "sub"

def sourceRows (graph : EvidenceGraph) (subjectID : String)
    (label : EntityLabel) : List SourceRow :=
  (publishedNodes graph subjectID label).map (sourceRow graph)

def evidenceSource (row : SourceRow) : Outcome EvidenceSource := do
  let logIndex ← assertInt64 row.logIndex
  let digest ← assertString row.digest
  let issuer ← assertString row.issuer
  let sub ← assertString row.sub
  return ⟨logIndex, digest, toTime row.sealed, ⟨issuer, sub⟩⟩

def capabilityOf (row : SourceRow) : Outcome ThreatModelCapability := do
  let id ← assertString row.id
  let source ← evidenceSource row
  return ⟨id, toStringOrEmpty row.title, toStringOrEmpty row.description, [],
    source⟩

def threatOf (row : SourceRow) : Outcome ThreatModelThreat := do
  let id ← assertString row.id
  let source ← evidenceSource row
  return ⟨id, toStringOrEmpty row.title, toStringOrEmpty row.description, [],
    [], source⟩

def controlOf (row : SourceRow) : Outcome ThreatModelControl := do
  let id ← assertString row.id
  let source ← evidenceSource row
  return ⟨id, toStringOrEmpty row.title, toStringOrEmpty row.objective,
    toStringSlice row.assessmentRequirements, [], source⟩

/-- The IDs at both ends of a relationship, first that of the entity whose list
is extended. -/
abbrev LinkRow := Option PropertyValue × Option PropertyValue

/-- The targets of relationships out of nodes with the given IDs. -/
def outgoingRows (graph : EvidenceGraph) (source : EntityLabel)
    (type : EdgeType) (target : EntityLabel) (ids : List String) :
    List LinkRow :=
  ((relatedNodes graph source type target).filter fun (near, _) =>
    idAmong graph ids near).map fun (near, far) =>
      (property graph near "id", property graph far "id")

/-- The sources of relationships into nodes with the given IDs. -/
def incomingRows (graph : EvidenceGraph) (source : EntityLabel)
    (type : EdgeType) (target : EntityLabel) (ids : List String) :
    List LinkRow :=
  ((relatedNodes graph source type target).filter fun (_, far) =>
    idAmong graph ids far).map fun (near, far) =>
      (property graph far "id", property graph near "id")

def linkOf (row : LinkRow) : Outcome (String × String) := do
  let id ← assertString row.1
  let other ← assertString row.2
  return (id, other)

/-- The IDs appended to the list of an entity. -/
def linkedTo (links : List (String × String)) (id : String) : List String :=
  (links.filter fun link => link.1 = id).map Prod.snd

/-- The rows the store has returned to one call. -/
structure ThreatModelRows where
  capabilities : List SourceRow
  introduces : List LinkRow
  threats : List SourceRow
  addresses : List LinkRow
  leverages : List LinkRow
  controls : List SourceRow
  applies : List LinkRow
  vectors : List (Option PropertyValue × Option PropertyValue ×
    Option PropertyValue)

/-- The IDs of the rows, the keys of the map they are collected in. -/
def idsOf (rows : List SourceRow) : List String :=
  rows.filterMap fun row => (assertString row.id).toOption

def vectorRows (graph : EvidenceGraph) (subjectID : String) :
    List (Option PropertyValue × Option PropertyValue ×
      Option PropertyValue) :=
  (definedNodes graph subjectID .vector).map fun (_, vector) =>
    (property graph vector "id", property graph vector "title",
      property graph vector "description")

/-- The rows are those of the queries, each in any order. -/
structure ThreatModelRows.Returned (graph : EvidenceGraph)
    (subjectID : String) (rows : ThreatModelRows) : Prop where
  capabilities : rows.capabilities.Perm
    (sourceRows graph subjectID .capability)
  introduces : rows.introduces.Perm
    (outgoingRows graph .capability .introduces .threat
      (idsOf rows.capabilities))
  threats : rows.threats.Perm (sourceRows graph subjectID .threat)
  addresses : rows.addresses.Perm
    (incomingRows graph .control .addresses .threat (idsOf rows.threats))
  leverages : rows.leverages.Perm
    (outgoingRows graph .threat .leverages .capability (idsOf rows.threats))
  controls : rows.controls.Perm (sourceRows graph subjectID .control)
  applies : rows.applies.Perm
    (outgoingRows graph .control .applies .guidance (idsOf rows.controls))
  vectors : rows.vectors.Perm (vectorRows graph subjectID)

/-- What `ThreatModel` makes of the rows, the maps in the order of their last
assignments. -/
def threatModelResult (subjectID : String) (rows : ThreatModelRows) :
    Outcome ThreatModelResult := do
  let capabilities ← rows.capabilities.mapM capabilityOf
  let introduces ← rows.introduces.mapM linkOf
  let threats ← rows.threats.mapM threatOf
  let addresses ← rows.addresses.mapM linkOf
  let leverages ← rows.leverages.mapM linkOf
  let controls ← rows.controls.mapM controlOf
  let applies ← rows.applies.mapM linkOf
  let vectors ← rows.vectors.mapM fun (id, title, description) => do
    let id ← assertString id
    return ThreatModelVector.mk id (toStringOrEmpty title)
      (toStringOrEmpty description)
  return {
    subjectID := subjectID
    capabilities := (mapOf (capabilities.map fun capability =>
      (capability.id, capability))).map fun (id, capability) =>
        { capability with introduces := linkedTo introduces id }
    threats := (mapOf (threats.map fun threat => (threat.id, threat))).map
      fun (id, threat) => { threat with
        addressedBy := linkedTo addresses id
        leverages := linkedTo leverages id }
    controls := (mapOf (controls.map fun control =>
      (control.id, control))).map fun (id, control) =>
        { control with applies := linkedTo applies id }
    vectors := vectors }

/-- The same result with the maps iterated in another order. -/
structure ThreatModelResult.Reordered (left right : ThreatModelResult) :
    Prop where
  subjectID : left.subjectID = right.subjectID
  capabilities : left.capabilities.Perm right.capabilities
  threats : left.threats.Perm right.threats
  controls : left.controls.Perm right.controls
  vectors : left.vectors = right.vectors

/-- The possible answers of `ThreatModel`. -/
def ThreatModel (graph : EvidenceGraph) (subjectID : String) :
    Outcome ThreatModelResult → Prop
  | .ok result => ∃ rows : ThreatModelRows, rows.Returned graph subjectID ∧
      ∃ assembled, threatModelResult subjectID rows = .ok assembled ∧
        result.Reordered assembled
  | .error failure => ∃ rows : ThreatModelRows,
      rows.Returned graph subjectID ∧
        threatModelResult subjectID rows = .error failure

/-! ## Replies -/

/-- What a handler of the query API writes: the body of a reply with status
200, or the status and the message `respondError` sends. -/
abbrev Served (Body : Type) := Except (Failure Response) Body

/-- `respondError(w, http.StatusInternalServerError, err.Error())`; a panic ends
the request without a reply. -/
def serverError : Failure GoError → Failure Response
  | .error err => .error ⟨500, err.error⟩
  | .panic text => .panic text

end ComplyTime.Graph
