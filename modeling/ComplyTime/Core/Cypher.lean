import Mathlib.Data.List.Nodup
import Mathlib.Data.Nat.Notation
import Mathlib.Tactic.Common

/-!
# Cypher clauses over a property graph

A property graph holds labelled nodes with properties and typed relationships
between them.  A query is a pipeline of clauses over a table of rows, each row
binding its variables to nodes: `MATCH` extends every row by the nodes a
pattern selects, `MERGE` does the same after creating what is missing, `SET`
changes properties, and a clause has finished with every row before the next
one begins.  Nodes are named by their position, since nothing is ever deleted.
-/

namespace ComplyTime.Cypher

variable {Label Name Value Relation Row : Type*}

structure Node (Label Name Value : Type*) where
  label : Label
  properties : Name → Option Value

structure Relationship (Relation : Type*) where
  source : ℕ
  relation : Relation
  target : ℕ
  deriving DecidableEq

/-- No relationship occurs twice, and its ends are nodes of the graph. -/
structure Graph (Label Name Value Relation : Type*) where
  nodes : List (Node Label Name Value)
  relationships : List (Relationship Relation)
  distinct : relationships.Nodup
  closed : ∀ relationship ∈ relationships,
    relationship.source < nodes.length ∧ relationship.target < nodes.length

/-- `(variable:Label {name: value, ...})`. -/
structure NodePattern (Label Name Value : Type*) where
  label : Label
  properties : List (Name × Value)

def Graph.empty : Graph Label Name Value Relation where
  nodes := []
  relationships := []
  distinct := List.nodup_nil
  closed := by simp

section Properties

variable [DecidableEq Name]

/-- The properties after assignments to some of them. -/
def assign (assignments : List (Name × Value)) (properties : Name → Option Value)
    (name : Name) : Option Value :=
  (assignments.lookup name).or (properties name)

def Node.set (assignments : List (Name × Value))
    (node : Node Label Name Value) : Node Label Name Value where
  label := node.label
  properties := assign assignments node.properties

/-- What `MERGE` creates when it finds no match. -/
def NodePattern.node (pattern : NodePattern Label Name Value) :
    Node Label Name Value where
  label := pattern.label
  properties := assign pattern.properties fun _ => none

end Properties

variable {index : ℕ}

section Matching

variable [DecidableEq Label] [DecidableEq Value]

/-- Whether a node fits a pattern; an absent property fits nothing. -/
def NodePattern.fits (pattern : NodePattern Label Name Value)
    (node : Node Label Name Value) : Bool :=
  decide (node.label = pattern.label) &&
    pattern.properties.all fun property =>
      decide (node.properties property.1 = some property.2)

variable {pattern : NodePattern Label Name Value}

theorem fits_iff {node : Node Label Name Value} :
    pattern.fits node = true ↔ node.label = pattern.label ∧
      ∀ property ∈ pattern.properties,
        node.properties property.1 = some property.2 := by
  simp only [NodePattern.fits, Bool.and_eq_true, decide_eq_true_eq,
    List.all_eq_true]

variable (graph : Graph Label Name Value Relation)

/-- Whether the node at a position fits a pattern. -/
def Graph.fitsAt (pattern : NodePattern Label Name Value) (index : ℕ) : Bool :=
  (graph.nodes[index]?).any pattern.fits

/-- The nodes that fit a pattern. -/
def Graph.select (pattern : NodePattern Label Name Value) : List ℕ :=
  (List.range graph.nodes.length).filter (graph.fitsAt pattern)

@[simp]
theorem mem_select :
    index ∈ graph.select pattern ↔ graph.fitsAt pattern index = true := by
  rw [Graph.select, List.mem_filter, List.mem_range]
  constructor
  · exact fun hselected => hselected.2
  · intro hfits
    refine ⟨?_, hfits⟩
    by_contra hbeyond
    rw [Graph.fitsAt, List.getElem?_eq_none (Nat.le_of_not_lt hbeyond)] at hfits
    cases hfits

theorem nodup_select (pattern : NodePattern Label Name Value) :
    (graph.select pattern).Nodup :=
  List.nodup_range.filter _

/-- A condition on the nodes that fit a pattern can be checked. -/
instance (pattern : NodePattern Label Name Value) (condition : ℕ → Prop)
    [DecidablePred condition] :
    Decidable (∀ index, graph.fitsAt pattern index = true → condition index) :=
  decidable_of_iff (∀ index ∈ graph.select pattern, condition index)
    (by simp only [mem_select])

theorem lt_length_of_fitsAt (hfits : graph.fitsAt pattern index = true) :
    index < graph.nodes.length := by
  have hselected := (mem_select graph).mpr hfits
  exact List.mem_range.mp (List.mem_filter.mp hselected).1

/-- The nodes that fit a pattern at the far end of a relationship out of the
given node. -/
def Graph.outgoing [DecidableEq Relation] (index : ℕ) (relation : Relation)
    (pattern : NodePattern Label Name Value) : List ℕ :=
  (graph.relationships.filter fun relationship =>
    decide (relationship.source = index ∧ relationship.relation = relation) &&
      graph.fitsAt pattern relationship.target).map Relationship.target

/-- The nodes that fit a pattern at the far end of a relationship into the
given node. -/
def Graph.incoming [DecidableEq Relation] (index : ℕ) (relation : Relation)
    (pattern : NodePattern Label Name Value) : List ℕ :=
  (graph.relationships.filter fun relationship =>
    decide (relationship.target = index ∧ relationship.relation = relation) &&
      graph.fitsAt pattern relationship.source).map Relationship.source

variable [DecidableEq Relation] {graph} {far : ℕ} {relation : Relation}

@[simp]
theorem mem_outgoing :
    far ∈ graph.outgoing index relation pattern ↔
      ⟨index, relation, far⟩ ∈ graph.relationships ∧
        graph.fitsAt pattern far = true := by
  simp only [Graph.outgoing, List.mem_map, List.mem_filter, Bool.and_eq_true,
    decide_eq_true_eq]
  constructor
  · rintro ⟨⟨_, _, _⟩, ⟨hmem, ⟨rfl, rfl⟩, hfits⟩, rfl⟩
    exact ⟨hmem, hfits⟩
  · rintro ⟨hmem, hfits⟩
    exact ⟨_, ⟨hmem, ⟨rfl, rfl⟩, hfits⟩, rfl⟩

@[simp]
theorem mem_incoming :
    far ∈ graph.incoming index relation pattern ↔
      ⟨far, relation, index⟩ ∈ graph.relationships ∧
        graph.fitsAt pattern far = true := by
  simp only [Graph.incoming, List.mem_map, List.mem_filter, Bool.and_eq_true,
    decide_eq_true_eq]
  constructor
  · rintro ⟨⟨_, _, _⟩, ⟨hmem, ⟨rfl, rfl⟩, hfits⟩, rfl⟩
    exact ⟨hmem, hfits⟩
  · rintro ⟨hmem, hfits⟩
    exact ⟨_, ⟨hmem, ⟨rfl, rfl⟩, hfits⟩, rfl⟩

theorem nodup_outgoing : (graph.outgoing index relation pattern).Nodup := by
  apply (graph.distinct.filter _).map_on
  intro left hleft right hright htarget
  simp only [List.mem_filter, Bool.and_eq_true, decide_eq_true_eq]
    at hleft hright
  obtain ⟨_, ⟨hsource, hrelation⟩, _⟩ := hleft
  obtain ⟨_, ⟨hsource', hrelation'⟩, _⟩ := hright
  cases left
  cases right
  simp_all

theorem nodup_incoming : (graph.incoming index relation pattern).Nodup := by
  apply (graph.distinct.filter _).map_on
  intro left hleft right hright hsource
  simp only [List.mem_filter, Bool.and_eq_true, decide_eq_true_eq]
    at hleft hright
  obtain ⟨_, ⟨htarget, hrelation⟩, _⟩ := hleft
  obtain ⟨_, ⟨htarget', hrelation'⟩, _⟩ := hright
  cases left
  cases right
  simp_all

end Matching

/-! ## Updates -/

section Updates

variable (graph : Graph Label Name Value Relation)

/-- `CREATE` of a single node. -/
def Graph.create (node : Node Label Name Value) :
    Graph Label Name Value Relation where
  nodes := graph.nodes ++ [node]
  relationships := graph.relationships
  distinct := graph.distinct
  closed := by
    intro relationship hmem
    have hends := graph.closed relationship hmem
    simp only [List.length_append, List.length_singleton]
    omega

/-- `SET` on a single node. -/
def Graph.set [DecidableEq Name] (index : ℕ)
    (assignments : List (Name × Value)) : Graph Label Name Value Relation where
  nodes := graph.nodes.modify index (Node.set assignments)
  relationships := graph.relationships
  distinct := graph.distinct
  closed := by simpa using graph.closed

/-- `MERGE (source)-[:relation]->(target)` between bound nodes. -/
def Graph.connect [DecidableEq Relation] (source : ℕ) (relation : Relation)
    (target : ℕ) : Graph Label Name Value Relation :=
  if hends : source < graph.nodes.length ∧ target < graph.nodes.length then
    { nodes := graph.nodes
      relationships := graph.relationships.insert ⟨source, relation, target⟩
      distinct := graph.distinct.insert
      closed := by
        intro relationship hmem
        rcases List.mem_insert_iff.mp hmem with rfl | hold
        · exact hends
        · exact graph.closed relationship hold }
  else graph

/-- `MERGE` of a single node: the nodes that fit, or a new one. -/
def Graph.merge [DecidableEq Label] [DecidableEq Name] [DecidableEq Value]
    (pattern : NodePattern Label Name Value) :
    Graph Label Name Value Relation × List ℕ :=
  if graph.select pattern = [] then
    (graph.create pattern.node, [graph.nodes.length])
  else (graph, graph.select pattern)

@[simp]
theorem nodes_create (node : Node Label Name Value) :
    (graph.create node).nodes = graph.nodes ++ [node] := rfl

@[simp]
theorem relationships_create (node : Node Label Name Value) :
    (graph.create node).relationships = graph.relationships := rfl

@[simp]
theorem relationships_set [DecidableEq Name] (index : ℕ)
    (assignments : List (Name × Value)) :
    (graph.set index assignments).relationships = graph.relationships := rfl

theorem getElem?_nodes_set [DecidableEq Name] {index other : ℕ}
    {assignments : List (Name × Value)} :
    (graph.set index assignments).nodes[other]? =
      if index = other then graph.nodes[other]?.map (Node.set assignments)
      else graph.nodes[other]? := by
  rw [Graph.set, List.getElem?_modify]
  split <;> simp

@[simp]
theorem nodes_connect [DecidableEq Relation] (source target : ℕ)
    (relation : Relation) :
    (graph.connect source relation target).nodes = graph.nodes := by
  unfold Graph.connect
  split <;> rfl

theorem mem_relationships_connect [DecidableEq Relation] {source target : ℕ}
    {relation : Relation} (hsource : source < graph.nodes.length)
    (htarget : target < graph.nodes.length)
    {relationship : Relationship Relation} :
    relationship ∈ (graph.connect source relation target).relationships ↔
      relationship = ⟨source, relation, target⟩ ∨
        relationship ∈ graph.relationships := by
  rw [Graph.connect, dif_pos ⟨hsource, htarget⟩]
  exact List.mem_insert_iff

end Updates

/-! ## Clauses -/

/-- The graph and the rows a clause hands to the next one. -/
structure Table (Label Name Value Relation Row : Type*) where
  graph : Graph Label Name Value Relation
  rows : List Row

/-- A query begins with one row that binds nothing. -/
def Graph.query (graph : Graph Label Name Value Relation) :
    Table Label Name Value Relation Unit :=
  ⟨graph, [()]⟩

/-- Extend every row by each of the nodes found for it. -/
def Table.extend (table : Table Label Name Value Relation Row)
    (found : Row → List ℕ) : Table Label Name Value Relation (Row × ℕ) where
  graph := table.graph
  rows := table.rows.flatMap fun row =>
    (found row).map fun index => (row, index)

section Clauses

variable [DecidableEq Label] [DecidableEq Value]
variable (table : Table Label Name Value Relation Row)

/-- `MATCH (variable:Label {...})`. -/
def Table.matchNode (pattern : NodePattern Label Name Value) :
    Table Label Name Value Relation (Row × ℕ) :=
  table.extend fun _ => table.graph.select pattern

/-- `MERGE (variable:Label {...})`, row after row: a later row finds what an
earlier one has created. -/
def Table.mergeNode [DecidableEq Name]
    (pattern : NodePattern Label Name Value) :
    Table Label Name Value Relation (Row × ℕ) :=
  table.rows.foldl
    (fun merged row =>
      let (graph, found) := merged.graph.merge pattern
      ⟨graph, merged.rows ++ found.map fun index => (row, index)⟩)
    ⟨table.graph, []⟩

variable [DecidableEq Relation]

/-- `MATCH (bound)-[:relation]->(variable:Label {...})`. -/
def Table.matchOutgoing (bound : Row → ℕ) (relation : Relation)
    (pattern : NodePattern Label Name Value) :
    Table Label Name Value Relation (Row × ℕ) :=
  table.extend fun row => table.graph.outgoing (bound row) relation pattern

/-- `MATCH (bound)<-[:relation]-(variable:Label {...})`. -/
def Table.matchIncoming (bound : Row → ℕ) (relation : Relation)
    (pattern : NodePattern Label Name Value) :
    Table Label Name Value Relation (Row × ℕ) :=
  table.extend fun row => table.graph.incoming (bound row) relation pattern

end Clauses

/-- `SET variable += {...}`. -/
def Table.setProperties [DecidableEq Name]
    (table : Table Label Name Value Relation Row) (bound : Row → ℕ)
    (assignments : List (Name × Value)) :
    Table Label Name Value Relation Row where
  graph := table.rows.foldl
    (fun graph row => graph.set (bound row) assignments) table.graph
  rows := table.rows

/-- `MERGE (source)-[:relation]->(target)`. -/
def Table.mergeRelationship [DecidableEq Relation]
    (table : Table Label Name Value Relation Row) (source : Row → ℕ)
    (relation : Relation) (target : Row → ℕ) :
    Table Label Name Value Relation Row where
  graph := table.rows.foldl
    (fun graph row => graph.connect (source row) relation (target row))
    table.graph
  rows := table.rows

/-! ## Rows -/

section Rows

variable {table : Table Label Name Value Relation Row}

@[simp]
theorem mem_rows_extend {found : Row → List ℕ} {row : Row} :
    (row, index) ∈ (table.extend found).rows ↔
      row ∈ table.rows ∧ index ∈ found row := by
  simp only [Table.extend, List.mem_flatMap, List.mem_map, Prod.mk.injEq]
  constructor
  · rintro ⟨_, hrow, _, hindex, rfl, rfl⟩
    exact ⟨hrow, hindex⟩
  · rintro ⟨hrow, hindex⟩
    exact ⟨row, hrow, index, hindex, rfl, rfl⟩

theorem nodup_rows_extend {found : Row → List ℕ} (hrows : table.rows.Nodup)
    (hfound : ∀ row, (found row).Nodup) : (table.extend found).rows.Nodup := by
  rw [Table.extend, List.nodup_flatMap]
  constructor
  · intro row _
    apply (hfound row).map
    intro left right heq
    exact (Prod.mk.inj heq).2
  · apply hrows.imp
    intro left right hne row hleft hright
    obtain ⟨_, _, rfl⟩ := List.mem_map.mp hleft
    obtain ⟨_, _, heq⟩ := List.mem_map.mp hright
    exact hne (Prod.mk.inj heq).1.symm

/-- The rows of a path of two relationships, from any node of a pattern. -/
theorem nodup_path_rows {Result : Type*} [DecidableEq Label]
    [DecidableEq Value] [DecidableEq Relation]
    (graph : Graph Label Name Value Relation)
    {start middle last : NodePattern Label Name Value}
    {incoming outgoing : Relation} {make : ℕ → ℕ → ℕ → Result}
    (hmake : ∀ {first second third first' second' third' : ℕ},
      make first second third = make first' second' third' →
        first = first' ∧ second = second' ∧ third = third') :
    ((graph.query
      |>.matchNode start
      |>.matchIncoming (fun (_, found) => found) incoming middle
      |>.matchOutgoing (fun (_, found) => found) outgoing last).rows.map
        fun (((_, first), second), third) =>
          make first second third).Nodup := by
  apply List.Nodup.map
  · rintro ⟨⟨⟨_, _⟩, _⟩, _⟩ ⟨⟨⟨_, _⟩, _⟩, _⟩ heq
    obtain ⟨rfl, rfl, rfl⟩ := hmake heq
    rfl
  · apply nodup_rows_extend _ fun _ => nodup_outgoing
    apply nodup_rows_extend _ fun _ => nodup_incoming
    exact nodup_rows_extend (List.nodup_singleton _) fun _ => nodup_select _ _

end Rows

/-! ## Clauses on at most one row -/

section Clauses

variable [DecidableEq Label] [DecidableEq Name] [DecidableEq Value]
  [DecidableEq Relation]
variable (graph : Graph Label Name Value Relation) (row : Row)
  (pattern : NodePattern Label Name Value) (bound source target : Row → ℕ)
  (assignments : List (Name × Value)) (relation : Relation)

omit [DecidableEq Name] [DecidableEq Relation] in
@[simp]
theorem matchNode_one :
    (Table.mk graph [row]).matchNode pattern =
      ⟨graph, (graph.select pattern).map fun index => (row, index)⟩ := by
  simp [Table.matchNode, Table.extend]

omit [DecidableEq Name] [DecidableEq Relation] in
@[simp]
theorem matchNode_none :
    (Table.mk graph ([] : List Row)).matchNode pattern = ⟨graph, []⟩ := rfl

omit [DecidableEq Relation] in
@[simp]
theorem mergeNode_one :
    (Table.mk graph [row]).mergeNode pattern =
      ⟨(graph.merge pattern).1,
        (graph.merge pattern).2.map fun index => (row, index)⟩ := by
  simp [Table.mergeNode]

omit [DecidableEq Relation] in
@[simp]
theorem mergeNode_none :
    (Table.mk graph ([] : List Row)).mergeNode pattern = ⟨graph, []⟩ := rfl

omit [DecidableEq Label] [DecidableEq Value] [DecidableEq Relation] in
@[simp]
theorem setProperties_one :
    (Table.mk graph [row]).setProperties bound assignments =
      ⟨graph.set (bound row) assignments, [row]⟩ := rfl

omit [DecidableEq Label] [DecidableEq Value] [DecidableEq Relation] in
@[simp]
theorem setProperties_none :
    (Table.mk graph ([] : List Row)).setProperties bound assignments =
      ⟨graph, []⟩ := rfl

omit [DecidableEq Label] [DecidableEq Name] [DecidableEq Value] in
@[simp]
theorem mergeRelationship_one :
    (Table.mk graph [row]).mergeRelationship source relation target =
      ⟨graph.connect (source row) relation (target row), [row]⟩ := rfl

omit [DecidableEq Label] [DecidableEq Name] [DecidableEq Value] in
@[simp]
theorem mergeRelationship_none :
    (Table.mk graph ([] : List Row)).mergeRelationship source relation
      target = ⟨graph, []⟩ := rfl

end Clauses

end ComplyTime.Cypher
