import ComplyTime.Core.MergeWrites

/-!
# Queries made of merge clauses

A query binds nodes row by row, and its clauses fold over the rows.  When the
rows bind all nodes of a key, `SET` and `MERGE` amount to the writes on that
key, whatever the order of the rows.
-/

namespace ComplyTime.Merging

open Cypher Keyed

variable {Key Label Name Value Relation Row : Type*}
variable [DecidableEq Label] [DecidableEq Name] [DecidableEq Value]
variable {schema : Schema Key Label Name Value}
  {graph : Graph Label Name Value Relation} {key : Key} {index : ℕ}

theorem mem_positions_contentOf :
    index ∈ (contentOf graph).positions schema key ↔
      schema.At graph key index := by
  rw [Content.positions, List.mem_findIdxs_iff_exists_getElem_pos, at_iff]
  constructor
  · rintro ⟨hlt, hfits⟩
    exact ⟨graph.nodes[index], List.getElem?_eq_getElem hlt, hfits⟩
  · rintro ⟨node, hnode, hfits⟩
    obtain ⟨hlt, rfl⟩ := List.getElem?_eq_some_iff.mp hnode
    exact ⟨hlt, hfits⟩

theorem positions_contentOf_eq_nil_iff :
    (contentOf graph).positions schema key = [] ↔
      graph.select (schema.pattern key) = [] := by
  rw [List.eq_nil_iff_forall_not_mem, List.eq_nil_iff_forall_not_mem]
  simp only [mem_positions_contentOf, mem_select]
  rfl

/-! ## Merging a node -/

theorem nodes_merge :
    (graph.merge (schema.pattern key)).1.nodes =
      (contentOf graph).merged schema key := by
  rw [Graph.merge, Content.merged]
  by_cases habsent : graph.select (schema.pattern key) = []
  · rw [if_pos habsent, if_pos (positions_contentOf_eq_nil_iff.mpr habsent)]
    rfl
  · rw [if_neg habsent,
      if_neg (mt positions_contentOf_eq_nil_iff.mp habsent)]
    rfl

theorem relationships_merge (pattern : NodePattern Label Name Value) :
    (graph.merge pattern).1.relationships = graph.relationships := by
  rw [Graph.merge]
  split
  · rfl
  · rfl

theorem mem_merge :
    index ∈ (graph.merge (schema.pattern key)).2 ↔
      schema.At (graph.merge (schema.pattern key)).1 key index := by
  rw [Graph.merge]
  by_cases habsent : graph.select (schema.pattern key) = []
  · rw [if_pos habsent, at_create, List.mem_singleton]
    have hnone : ¬ schema.At graph key index := by
      intro hat
      have hmem := (mem_select graph).mpr hat
      rw [habsent] at hmem
      cases hmem
    simp [hnone]
  · rw [if_neg habsent]
    exact mem_select graph

/-- Rows that find a node leave the graph alone. -/
theorem foldl_mergeNode {pattern : NodePattern Label Name Value}
    (hpresent : graph.select pattern ≠ []) (rows : List Row)
    (found : List (Row × ℕ)) :
    rows.foldl
      (fun merged row =>
        Table.mk (merged.graph.merge pattern).1
          (merged.rows ++
            (merged.graph.merge pattern).2.map fun index => (row, index)))
      (Table.mk graph found) =
        Table.mk graph (found ++ rows.flatMap fun row =>
          (graph.select pattern).map fun index => (row, index)) := by
  have hmerge : graph.merge pattern = (graph, graph.select pattern) :=
    if_neg hpresent
  induction rows generalizing found with
  | nil => simp
  | cons row rows ih =>
    simp only [List.foldl_cons, hmerge, ih, List.flatMap_cons,
      List.append_assoc]

theorem select_merge_ne_nil :
    (graph.merge (schema.pattern key)).1.select (schema.pattern key) ≠ [] := by
  rw [Graph.merge]
  split
  · apply List.ne_nil_of_mem
    rw [mem_select]
    exact at_create.mpr (.inr ⟨rfl, rfl⟩)
  · assumption

/-- The first row creates the node if need be, the others find it. -/
theorem mergeNode_cons (row : Row) (rows : List Row) :
    (Table.mk graph (row :: rows)).mergeNode (schema.pattern key) =
      Table.mk (graph.merge (schema.pattern key)).1
        ((graph.merge (schema.pattern key)).2.map (fun index =>
          (row, index)) ++ rows.flatMap fun later =>
            ((graph.merge (schema.pattern key)).1.select
              (schema.pattern key)).map fun index => (later, index)) :=
  foldl_mergeNode select_merge_ne_nil rows _

variable {rows : List Row} {assignments : List (Name × Value)}

theorem graph_mergeNode (hrows : rows ≠ []) :
    ((Table.mk graph rows).mergeNode (schema.pattern key)).graph =
      (graph.merge (schema.pattern key)).1 := by
  cases rows with
  | nil => exact absurd rfl hrows
  | cons row rows => rw [mergeNode_cons]

/-- `MERGE` binds, for each of the rows, the nodes that fit once it is done. -/
theorem mem_rows_mergeNode {row : Row} :
    (row, index) ∈
        ((Table.mk graph rows).mergeNode (schema.pattern key)).rows ↔
      row ∈ rows ∧
        schema.At (graph.merge (schema.pattern key)).1 key index := by
  cases rows with
  | nil => simp
  | cons first rows =>
    rw [mergeNode_cons]
    simp only [List.mem_append, List.mem_map, mem_merge, Prod.mk.injEq,
      List.mem_flatMap, mem_select, List.mem_cons]
    constructor
    · rintro (⟨_, hat, rfl, rfl⟩ | ⟨_, hmem, _, hat, rfl, rfl⟩)
      · exact ⟨.inl rfl, hat⟩
      · exact ⟨.inr hmem, hat⟩
    · rintro ⟨rfl | hmem, hat⟩
      · exact .inl ⟨index, hat, rfl, rfl⟩
      · exact .inr ⟨row, hmem, index, hat, rfl, rfl⟩

/-! ## Clauses over bound rows -/

/-- The rows bind all nodes of the key, and no others. -/
def Binds (schema : Schema Key Label Name Value)
    (table : Table Label Name Value Relation Row) (bound : Row → ℕ)
    (key : Key) : Prop :=
  ∀ index, (∃ row ∈ table.rows, bound row = index) ↔
    schema.At table.graph key index

/-- The rows bind all pairs of nodes of the two keys, and no others. -/
def BindsBoth (schema : Schema Key Label Name Value)
    (table : Table Label Name Value Relation Row) (first second : Row → ℕ)
    (key other : Key) : Prop :=
  ∀ near far, (∃ row ∈ table.rows, first row = near ∧ second row = far) ↔
    schema.At table.graph key near ∧ schema.At table.graph other far

variable {table : Table Label Name Value Relation Row} {bound : Row → ℕ}

theorem mem_rows_matchNode {row : Row} :
    (row, index) ∈ (table.matchNode (schema.pattern key)).rows ↔
      row ∈ table.rows ∧ schema.At table.graph key index := by
  rw [Table.matchNode, mem_rows_extend, mem_select]
  rfl

omit [DecidableEq Label] [DecidableEq Value] in
theorem set_set (assignments : List (Name × Value))
    (node : Node Label Name Value) :
    (node.set assignments).set assignments = node.set assignments := by
  apply Node.ext
  · rfl
  · funext name
    change (assignments.lookup name).or
      ((assignments.lookup name).or (node.properties name)) =
        (assignments.lookup name).or (node.properties name)
    rw [← Option.or_assoc, Option.or_self]

omit [DecidableEq Label] [DecidableEq Value] in
theorem getElem?_foldl_set (rows : List Row) (index : ℕ) :
    (rows.foldl (fun changed row => changed.set (bound row) assignments)
      graph).nodes[index]? =
      if index ∈ rows.map bound then
        graph.nodes[index]?.map (Node.set assignments)
      else graph.nodes[index]? := by
  induction rows generalizing graph with
  | nil => simp
  | cons row rows ih =>
    rw [List.foldl_cons, ih, getElem?_nodes_set, List.map_cons]
    by_cases hrow : bound row = index
    · rw [if_pos hrow, if_pos (List.mem_cons.mpr (.inl hrow.symm)),
        Option.map_map]
      have htwice : (Node.set assignments ∘ Node.set assignments :
          Node Label Name Value → Node Label Name Value) =
            Node.set assignments := by
        funext node
        exact set_set assignments node
      rw [htwice, ite_self]
    · have hmem : index ∈ bound row :: rows.map bound ↔
          index ∈ rows.map bound := by
        rw [List.mem_cons, or_iff_right fun heq => hrow heq.symm]
      rw [if_neg hrow, if_congr hmem rfl rfl]

omit [DecidableEq Label] [DecidableEq Value] in
theorem relationships_foldl_set (rows : List Row) :
    (rows.foldl (fun changed row => changed.set (bound row) assignments)
      graph).relationships = graph.relationships := by
  induction rows generalizing graph with
  | nil => rfl
  | cons row rows ih =>
    rw [List.foldl_cons, ih]
    rfl

theorem contentOf_setProperties (hbinds : Binds schema table bound key) :
    contentOf (table.setProperties bound assignments).graph =
      (contentOf table.graph).mapNodes (assignTo schema key assignments) := by
  apply Content.ext
  · apply List.ext_getElem?
    intro index
    have hbound : index ∈ table.rows.map bound ↔
        schema.At table.graph key index := by
      rw [← hbinds index, List.mem_map]
    have hset : (contentOf (table.setProperties bound
        assignments).graph).nodes[index]? =
          if index ∈ table.rows.map bound then
            table.graph.nodes[index]?.map (Node.set assignments)
          else table.graph.nodes[index]? :=
      getElem?_foldl_set table.rows index
    rw [hset]
    change _ = (table.graph.nodes.map (assignTo schema key
      assignments))[index]?
    rw [List.getElem?_map]
    cases hnode : table.graph.nodes[index]? with
    | none => simp
    | some node =>
      have hfits : schema.At table.graph key index ↔
          (schema.pattern key).fits node = true := by
        rw [at_iff, hnode]
        simp
      rw [Option.map_some, Option.map_some, assignTo, apply_ite some]
      exact if_congr (hbound.trans hfits) rfl rfl
  · funext near relation far
    apply propext
    change _ ∈ (table.rows.foldl (fun changed row =>
      changed.set (bound row) assignments) table.graph).relationships ↔ _
    rw [relationships_foldl_set]
    rfl

theorem contentOf_merge :
    (contentOf (graph.merge (schema.pattern key)).1).mapNodes
        (assignTo schema key assignments) =
      (Write.node key assignments).apply schema (contentOf graph) := by
  apply Content.ext
  · exact congrArg (List.map (assignTo schema key assignments)) nodes_merge
  · funext near relation far
    apply propext
    change _ ∈ (graph.merge (schema.pattern key)).1.relationships ↔ _
    rw [relationships_merge]
    rfl

theorem mem_positions_node (hkeeps : schema.KeepsKey key assignments) :
    index ∈ ((Write.node key assignments).apply schema
        (contentOf graph)).positions schema key ↔
      schema.At (graph.merge (schema.pattern key)).1 key index := by
  have hfits : (schema.pattern key).fits ∘ assignTo schema key assignments =
      (schema.pattern key).fits := by
    funext node
    exact fits_assignTo hkeeps
  rw [← contentOf_merge, ← mem_positions_contentOf, Content.positions,
    Content.mapNodes, List.findIdxs_map, hfits]
  rfl

theorem contentOf_mergeNode_set (hrows : rows ≠ []) :
    contentOf (((Table.mk graph rows).mergeNode (schema.pattern
        key)).setProperties Prod.snd assignments).graph =
      (Write.node key assignments).apply schema (contentOf graph) := by
  have hbinds : Binds schema ((Table.mk graph rows).mergeNode
      (schema.pattern key)) Prod.snd key := by
    intro index
    rw [graph_mergeNode hrows]
    constructor
    · rintro ⟨⟨row, found⟩, hrow, rfl⟩
      exact (mem_rows_mergeNode.mp hrow).2
    · intro hat
      obtain ⟨row, hrow⟩ := List.exists_mem_of_ne_nil rows hrows
      exact ⟨(row, index), mem_rows_mergeNode.mpr ⟨hrow, hat⟩, rfl⟩
  rw [contentOf_setProperties hbinds, graph_mergeNode hrows, contentOf_merge]

theorem contentOf_mergeNode (hrows : rows ≠ []) :
    contentOf ((Table.mk graph rows).mergeNode (schema.pattern key)).graph =
      (Write.node key []).apply schema (contentOf graph) := by
  have hassign : assignTo schema key ([] : List (Name × Value)) = id := by
    funext node
    rw [assignTo]
    split
    · rfl
    · rfl
  rw [graph_mergeNode hrows, ← contentOf_merge, hassign, Content.mapNodes_id]

variable [DecidableEq Relation]

omit [DecidableEq Label] [DecidableEq Name] [DecidableEq Value] in
theorem nodes_foldl_connect (rows : List Row) (first second : Row → ℕ)
    (relation : Relation) :
    (rows.foldl (fun joined row =>
      joined.connect (first row) relation (second row)) graph).nodes =
        graph.nodes := by
  induction rows generalizing graph with
  | nil => rfl
  | cons row rows ih => rw [List.foldl_cons, ih, nodes_connect]

omit [DecidableEq Label] [DecidableEq Name] [DecidableEq Value] in
theorem mem_foldl_connect {first second : Row → ℕ} {relation : Relation}
    {relationship : Relationship Relation}
    (hbound : ∀ row ∈ rows, first row < graph.nodes.length ∧
      second row < graph.nodes.length) :
    relationship ∈ (rows.foldl (fun joined row =>
        joined.connect (first row) relation (second row))
          graph).relationships ↔
      relationship ∈ graph.relationships ∨
        ∃ row ∈ rows, relationship = ⟨first row, relation, second row⟩ := by
  induction rows generalizing graph with
  | nil => simp
  | cons row rows ih =>
    have hfirst := hbound row List.mem_cons_self
    rw [List.foldl_cons, ih, mem_relationships_connect graph hfirst.1
      hfirst.2]
    · simp only [List.mem_cons, exists_eq_or_imp]
      tauto
    · intro later hlater
      rw [nodes_connect]
      exact hbound later (List.mem_cons_of_mem row hlater)

/-- `MERGE` of a relationship between all nodes of two keys. -/
theorem contentOf_mergeRelationship {first second : Row → ℕ} {other : Key}
    {relation : Relation}
    (hbinds : BindsBoth schema table first second key other) :
    contentOf (table.mergeRelationship first relation second).graph =
      (Write.link key relation other).apply schema (contentOf table.graph) := by
  have hbound : ∀ row ∈ table.rows, first row < table.graph.nodes.length ∧
      second row < table.graph.nodes.length := by
    intro row hmem
    have hat := (hbinds (first row) (second row)).mp ⟨row, hmem, rfl, rfl⟩
    exact ⟨hat.1.lt_length, hat.2.lt_length⟩
  apply Content.ext
  · exact nodes_foldl_connect table.rows first second relation
  · funext near type far
    apply propext
    have hrelated : (contentOf (table.mergeRelationship first relation
        second).graph).related near type far ↔
          (contentOf table.graph).related near type far ∨
            ∃ row ∈ table.rows, Relationship.mk near type far =
              ⟨first row, relation, second row⟩ :=
      mem_foldl_connect hbound
    rw [hrelated]
    apply or_congr Iff.rfl
    rw [mem_positions_contentOf, mem_positions_contentOf, ← hbinds near far]
    simp only [Relationship.mk.injEq]
    constructor
    · rintro ⟨row, hmem, rfl, rfl, rfl⟩
      exact ⟨rfl, row, hmem, rfl, rfl⟩
    · rintro ⟨rfl, row, hmem, rfl, rfl⟩
      exact ⟨row, hmem, rfl, rfl, rfl⟩

end ComplyTime.Merging
