import ComplyTime.Core.Cypher

/-!
# Graphs whose nodes have keys

When nodes are only created by `MERGE` on the key properties of their label,
and `SET` leaves those properties alone, a node is determined by its key.  Such
a property graph stands for a keyed graph: a partial map from keys to
properties, and a relation between keys.  Each clause then has a counterpart
that speaks of keys instead of positions.
-/

namespace ComplyTime.Keyed

open Cypher

variable {Key Label Name Value Relation Row : Type*}

@[ext]
structure KeyedGraph (Key Name Value Relation : Type*) where
  node : Key → Option (Name → Option Value)
  link : Key → Relation → Key → Prop

namespace KeyedGraph

/-- Nothing yet. -/
def empty : KeyedGraph Key Name Value Relation where
  node := fun _ => none
  link := fun _ _ _ => False

variable [DecidableEq Key] (graph : KeyedGraph Key Name Value Relation)

/-- Create the node of a key unless it exists. -/
def merge (key : Key) (properties : Name → Option Value) :
    KeyedGraph Key Name Value Relation where
  node := fun other =>
    if other = key then some ((graph.node key).getD properties)
    else graph.node other
  link := graph.link

/-- Assign properties of an existing node. -/
def set [DecidableEq Name] (key : Key) (assignments : List (Name × Value)) :
    KeyedGraph Key Name Value Relation where
  node := fun other =>
    if other = key then (graph.node key).map (assign assignments)
    else graph.node other
  link := graph.link

omit [DecidableEq Key] in
/-- Relate two nodes. -/
def connect (source : Key) (relation : Relation) (target : Key) :
    KeyedGraph Key Name Value Relation where
  node := graph.node
  link := fun key other far =>
    (key = source ∧ other = relation ∧ far = target) ∨ graph.link key other far

@[simp]
theorem link_merge (key : Key) (properties : Name → Option Value) :
    (graph.merge key properties).link = graph.link := rfl

@[simp]
theorem link_set [DecidableEq Name] (key : Key)
    (assignments : List (Name × Value)) :
    (graph.set key assignments).link = graph.link := rfl

end KeyedGraph

/-! ## Keys of a property graph -/

section Schema

variable [DecidableEq Label] [DecidableEq Name] [DecidableEq Value]

/-- The pattern of each key: no node fits the patterns of two keys, and the
node created from a pattern fits it. -/
structure Schema (Key Label Name Value : Type*) [DecidableEq Label]
    [DecidableEq Name] [DecidableEq Value] where
  pattern : Key → NodePattern Label Name Value
  separated : ∀ {node : Node Label Name Value} {key other : Key},
    (pattern key).fits node = true → (pattern other).fits node = true →
      key = other
  realised : ∀ key, (pattern key).fits (pattern key).node = true

variable (schema : Schema Key Label Name Value)
variable (graph : Graph Label Name Value Relation)

/-- The node of the key stands at the position. -/
def Schema.At (key : Key) (index : ℕ) : Prop :=
  graph.fitsAt (schema.pattern key) index = true

/-- Every node has a key, and no two nodes have the same one. -/
structure Schema.Keys : Prop where
  unique : ∀ {key : Key} {left right : ℕ},
    schema.At graph key left → schema.At graph key right → left = right
  total : ∀ index < graph.nodes.length, ∃ key, schema.At graph key index

/-- The keyed graph a property graph stands for. -/
def Schema.view : KeyedGraph Key Name Value Relation where
  node := fun key =>
    ((graph.select (schema.pattern key)).head?.bind
      fun index => graph.nodes[index]?).map Node.properties
  link := fun source relation target =>
    ∃ near far, schema.At graph source near ∧ schema.At graph target far ∧
      ⟨near, relation, far⟩ ∈ graph.relationships

variable {schema} {graph} {key other : Key} {index : ℕ}

theorem at_iff : schema.At graph key index ↔
    ∃ node, graph.nodes[index]? = some node ∧
      (schema.pattern key).fits node = true := by
  rw [Schema.At, Graph.fitsAt, Option.any_eq_true]

theorem Schema.At.lt_length (hat : schema.At graph key index) :
    index < graph.nodes.length :=
  lt_length_of_fitsAt graph hat

theorem Schema.At.key_eq (hat : schema.At graph key index)
    (hother : schema.At graph other index) : key = other := by
  obtain ⟨node, hnode, hfits⟩ := at_iff.mp hat
  obtain ⟨same, hsame, hfits'⟩ := at_iff.mp hother
  rw [hnode] at hsame
  obtain rfl := Option.some.inj hsame
  exact schema.separated hfits hfits'

theorem Schema.Keys.select_eq (hkeys : schema.Keys graph)
    (hat : schema.At graph key index) :
    graph.select (schema.pattern key) = [index] := by
  apply List.perm_singleton.mp
  rw [List.perm_ext_iff_of_nodup (nodup_select graph _)
    (List.nodup_singleton index)]
  intro found
  rw [mem_select, List.mem_singleton]
  constructor
  · exact fun hfound => hkeys.unique hfound hat
  · rintro rfl
    exact hat

theorem select_eq_nil (habsent : ∀ index, ¬ schema.At graph key index) :
    graph.select (schema.pattern key) = [] := by
  rw [List.eq_nil_iff_forall_not_mem]
  intro index hmem
  exact habsent index ((mem_select graph).mp hmem)

theorem Schema.Keys.node_of_at (hkeys : schema.Keys graph)
    (hat : schema.At graph key index) {node : Node Label Name Value}
    (hnode : graph.nodes[index]? = some node) :
    (schema.view graph).node key = some node.properties := by
  simp [Schema.view, hkeys.select_eq hat, hnode]

theorem node_of_absent (habsent : ∀ index, ¬ schema.At graph key index) :
    (schema.view graph).node key = none := by
  simp [Schema.view, select_eq_nil habsent]

theorem Schema.Keys.isSome_node_iff (hkeys : schema.Keys graph) :
    ((schema.view graph).node key).isSome ↔
      ∃ index, schema.At graph key index := by
  constructor
  · intro hpresent
    by_contra habsent
    rw [node_of_absent (not_exists.mp habsent)] at hpresent
    cases hpresent
  · rintro ⟨index, hat⟩
    obtain ⟨node, hnode, _⟩ := at_iff.mp hat
    rw [hkeys.node_of_at hat hnode]
    rfl

theorem keys_empty :
    schema.Keys (Graph.empty : Graph Label Name Value Relation) where
  unique := by
    intro key left right hleft
    exact absurd hleft.lt_length (Nat.not_lt_zero left)
  total := by
    intro index hlt
    exact absurd hlt (Nat.not_lt_zero index)

theorem view_empty :
    schema.view (Graph.empty : Graph Label Name Value Relation) =
      KeyedGraph.empty := by
  apply KeyedGraph.ext
  · funext key
    exact node_of_absent fun index hat =>
      absurd hat.lt_length (Nat.not_lt_zero index)
  · funext source relation target
    simp [Schema.view, Graph.empty, KeyedGraph.empty]

end Schema

/-! ## Creating a node -/

section Create

variable [DecidableEq Label] [DecidableEq Name] [DecidableEq Value]
variable {schema : Schema Key Label Name Value}
  {graph : Graph Label Name Value Relation} {key other : Key} {index : ℕ}

theorem at_create :
    schema.At (graph.create (schema.pattern key).node) other index ↔
      schema.At graph other index ∨
        (index = graph.nodes.length ∧ other = key) := by
  rw [at_iff, at_iff, nodes_create]
  by_cases hlast : index = graph.nodes.length
  · subst hlast
    rw [List.getElem?_concat_length]
    simp only [Option.some.injEq, exists_eq_left', true_and, reduceCtorEq,
      List.getElem?_eq_none (Nat.le_refl _), false_and, exists_false, false_or]
    constructor
    · intro hfits
      exact schema.separated hfits (schema.realised key)
    · rintro rfl
      exact schema.realised other
  · have hsame : (graph.nodes ++ [(schema.pattern key).node])[index]? =
        graph.nodes[index]? := by
      rcases Nat.lt_or_ge index graph.nodes.length with hlt | hge
      · exact List.getElem?_append_left hlt
      · have hbeyond : graph.nodes.length + 1 ≤ index := by omega
        rw [List.getElem?_eq_none hge, List.getElem?_eq_none (by
          simpa using hbeyond)]
    simp [hsame, hlast]

theorem Schema.Keys.create (hkeys : schema.Keys graph)
    (habsent : ∀ index, ¬ schema.At graph key index) :
    schema.Keys (graph.create (schema.pattern key).node) where
  unique := by
    intro other left right hleft hright
    rcases at_create.mp hleft with hold | ⟨rfl, rfl⟩
    · rcases at_create.mp hright with hold' | ⟨rfl, rfl⟩
      · exact hkeys.unique hold hold'
      · exact absurd hold (habsent left)
    · rcases at_create.mp hright with hold' | ⟨hlast, _⟩
      · exact absurd hold' (habsent right)
      · exact hlast.symm
  total := by
    intro index hlt
    rw [nodes_create, List.length_append, List.length_singleton] at hlt
    rcases Nat.lt_succ_iff_lt_or_eq.mp hlt with hold | rfl
    · obtain ⟨old, hat⟩ := hkeys.total index hold
      exact ⟨old, at_create.mpr (.inl hat)⟩
    · exact ⟨key, at_create.mpr (.inr ⟨rfl, rfl⟩)⟩

theorem Schema.Keys.view_create [DecidableEq Key]
    (hkeys : schema.Keys graph)
    (habsent : ∀ index, ¬ schema.At graph key index) :
    schema.view (graph.create (schema.pattern key).node) =
      (schema.view graph).merge key (schema.pattern key).node.properties := by
  have hcreated := hkeys.create habsent
  apply KeyedGraph.ext
  · funext other
    by_cases hkey : other = key
    · subst hkey
      have hat : schema.At (graph.create (schema.pattern other).node) other
          graph.nodes.length := at_create.mpr (.inr ⟨rfl, rfl⟩)
      rw [hcreated.node_of_at hat List.getElem?_concat_length]
      simp [KeyedGraph.merge, node_of_absent habsent]
    · simp only [KeyedGraph.merge, hkey, if_false]
      by_cases hpresent : ∃ index, schema.At graph other index
      · obtain ⟨index, hat⟩ := hpresent
        obtain ⟨node, hnode, _⟩ := at_iff.mp hat
        have hkept : (graph.create (schema.pattern key).node).nodes[index]? =
            some node := by
          rw [nodes_create, List.getElem?_append_left hat.lt_length, hnode]
        rw [hkeys.node_of_at hat hnode,
          hcreated.node_of_at (at_create.mpr (.inl hat)) hkept]
      · rw [node_of_absent (not_exists.mp hpresent), node_of_absent]
        intro index hat
        rcases at_create.mp hat with hold | ⟨_, heq⟩
        · exact hpresent ⟨index, hold⟩
        · exact hkey heq
  · funext source relation target
    apply propext
    simp only [Schema.view, KeyedGraph.merge, relationships_create]
    constructor
    · rintro ⟨near, far, hnear, hfar, hmem⟩
      have hends := graph.closed _ hmem
      rcases at_create.mp hnear with hnear | ⟨rfl, _⟩
      · rcases at_create.mp hfar with hfar | ⟨rfl, _⟩
        · exact ⟨near, far, hnear, hfar, hmem⟩
        · exact absurd hends.2 (Nat.lt_irrefl _)
      · exact absurd hends.1 (Nat.lt_irrefl _)
    · rintro ⟨near, far, hnear, hfar, hmem⟩
      exact ⟨near, far, at_create.mpr (.inl hnear),
        at_create.mpr (.inl hfar), hmem⟩

end Create

/-! ## Setting properties -/

section Set

variable [DecidableEq Label] [DecidableEq Name] [DecidableEq Value]
variable {schema : Schema Key Label Name Value}
  {graph : Graph Label Name Value Relation} {key other : Key}
  {index position : ℕ} {assignments : List (Name × Value)}

/-- The assignments leave the key of the node alone. -/
def Schema.KeepsKey (schema : Schema Key Label Name Value) (key : Key)
    (assignments : List (Name × Value)) : Prop :=
  ∀ node : Node Label Name Value, (schema.pattern key).fits node = true →
    (schema.pattern key).fits (node.set assignments) = true

theorem at_set (hat : schema.At graph key index)
    (hkeeps : schema.KeepsKey key assignments) :
    schema.At (graph.set index assignments) other position ↔
      schema.At graph other position := by
  obtain ⟨node, hnode, hfits⟩ := at_iff.mp hat
  rw [at_iff, at_iff, getElem?_nodes_set]
  split
  · rename_i heq
    subst heq
    simp only [hnode, Option.map_some, Option.some.injEq, exists_eq_left']
    constructor
    · intro hset
      obtain rfl := schema.separated hset (hkeeps node hfits)
      exact hfits
    · intro hold
      obtain rfl := schema.separated hold hfits
      exact hkeeps node hfits
  · exact Iff.rfl

section

variable (hkeys : schema.Keys graph) (hat : schema.At graph key index)
  (hkeeps : schema.KeepsKey key assignments)

include hkeys hat hkeeps

theorem Schema.Keys.set :
    schema.Keys (graph.set index assignments) where
  unique := by
    intro other left right hleft hright
    exact hkeys.unique ((at_set hat hkeeps).mp hleft)
      ((at_set hat hkeeps).mp hright)
  total := by
    intro position hlt
    obtain ⟨other, hother⟩ := hkeys.total position (by
      simpa [Graph.set] using hlt)
    exact ⟨other, (at_set hat hkeeps).mpr hother⟩

theorem Schema.Keys.view_set [DecidableEq Key] :
    schema.view (graph.set index assignments) =
      (schema.view graph).set key assignments := by
  have hset := hkeys.set hat hkeeps
  apply KeyedGraph.ext
  · funext other
    by_cases hpresent : ∃ position, schema.At graph other position
    · obtain ⟨position, hother⟩ := hpresent
      obtain ⟨node, hnode, _⟩ := at_iff.mp hother
      have hafter := (at_set hat hkeeps).mpr hother
      by_cases hkey : other = key
      · subst hkey
        obtain rfl := hkeys.unique hat hother
        have hchanged : (graph.set index assignments).nodes[index]? =
            some (node.set assignments) := by
          rw [getElem?_nodes_set, if_pos rfl, hnode, Option.map_some]
        rw [hset.node_of_at hafter hchanged]
        simp [KeyedGraph.set, hkeys.node_of_at hother hnode, Node.set]
      · have hne : index ≠ position := by
          rintro rfl
          exact hkey (hother.key_eq hat)
        have hkept : (graph.set index assignments).nodes[position]? =
            some node := by
          rw [getElem?_nodes_set, if_neg hne, hnode]
        rw [hset.node_of_at hafter hkept]
        simp [KeyedGraph.set, hkey, hkeys.node_of_at hother hnode]
    · have hkey : other ≠ key := by
        rintro rfl
        exact hpresent ⟨index, hat⟩
      rw [node_of_absent fun position hother =>
        hpresent ⟨position, (at_set hat hkeeps).mp hother⟩]
      simp [KeyedGraph.set, hkey, node_of_absent (not_exists.mp hpresent)]
  · funext source relation target
    simp only [Schema.view, KeyedGraph.set, relationships_set,
      at_set hat hkeeps]

end

end Set

/-! ## Connecting nodes -/

section Connect

variable [DecidableEq Label] [DecidableEq Name] [DecidableEq Value]
  [DecidableEq Relation]
variable {schema : Schema Key Label Name Value}
  {graph : Graph Label Name Value Relation} {key other : Key}
  {index near far : ℕ} {relation : Relation}

@[simp]
theorem at_connect :
    schema.At (graph.connect near relation far) key index ↔
      schema.At graph key index := by
  rw [at_iff, at_iff, nodes_connect]

theorem Schema.Keys.connect (hkeys : schema.Keys graph) (near : ℕ)
    (relation : Relation) (far : ℕ) :
    schema.Keys (graph.connect near relation far) where
  unique := by
    intro key left right hleft hright
    exact hkeys.unique (at_connect.mp hleft) (at_connect.mp hright)
  total := by
    intro index hlt
    rw [nodes_connect] at hlt
    obtain ⟨key, hat⟩ := hkeys.total index hlt
    exact ⟨key, at_connect.mpr hat⟩

theorem view_connect (hnear : schema.At graph key near)
    (hfar : schema.At graph other far) :
    schema.view (graph.connect near relation far) =
      (schema.view graph).connect key relation other := by
  have hfits : (graph.connect near relation far).fitsAt = graph.fitsAt := by
    funext pattern index
    rw [Graph.fitsAt, nodes_connect, Graph.fitsAt]
  apply KeyedGraph.ext
  · simp only [Schema.view, KeyedGraph.connect, nodes_connect, Graph.select,
      hfits]
  · funext source type target
    apply propext
    simp only [Schema.view, KeyedGraph.connect, at_connect,
      mem_relationships_connect graph hnear.lt_length hfar.lt_length,
      Relationship.mk.injEq]
    constructor
    · rintro ⟨left, right, hleft, hright, ⟨rfl, rfl, rfl⟩ | hmem⟩
      · exact .inl ⟨hleft.key_eq hnear, rfl, hright.key_eq hfar⟩
      · exact .inr ⟨left, right, hleft, hright, hmem⟩
    · rintro (⟨rfl, rfl, rfl⟩ | ⟨left, right, hleft, hright, hmem⟩)
      · exact ⟨near, far, hnear, hfar, .inl ⟨rfl, rfl, rfl⟩⟩
      · exact ⟨left, right, hleft, hright, .inr hmem⟩

end Connect

/-! ## Refinement -/

section Refinement

variable [DecidableEq Key] [DecidableEq Label] [DecidableEq Name]
  [DecidableEq Value] [DecidableEq Relation]
variable {schema : Schema Key Label Name Value}
  {graph : Graph Label Name Value Relation}
  {keyed : KeyedGraph Key Name Value Relation} {key other : Key}
  {index near far : ℕ}

/-- The property graph has keys and stands for the keyed graph. -/
structure Schema.Refines (schema : Schema Key Label Name Value)
    (graph : Graph Label Name Value Relation)
    (keyed : KeyedGraph Key Name Value Relation) : Prop where
  keys : schema.Keys graph
  view_eq : schema.view graph = keyed

omit [DecidableEq Key] [DecidableEq Relation] in
theorem refines_empty :
    schema.Refines (Graph.empty : Graph Label Name Value Relation)
      KeyedGraph.empty :=
  ⟨keys_empty, view_empty⟩

omit [DecidableEq Key] [DecidableEq Relation] in
theorem Schema.Refines.select_present (hrefines : schema.Refines graph keyed)
    (hpresent : (keyed.node key).isSome) :
    ∃ index, schema.At graph key index ∧
      graph.select (schema.pattern key) = [index] := by
  rw [← hrefines.view_eq] at hpresent
  obtain ⟨index, hat⟩ := hrefines.keys.isSome_node_iff.mp hpresent
  exact ⟨index, hat, hrefines.keys.select_eq hat⟩

omit [DecidableEq Key] [DecidableEq Relation] in
theorem Schema.Refines.select_absent (hrefines : schema.Refines graph keyed)
    (habsent : ¬ (keyed.node key).isSome) :
    graph.select (schema.pattern key) = [] := by
  apply select_eq_nil
  intro index hat
  apply habsent
  rw [← hrefines.view_eq]
  exact hrefines.keys.isSome_node_iff.mpr ⟨index, hat⟩

omit [DecidableEq Relation] in
/-- `MERGE` on a key binds one node, the node of the key. -/
theorem Schema.Refines.merge (hrefines : schema.Refines graph keyed)
    (key : Key) :
    ∃ merged index, graph.merge (schema.pattern key) = (merged, [index]) ∧
      schema.Refines merged
        (keyed.merge key (schema.pattern key).node.properties) ∧
      schema.At merged key index ∧
      ∀ {other position}, schema.At graph other position →
        schema.At merged other position := by
  by_cases hpresent : (keyed.node key).isSome
  · obtain ⟨index, hat, hselect⟩ := hrefines.select_present hpresent
    have hsame : keyed.merge key (schema.pattern key).node.properties =
        keyed := by
      obtain ⟨properties, hnode⟩ := Option.isSome_iff_exists.mp hpresent
      apply KeyedGraph.ext
      · funext other
        by_cases hkey : other = key
        · simp [KeyedGraph.merge, hkey, hnode]
        · simp [KeyedGraph.merge, hkey]
      · rfl
    refine ⟨graph, index, ?_, hsame.symm ▸ hrefines, hat, id⟩
    rw [Graph.merge, if_neg (by simp [hselect]), hselect]
  · have hselect := hrefines.select_absent hpresent
    have habsent : ∀ index, ¬ schema.At graph key index := by
      intro index hat
      rw [hrefines.keys.select_eq hat] at hselect
      cases hselect
    refine ⟨graph.create (schema.pattern key).node, graph.nodes.length, ?_,
      ⟨hrefines.keys.create habsent, ?_⟩, at_create.mpr (.inr ⟨rfl, rfl⟩),
      fun hat => at_create.mpr (.inl hat)⟩
    · rw [Graph.merge, if_pos hselect]
    · rw [hrefines.keys.view_create habsent, hrefines.view_eq]

omit [DecidableEq Relation] in
theorem Schema.Refines.set {assignments : List (Name × Value)}
    (hrefines : schema.Refines graph keyed) (hat : schema.At graph key index)
    (hkeeps : schema.KeepsKey key assignments) :
    schema.Refines (graph.set index assignments)
      (keyed.set key assignments) where
  keys := hrefines.keys.set hat hkeeps
  view_eq := by rw [hrefines.keys.view_set hat hkeeps, hrefines.view_eq]

omit [DecidableEq Key] in
theorem Schema.Refines.connect (hrefines : schema.Refines graph keyed)
    (hnear : schema.At graph key near) (hfar : schema.At graph other far)
    (relation : Relation) :
    schema.Refines (graph.connect near relation far)
      (keyed.connect key relation other) where
  keys := hrefines.keys.connect near relation far
  view_eq := by rw [view_connect hnear hfar, hrefines.view_eq]

end Refinement

end ComplyTime.Keyed
