import ComplyTime.Core.KeyedGraph
import Mathlib.Data.List.Induction

/-!
# Merge writes

A query that merges nodes by key, assigns properties and merges relationships
comes down to two kinds of writes: one on the nodes of a key, which creates a
node if there is none, and one that relates the nodes of two keys.  The graph
is arbitrary here: several nodes may fit a key, and a node may fit none.

A list of writes run twice leaves the graph as running it once, although a
later write may overwrite what an earlier one has assigned.
-/

namespace ComplyTime.Merging

open Cypher Keyed

variable {Key Label Name Value Relation : Type*}

attribute [ext] Node

/-- The nodes of a property graph, and which of them are related. -/
@[ext]
structure Content (Label Name Value Relation : Type*) where
  nodes : List (Node Label Name Value)
  related : ℕ → Relation → ℕ → Prop
  closed : ∀ {near far : ℕ} {relation : Relation},
    related near relation far → near < nodes.length ∧ far < nodes.length

/-- Change every node in its place. -/
def Content.mapNodes (content : Content Label Name Value Relation)
    (change : Node Label Name Value → Node Label Name Value) :
    Content Label Name Value Relation where
  nodes := content.nodes.map change
  related := content.related
  closed := by
    intro near far relation hrelated
    rw [List.length_map]
    exact content.closed hrelated

theorem Content.mapNodes_id (content : Content Label Name Value Relation) :
    content.mapNodes id = content :=
  Content.ext (List.map_id _) rfl

theorem Content.mapNodes_mapNodes (content : Content Label Name Value Relation)
    (first second : Node Label Name Value → Node Label Name Value) :
    (content.mapNodes first).mapNodes second =
      content.mapNodes (second ∘ first) :=
  Content.ext List.map_map rfl

/-- What a property graph holds. -/
def contentOf (graph : Graph Label Name Value Relation) :
    Content Label Name Value Relation where
  nodes := graph.nodes
  related := fun near relation far =>
    ⟨near, relation, far⟩ ∈ graph.relationships
  closed := graph.closed _

inductive Write (Key Name Value Relation : Type*)
  | node (key : Key) (assignments : List (Name × Value))
  | link (source : Key) (relation : Relation) (target : Key)

/-! ## Running writes -/

section Writes

variable [DecidableEq Label] [DecidableEq Name] [DecidableEq Value]
variable (schema : Schema Key Label Name Value)

section Content

variable (content : Content Label Name Value Relation)

/-- The nodes of a key, in order. -/
def Content.nodesOf (key : Key) : List (Node Label Name Value) :=
  content.nodes.filter (schema.pattern key).fits

/-- The positions of the nodes of a key, in order. -/
def Content.positions (key : Key) : List ℕ :=
  content.nodes.findIdxs (schema.pattern key).fits

/-- The nodes once there is one of the key. -/
def Content.merged (key : Key) : List (Node Label Name Value) :=
  if content.positions schema key = [] then
    content.nodes ++ [(schema.pattern key).node]
  else content.nodes

/-- Nodes named by their keys and their places among the nodes of these keys
are related. -/
def Content.linked (source : Key) (place : ℕ) (relation : Relation)
    (target : Key) (other : ℕ) : Prop :=
  ∃ near far, (content.positions schema source)[place]? = some near ∧
    (content.positions schema target)[other]? = some far ∧
    content.related near relation far

variable {schema content} {key : Key} {index : ℕ}

theorem lt_length_of_mem_positions
    (hmem : index ∈ content.positions schema key) :
    index < content.nodes.length := by
  have hlt := List.lt_add_of_mem_findIdxs index hmem
  rwa [Nat.add_zero] at hlt

theorem length_positions :
    (content.positions schema key).length =
      (content.nodesOf schema key).length := by
  rw [Content.positions, Content.nodesOf, List.length_findIdxs,
    List.countP_eq_length_filter]

theorem positions_eq_nil_iff :
    content.positions schema key = [] ↔ content.nodesOf schema key = [] := by
  rw [← List.length_eq_zero_iff, length_positions, List.length_eq_zero_iff]

theorem length_le_merged :
    content.nodes.length ≤ (content.merged schema key).length := by
  unfold Content.merged
  split
  · rw [List.length_append]
    exact Nat.le_add_right _ _
  · exact Nat.le_refl _

end Content

/-- Assign properties to a node if it is one of the key. -/
def assignTo (key : Key) (assignments : List (Name × Value))
    (node : Node Label Name Value) : Node Label Name Value :=
  if (schema.pattern key).fits node then node.set assignments else node

/-- Relate all nodes of one key to all nodes of another. -/
def Write.apply (content : Content Label Name Value Relation) :
    Write Key Name Value Relation → Content Label Name Value Relation
  | .node key assignments =>
    { nodes := (content.merged schema key).map
        (assignTo schema key assignments)
      related := content.related
      closed := by
        intro near far relation hrelated
        have hends := content.closed hrelated
        have hle : content.nodes.length ≤
            (content.merged schema key).length := length_le_merged
        rw [List.length_map]
        omega }
  | .link source relation target =>
    { nodes := content.nodes
      related := fun near other far =>
        content.related near other far ∨
          (other = relation ∧ near ∈ content.positions schema source ∧
            far ∈ content.positions schema target)
      closed := by
        intro near far other hrelated
        rcases hrelated with hold | ⟨_, hnear, hfar⟩
        · exact content.closed hold
        · exact ⟨lt_length_of_mem_positions hnear,
            lt_length_of_mem_positions hfar⟩ }

def run (writes : List (Write Key Name Value Relation))
    (content : Content Label Name Value Relation) :
    Content Label Name Value Relation :=
  writes.foldl (Write.apply schema) content

theorem run_cons (write : Write Key Name Value Relation)
    (writes : List (Write Key Name Value Relation))
    (content : Content Label Name Value Relation) :
    run schema (write :: writes) content =
      run schema writes (write.apply schema content) := rfl

theorem run_append (writes later : List (Write Key Name Value Relation))
    (content : Content Label Name Value Relation) :
    run schema (writes ++ later) content =
      run schema later (run schema writes content) :=
  List.foldl_append

/-- The write assigns no property that identifies a node. -/
def Write.KeepsKeys : Write Key Name Value Relation → Prop
  | .node key assignments => schema.KeepsKey key assignments
  | .link _ _ _ => True

/-- What the write makes of a node that is already there. -/
def Write.revise : Write Key Name Value Relation →
    Node Label Name Value → Node Label Name Value
  | .node key assignments => assignTo schema key assignments
  | .link _ _ _ => id

def reviseAll (writes : List (Write Key Name Value Relation))
    (node : Node Label Name Value) : Node Label Name Value :=
  writes.foldl (fun revised write => write.revise schema revised) node

/-- The value the writes assign to a property of the node; a later write
overrides an earlier one. -/
def assigned (writes : List (Write Key Name Value Relation))
    (node : Node Label Name Value) (name : Name) : Option Value :=
  writes.foldl
    (fun found write =>
      match write with
      | .node key assignments =>
        if (schema.pattern key).fits node then
          (assignments.lookup name).or found
        else found
      | .link _ _ _ => found)
    none

end Writes

variable {assignments : List (Name × Value)}

/-! ## Keys stay as they are -/

section Keys

variable [DecidableEq Label] [DecidableEq Name] [DecidableEq Value]
variable {schema : Schema Key Label Name Value}
  {content : Content Label Name Value Relation}
  {write : Write Key Name Value Relation}
  {writes : List (Write Key Name Value Relation)}
  {node : Node Label Name Value} {key other : Key}

theorem fits_assignTo (hkeeps : schema.KeepsKey key assignments) :
    (schema.pattern other).fits (assignTo schema key assignments node) =
      (schema.pattern other).fits node := by
  unfold assignTo
  split
  · rename_i hfits
    apply Bool.eq_iff_iff.mpr
    constructor
    · intro hafter
      obtain rfl := schema.separated hafter (hkeeps node hfits)
      exact hfits
    · intro hbefore
      obtain rfl := schema.separated hbefore hfits
      exact hkeeps node hfits
  · rfl

theorem fits_revise (hkeeps : write.KeepsKeys schema) :
    (schema.pattern other).fits (write.revise schema node) =
      (schema.pattern other).fits node := by
  cases write with
  | node key assignments => exact fits_assignTo hkeeps
  | link source relation target => rfl

theorem fits_reviseAll (hkeeps : ∀ write ∈ writes, write.KeepsKeys schema) :
    (schema.pattern other).fits (reviseAll schema writes node) =
      (schema.pattern other).fits node := by
  induction writes generalizing node with
  | nil => rfl
  | cons write writes ih =>
    have hlater : (schema.pattern other).fits
        (reviseAll schema writes (write.revise schema node)) =
          (schema.pattern other).fits (write.revise schema node) :=
      ih (List.forall_mem_of_forall_mem_cons hkeeps)
    exact hlater.trans (fits_revise (hkeeps write List.mem_cons_self))

theorem fits_created :
    (schema.pattern other).fits (schema.pattern key).node = true ↔
      other = key := by
  constructor
  · exact fun hfits => schema.separated hfits (schema.realised key)
  · rintro rfl
    exact schema.realised other

variable [DecidableEq Key]

/-- A node is created only for a key that has none. -/
theorem positions_node (hkeeps : schema.KeepsKey key assignments) :
    ((Write.node key assignments).apply schema content).positions schema
        other =
      if other = key ∧ content.positions schema key = [] then
        [content.nodes.length]
      else content.positions schema other := by
  have hfits : (schema.pattern other).fits ∘ assignTo schema key assignments =
      (schema.pattern other).fits := by
    funext node
    exact fits_assignTo hkeeps
  rw [Content.positions, Write.apply, List.findIdxs_map, hfits, Content.merged]
  by_cases habsent : content.positions schema key = []
  · rw [if_pos habsent, List.findIdxs_append, List.findIdxs_singleton]
    by_cases hkey : other = key
    · subst hkey
      rw [if_pos (fits_created.mpr rfl), if_pos ⟨rfl, habsent⟩, Nat.zero_add]
      exact congrArg (· ++ [content.nodes.length]) habsent
    · rw [if_neg fun hfits => hkey (fits_created.mp hfits),
        if_neg fun hboth => hkey hboth.1, List.append_nil]
      rfl
  · rw [if_neg habsent, if_neg fun hboth => habsent hboth.2]
    rfl

theorem positions_apply (hkeeps : write.KeepsKeys schema)
    (hpresent : content.positions schema key ≠ []) :
    (write.apply schema content).positions schema key =
      content.positions schema key := by
  cases write with
  | node merged assignments =>
    rw [positions_node hkeeps]
    apply if_neg
    rintro ⟨rfl, habsent⟩
    exact hpresent habsent
  | link source relation target => rfl

theorem positions_run (hkeeps : ∀ write ∈ writes, write.KeepsKeys schema)
    (hpresent : content.positions schema key ≠ []) :
    (run schema writes content).positions schema key =
      content.positions schema key := by
  induction writes generalizing content with
  | nil => rfl
  | cons write writes ih =>
    have hstep := positions_apply (hkeeps write List.mem_cons_self) hpresent
    have hrest : (run schema writes (write.apply schema content)).positions
        schema key = (write.apply schema content).positions schema key := by
      apply ih
      · exact List.forall_mem_of_forall_mem_cons hkeeps
      · rw [hstep]
        exact hpresent
    exact hrest.trans hstep

omit [DecidableEq Key] in
theorem key_eq_of_mem_positions {index : ℕ}
    (hkey : index ∈ content.positions schema key)
    (hother : index ∈ content.positions schema other) : key = other := by
  rw [Content.positions, List.mem_findIdxs_iff_exists_getElem_pos]
    at hkey hother
  obtain ⟨_, hfits⟩ := hkey
  obtain ⟨_, hfits'⟩ := hother
  exact schema.separated hfits hfits'

end Keys

/-! ## Running writes again -/

section Again

variable [DecidableEq Label] [DecidableEq Name] [DecidableEq Value]
variable (schema : Schema Key Label Name Value)

/-- The nodes the write relates are there. -/
def Write.Ready (content : Content Label Name Value Relation) :
    Write Key Name Value Relation → Prop
  | .node _ _ => True
  | .link source _ target =>
    content.positions schema source ≠ [] ∧ content.positions schema target ≠ []

/-- Every write is ready when its turn comes. -/
def ReadyAll : List (Write Key Name Value Relation) →
    Content Label Name Value Relation → Prop
  | [], _ => True
  | write :: writes, content =>
    write.Ready schema content ∧ ReadyAll writes (write.apply schema content)

/-- The write has nothing to add but the values it assigns. -/
def Write.Done (content : Content Label Name Value Relation) :
    Write Key Name Value Relation → Prop
  | .node key _ => content.positions schema key ≠ []
  | .link source relation target =>
    content.positions schema source ≠ [] ∧
      content.positions schema target ≠ [] ∧
      ∀ near ∈ content.positions schema source,
        ∀ far ∈ content.positions schema target,
          content.related near relation far

variable {schema} {content : Content Label Name Value Relation}
  {write : Write Key Name Value Relation}
  {writes later : List (Write Key Name Value Relation)} [DecidableEq Key]

omit [DecidableEq Key] in
theorem readyAll_append :
    ReadyAll schema (writes ++ later) content ↔
      ReadyAll schema writes content ∧
        ReadyAll schema later (run schema writes content) := by
  induction writes generalizing content with
  | nil => simp [ReadyAll, run]
  | cons write writes ih =>
    simp only [List.cons_append, ReadyAll, ih, and_assoc]
    rfl

omit [DecidableEq Key] in
theorem related_apply {near far : ℕ} {relation : Relation}
    (hrelated : content.related near relation far) :
    (write.apply schema content).related near relation far := by
  cases write with
  | node key assignments => exact hrelated
  | link source other target => exact .inl hrelated

theorem Write.Done.apply {other : Write Key Name Value Relation}
    (hdone : write.Done schema content) (hkeeps : other.KeepsKeys schema) :
    write.Done schema (other.apply schema content) := by
  cases write with
  | node key assignments =>
    rw [Write.Done, positions_apply hkeeps hdone]
    exact hdone
  | link source relation target =>
    obtain ⟨hsource, htarget, hrelated⟩ := hdone
    rw [Write.Done, positions_apply hkeeps hsource,
      positions_apply hkeeps htarget]
    exact ⟨hsource, htarget, fun near hnear far hfar =>
      related_apply (hrelated near hnear far hfar)⟩

theorem Write.Ready.done (hready : write.Ready schema content)
    (hkeeps : write.KeepsKeys schema) :
    write.Done schema (write.apply schema content) := by
  cases write with
  | node key assignments =>
    rw [Write.Done, positions_node hkeeps]
    split
    · exact List.cons_ne_nil _ _
    · rename_i hpresent
      exact fun habsent => hpresent ⟨rfl, habsent⟩
  | link source relation target =>
    exact ⟨hready.1, hready.2, fun near hnear far hfar =>
      .inr ⟨rfl, hnear, hfar⟩⟩

theorem done_run (hkeeps : ∀ write ∈ writes, write.KeepsKeys schema)
    (hdone : write.Done schema content) :
    write.Done schema (run schema writes content) := by
  induction writes generalizing content with
  | nil => exact hdone
  | cons next writes ih =>
    apply ih
    · exact List.forall_mem_of_forall_mem_cons hkeeps
    · exact hdone.apply (hkeeps next List.mem_cons_self)

theorem ReadyAll.done (hready : ReadyAll schema writes content)
    (hkeeps : ∀ write ∈ writes, write.KeepsKeys schema)
    (hmem : write ∈ writes) : write.Done schema (run schema writes content) := by
  induction writes generalizing content with
  | nil => cases hmem
  | cons next writes ih =>
    have hlater : ∀ later ∈ writes, later.KeepsKeys schema :=
      List.forall_mem_of_forall_mem_cons hkeeps
    rcases List.mem_cons.mp hmem with rfl | hmem
    · have hdone := hready.1.done (hkeeps write List.mem_cons_self)
      rw [run_cons]
      exact done_run hlater hdone
    · exact ih hready.2 hlater hmem

/-- Lists of writes that are ready wherever a key has a node. -/
theorem readyAll_flatMap {Item : Type*} {items : List Item} {known : Key}
    {made : Item → List (Write Key Name Value Relation)}
    (hkeeps : ∀ item ∈ items, ∀ write ∈ made item, write.KeepsKeys schema)
    (hready : ∀ item ∈ items, ∀ content : Content Label Name Value Relation,
      content.positions schema known ≠ [] → ReadyAll schema (made item) content)
    (hknown : content.positions schema known ≠ []) :
    ReadyAll schema (items.flatMap made) content := by
  induction items generalizing content with
  | nil => trivial
  | cons item items ih =>
    rw [List.flatMap_cons, readyAll_append]
    apply And.intro (hready item List.mem_cons_self content hknown)
    apply ih
    · exact List.forall_mem_of_forall_mem_cons hkeeps
    · exact List.forall_mem_of_forall_mem_cons hready
    · rw [positions_run (hkeeps item List.mem_cons_self) hknown]
      exact hknown

end Again

/-! ## Assigned values -/

section Assigned

variable [DecidableEq Label] [DecidableEq Name] [DecidableEq Value]
variable {schema : Schema Key Label Name Value}
  {write : Write Key Name Value Relation}
  {writes : List (Write Key Name Value Relation)}
  {node : Node Label Name Value} {name : Name}

theorem assigned_append_node {key : Key} :
    assigned schema (writes ++ [Write.node key assignments]) node name =
      if (schema.pattern key).fits node then
        (assignments.lookup name).or (assigned schema writes node name)
      else assigned schema writes node name := by
  rw [assigned, List.foldl_append]
  rfl

theorem assigned_append_link {source target : Key} {relation : Relation} :
    assigned schema (writes ++ [Write.link source relation target]) node
      name = assigned schema writes node name := by
  rw [assigned, List.foldl_append]
  rfl

theorem reviseAll_append :
    reviseAll schema (writes ++ [write]) node =
      write.revise schema (reviseAll schema writes node) := by
  rw [reviseAll, List.foldl_append]
  rfl

theorem label_reviseAll : (reviseAll schema writes node).label = node.label := by
  induction writes using List.reverseRecOn with
  | nil => rfl
  | append_singleton writes write ih =>
    rw [reviseAll_append]
    cases write with
    | node key assignments =>
      rw [Write.revise, assignTo]
      split
      · exact ih
      · exact ih
    | link source relation target => exact ih

theorem properties_reviseAll
    (hkeeps : ∀ write ∈ writes, write.KeepsKeys schema) :
    (reviseAll schema writes node).properties name =
      (assigned schema writes node name).or (node.properties name) := by
  induction writes using List.reverseRecOn with
  | nil => rfl
  | append_singleton writes write ih =>
    have hearlier : ∀ earlier ∈ writes, earlier.KeepsKeys schema :=
      fun earlier hearlier =>
        hkeeps earlier (List.mem_append_left [write] hearlier)
    have hproperties := ih hearlier
    rw [reviseAll_append]
    cases write with
    | node key assignments =>
      rw [Write.revise, assignTo, fits_reviseAll hearlier, assigned_append_node]
      split
      · rw [Option.or_assoc, ← hproperties]
        rfl
      · exact hproperties
    | link source relation target =>
      rw [assigned_append_link]
      exact hproperties

theorem assigned_congr {other : Node Label Name Value}
    (hfits : ∀ key, (schema.pattern key).fits other =
      (schema.pattern key).fits node) :
    assigned schema writes other name = assigned schema writes node name := by
  simp only [assigned, hfits]

/-- Writes that assign one value to a property, and no other, to a node. -/
theorem assigned_eq_some {key : Key} {value : Value}
    (hmem : Write.node key assignments ∈ writes)
    (hfits : (schema.pattern key).fits node = true)
    (hvalue : assignments.lookup name = some value)
    (hagree : ∀ other others, Write.node other others ∈ writes →
      (schema.pattern other).fits node = true →
        ∀ found ∈ others.lookup name, found = value) :
    assigned schema writes node name = some value := by
  induction writes using List.reverseRecOn with
  | nil => cases hmem
  | append_singleton writes write ih =>
    have hearlier := fun hearlier => ih hearlier fun other others hother =>
      hagree other others (List.mem_append_left _ hother)
    rcases List.mem_append.mp hmem with hold | hlast
    · cases write with
      | node merged others =>
        rw [assigned_append_node, hearlier hold]
        split
        · rename_i hmerged
          cases hlookup : others.lookup name with
          | none => rfl
          | some found =>
            rw [hagree merged others (by simp) hmerged found hlookup]
            rfl
        · rfl
      | link source relation target => rw [assigned_append_link, hearlier hold]
    · rw [← List.mem_singleton.mp hlast, assigned_append_node, if_pos hfits,
        hvalue]
      rfl

theorem reviseAll_reviseAll
    (hkeeps : ∀ write ∈ writes, write.KeepsKeys schema) :
    reviseAll schema writes (reviseAll schema writes node) =
      reviseAll schema writes node := by
  apply Node.ext
  · exact label_reviseAll
  · funext name
    have hassigned : assigned schema writes (reviseAll schema writes node)
        name = assigned schema writes node name :=
      assigned_congr fun key => fits_reviseAll hkeeps
    rw [properties_reviseAll hkeeps, hassigned, properties_reviseAll hkeeps,
      ← Option.or_assoc, Option.or_self]

theorem reviseAll_of_unfit
    (hunfit : ∀ key assignments, Write.node key assignments ∈ writes →
      (schema.pattern key).fits node = false) :
    reviseAll schema writes node = node := by
  induction writes with
  | nil => rfl
  | cons write writes ih =>
    have hkept : write.revise schema node = node := by
      cases write with
      | node key assignments =>
        rw [Write.revise, assignTo, hunfit key assignments List.mem_cons_self]
        rfl
      | link source relation target => rfl
    change reviseAll schema writes (write.revise schema node) = node
    rw [hkept]
    exact ih fun key assignments hmem =>
      hunfit key assignments (List.mem_cons_of_mem write hmem)

end Assigned

/-! ## The nodes of a key -/

section Nodes

variable [DecidableEq Key] [DecidableEq Label] [DecidableEq Name]
  [DecidableEq Value]
variable {schema : Schema Key Label Name Value}
  {content : Content Label Name Value Relation}
  {writes : List (Write Key Name Value Relation)} {key : Key}

/-- Whether the write merges a node of the key. -/
def Write.merges (key : Key) : Write Key Name Value Relation → Bool
  | .node merged _ => decide (merged = key)
  | .link _ _ _ => false

/-- The nodes of the key before anything is assigned to them. -/
def started (schema : Schema Key Label Name Value)
    (writes : List (Write Key Name Value Relation))
    (content : Content Label Name Value Relation) (key : Key) :
    List (Node Label Name Value) :=
  if content.nodesOf schema key = [] ∧ writes.any (Write.merges key) then
    [(schema.pattern key).node]
  else content.nodesOf schema key

theorem nodesOf_node {merged : Key}
    (hkeeps : schema.KeepsKey merged assignments) :
    ((Write.node merged assignments).apply schema content).nodesOf schema key =
      (if content.nodesOf schema key = [] ∧ merged = key then
        [(schema.pattern key).node]
      else content.nodesOf schema key).map
        (assignTo schema merged assignments) := by
  have hfits : (schema.pattern key).fits ∘
      assignTo schema merged assignments = (schema.pattern key).fits := by
    funext node
    exact fits_assignTo hkeeps
  rw [Content.nodesOf, Write.apply, List.filter_map, hfits, Content.merged]
  apply congrArg (List.map (assignTo schema merged assignments))
  by_cases habsent : content.positions schema merged = []
  · rw [if_pos habsent, List.filter_append, List.filter_singleton]
    by_cases hkey : merged = key
    · subst hkey
      have hnone := positions_eq_nil_iff.mp habsent
      rw [if_pos ⟨hnone, rfl⟩, schema.realised]
      exact congrArg (· ++ [(schema.pattern merged).node]) hnone
    · have hunfit : (schema.pattern key).fits (schema.pattern merged).node =
          false := by
        rw [Bool.eq_false_iff]
        exact fun hfits => hkey (fits_created.mp hfits).symm
      rw [if_neg fun hboth => hkey hboth.2, hunfit, cond_false, List.append_nil]
      rfl
  · rw [if_neg habsent]
    rw [if_neg]
    · rfl
    · rintro ⟨hnone, rfl⟩
      exact habsent (positions_eq_nil_iff.mpr hnone)

omit [DecidableEq Name] [DecidableEq Value] in
theorem any_merges_iff :
    writes.any (Write.merges key) = true ↔
      ∃ assignments, Write.node key assignments ∈ writes := by
  rw [List.any_eq_true]
  constructor
  · rintro ⟨write, hmem, hmerges⟩
    cases write with
    | node merged assignments =>
      obtain rfl := of_decide_eq_true hmerges
      exact ⟨assignments, hmem⟩
    | link source relation target => cases hmerges
  · rintro ⟨assignments, hmem⟩
    exact ⟨Write.node key assignments, hmem, decide_eq_true rfl⟩

theorem started_apply {write : Write Key Name Value Relation}
    (hkeeps : write.KeepsKeys schema) :
    started schema writes (write.apply schema content) key =
      (started schema (write :: writes) content key).map
        (write.revise schema) := by
  cases write with
  | link source relation target =>
    rw [Write.revise, List.map_id]
    rfl
  | node merged assignments =>
    rw [started, started, nodesOf_node hkeeps, Write.revise, List.any_cons,
      Write.merges]
    by_cases hnone : content.nodesOf schema key = []
    · by_cases hkey : merged = key
      · simp [hnone, hkey]
      · have hunfit : (schema.pattern merged).fits
            (schema.pattern key).node = false := by
          rw [Bool.eq_false_iff]
          exact fun hfits => hkey (fits_created.mp hfits)
        have hkept : assignTo schema merged assignments
            (schema.pattern key).node = (schema.pattern key).node := by
          rw [assignTo, hunfit]
          rfl
        simp only [hnone, hkey, and_false, if_false, List.map_nil, true_and,
          decide_false, Bool.false_or]
        split
        · rw [List.map_singleton, hkept]
        · rfl
    · simp [hnone]

/-- What the writes leave of each key: the nodes from before, or a new one if
there were none, with the assigned values. -/
theorem nodesOf_run (hkeeps : ∀ write ∈ writes, write.KeepsKeys schema) :
    (run schema writes content).nodesOf schema key =
      (started schema writes content key).map (reviseAll schema writes) := by
  induction writes generalizing content with
  | nil =>
    have hstarted : started schema ([] : List (Write Key Name Value Relation))
        content key = content.nodesOf schema key := by
      simp [started]
    rw [hstarted]
    exact (List.map_id _).symm
  | cons write writes ih =>
    have hlater : ∀ later ∈ writes, later.KeepsKeys schema :=
      List.forall_mem_of_forall_mem_cons hkeeps
    calc (run schema writes (write.apply schema content)).nodesOf schema key
        = (started schema writes (write.apply schema content) key).map
            (reviseAll schema writes) := ih hlater
      _ = ((started schema (write :: writes) content key).map
            (write.revise schema)).map (reviseAll schema writes) := by
          rw [started_apply (hkeeps write List.mem_cons_self)]
      _ = (started schema (write :: writes) content key).map
            (reviseAll schema (write :: writes)) := List.map_map

theorem reviseAll_of_mem_run (hkeeps : ∀ write ∈ writes, write.KeepsKeys schema)
    {node : Node Label Name Value}
    (hmem : node ∈ (run schema writes content).nodes) :
    reviseAll schema writes node = node := by
  by_cases hfits : ∃ key, (schema.pattern key).fits node = true
  · obtain ⟨key, hfits⟩ := hfits
    have hnode : node ∈ (run schema writes content).nodesOf schema key :=
      List.mem_filter.mpr ⟨hmem, hfits⟩
    rw [nodesOf_run hkeeps] at hnode
    obtain ⟨start, _, rfl⟩ := List.mem_map.mp hnode
    exact reviseAll_reviseAll hkeeps
  · apply reviseAll_of_unfit
    intro key assignments _
    rw [Bool.eq_false_iff]
    exact fun hkey => hfits ⟨key, hkey⟩

omit [DecidableEq Key] in
theorem apply_of_done {write : Write Key Name Value Relation}
    (hdone : write.Done schema content) :
    write.apply schema content = content.mapNodes (write.revise schema) := by
  cases write with
  | node key assignments =>
    have hmerged : content.merged schema key = content.nodes := if_neg hdone
    apply Content.ext
    · exact congrArg (List.map (assignTo schema key assignments)) hmerged
    · rfl
  | link source relation target =>
    apply Content.ext
    · exact (List.map_id _).symm
    · funext near other far
      apply propext
      constructor
      · rintro (hold | ⟨rfl, hnear, hfar⟩)
        · exact hold
        · exact hdone.2.2 near hnear far hfar
      · exact Or.inl

theorem run_of_done (hkeeps : ∀ write ∈ writes, write.KeepsKeys schema)
    (hdone : ∀ write ∈ writes, write.Done schema content) :
    run schema writes content = content.mapNodes (reviseAll schema writes) := by
  induction writes generalizing content with
  | nil => exact content.mapNodes_id.symm
  | cons write writes ih =>
    have hrest : run schema writes (write.apply schema content) =
        (write.apply schema content).mapNodes (reviseAll schema writes) := by
      apply ih
      · exact List.forall_mem_of_forall_mem_cons hkeeps
      · exact fun later hlater =>
          (hdone later (List.mem_cons_of_mem write hlater)).apply
            (hkeeps write List.mem_cons_self)
    calc run schema writes (write.apply schema content)
        = (write.apply schema content).mapNodes
            (reviseAll schema writes) := hrest
      _ = (content.mapNodes (write.revise schema)).mapNodes
            (reviseAll schema writes) := by
          rw [apply_of_done (hdone write List.mem_cons_self)]
      _ = content.mapNodes (reviseAll schema (write :: writes)) :=
          content.mapNodes_mapNodes _ _

theorem run_run (hkeeps : ∀ write ∈ writes, write.KeepsKeys schema)
    (hready : ReadyAll schema writes content) :
    run schema writes (run schema writes content) =
      run schema writes content := by
  rw [run_of_done hkeeps fun write hmem => hready.done hkeeps hmem]
  apply Content.ext
  · calc (run schema writes content).nodes.map (reviseAll schema writes)
        = (run schema writes content).nodes.map id :=
          List.map_congr_left fun node hmem => reviseAll_of_mem_run hkeeps hmem
      _ = (run schema writes content).nodes := List.map_id _
  · rfl

end Nodes

end ComplyTime.Merging
