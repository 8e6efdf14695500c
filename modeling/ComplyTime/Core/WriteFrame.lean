import ComplyTime.Core.MergeQuery
import ComplyTime.Core.WriteOrder

/-!
# What merge writes leave alone

A graph is rewritten on some keys when merge writes that name no other keys
lead from one state to the next.  Nodes of other keys are spared: they stay as
they are, with all the relationships at either end.  A node of a named key
keeps its label and the properties that identify it.
-/

namespace ComplyTime.Merging

open Cypher Keyed

variable {Key Label Name Value Relation : Type*}

/-- The keys a write names. -/
def Write.Names (key : Key) : Write Key Name Value Relation → Prop
  | .node merged _ => merged = key
  | .link source _ target => source = key ∨ target = key

/-- The writes name keys of the set only. -/
def Within (touched : Key → Prop)
    (writes : List (Write Key Name Value Relation)) : Prop :=
  ∀ write ∈ writes, ∀ key, write.Names key → touched key

variable [DecidableEq Key] [DecidableEq Label] [DecidableEq Name]
  [DecidableEq Value]

/-! ## Nodes that were there before -/

section Contents

variable {schema : Schema Key Label Name Value}
  {content : Content Label Name Value Relation}
  {writes : List (Write Key Name Value Relation)} {key : Key} {index : ℕ}

omit [DecidableEq Key] in
theorem getElem?_apply (write : Write Key Name Value Relation)
    (hold : index < content.nodes.length) :
    (write.apply schema content).nodes[index]? =
      content.nodes[index]?.map (write.revise schema) := by
  cases write with
  | link source relation target => exact Option.map_id_apply.symm
  | node key assignments =>
    have hmerged : (content.merged schema key)[index]? =
        content.nodes[index]? := by
      unfold Content.merged
      split
      · exact List.getElem?_append_left hold
      · rfl
    exact List.getElem?_map.trans (by rw [hmerged]; rfl)

omit [DecidableEq Key] in
theorem getElem?_run (hold : index < content.nodes.length) :
    (run schema writes content).nodes[index]? =
      content.nodes[index]?.map (reviseAll schema writes) := by
  induction writes generalizing content with
  | nil => exact Option.map_id_apply.symm
  | cons write writes ih =>
    have hstill : index < (write.apply schema content).nodes.length :=
      Nat.lt_of_lt_of_le hold (length_le_apply write)
    rw [run_cons, ih hstill, getElem?_apply write hold, Option.map_map]
    rfl

theorem positions_of_unmerged
    (hkeeps : ∀ write ∈ writes, write.KeepsKeys schema)
    (hunmerged : ∀ assignments, Write.node key assignments ∉ writes) :
    (run schema writes content).positions schema key =
      content.positions schema key := by
  induction writes generalizing content with
  | nil => rfl
  | cons write writes ih =>
    rw [run_cons, ih (List.forall_mem_of_forall_mem_cons hkeeps)
      (fun assignments hlater => hunmerged assignments
        (List.mem_cons_of_mem write hlater))]
    cases write with
    | link source relation target => rfl
    | node merged assignments =>
      rw [positions_node (hkeeps _ List.mem_cons_self)]
      apply if_neg
      rintro ⟨rfl, -⟩
      exact hunmerged assignments List.mem_cons_self

end Contents

/-! ## Graphs -/

variable (schema : Schema Key Label Name Value) (touched : Key → Prop)

/-- Some writes on the given keys lead from one graph to the other. -/
def Rewritten (before after : Graph Label Name Value Relation) : Prop :=
  ∃ writes : List (Write Key Name Value Relation),
    contentOf after = run schema writes (contentOf before) ∧
    (∀ write ∈ writes, write.KeepsKeys schema) ∧
    ReadyAll schema writes (contentOf before) ∧ Within touched writes

omit [DecidableEq Key] in
/-- A node of the graph with none of the given keys. -/
def Spared (graph : Graph Label Name Value Relation) (index : ℕ) : Prop :=
  index < graph.nodes.length ∧ ∀ key, touched key → ¬ schema.At graph key index

variable {schema touched}
  {before after last : Graph Label Name Value Relation} {key : Key}
  {index near far : ℕ} {relation : Relation}

omit [DecidableEq Key] in
theorem Rewritten.refl (graph : Graph Label Name Value Relation) :
    Rewritten schema touched graph graph :=
  ⟨[], rfl, by simp, trivial, by simp [Within]⟩

omit [DecidableEq Key] in
theorem Rewritten.trans (hfirst : Rewritten schema touched before after)
    (hsecond : Rewritten schema touched after last) :
    Rewritten schema touched before last := by
  obtain ⟨writes, hcontent, hkeeps, hready, hwithin⟩ := hfirst
  obtain ⟨later, hcontent', hkeeps', hready', hwithin'⟩ := hsecond
  refine ⟨writes ++ later, ?_, ?_, ?_, ?_⟩
  · rw [run_append, ← hcontent, hcontent']
  · intro write hmem
    exact (List.mem_append.mp hmem).elim (hkeeps write) (hkeeps' write)
  · rw [readyAll_append, ← hcontent]
    exact ⟨hready, hready'⟩
  · intro write hmem
    exact (List.mem_append.mp hmem).elim (hwithin write) (hwithin' write)

omit [DecidableEq Key] in
theorem spared_of_at (huntouched : ¬ touched key)
    (hat : schema.At before key index) :
    Spared schema touched before index := by
  refine ⟨hat.lt_length, ?_⟩
  intro other hother hat'
  exact huntouched (hat.key_eq hat' ▸ hother)

section Rewritten

variable (hrewritten : Rewritten schema touched before after)

include hrewritten

theorem Rewritten.at_old (hold : index < before.nodes.length) :
    schema.At after key index ↔ schema.At before key index := by
  obtain ⟨writes, hcontent, hkeeps, -⟩ := hrewritten
  rw [← mem_positions_contentOf, hcontent, ← mem_positions_contentOf]
  exact mem_positions_run hkeeps hold

theorem Rewritten.at_untouched (huntouched : ¬ touched key) :
    schema.At after key index ↔ schema.At before key index := by
  obtain ⟨writes, hcontent, hkeeps, -, hwithin⟩ := hrewritten
  rw [← mem_positions_contentOf, hcontent, ← mem_positions_contentOf,
    positions_of_unmerged hkeeps]
  intro assignments hmem
  exact huntouched (hwithin _ hmem key rfl)

omit [DecidableEq Key] in
theorem Rewritten.node_eq_or_at (hold : index < before.nodes.length) :
    after.nodes[index]? = before.nodes[index]? ∨
      ∃ key, touched key ∧ schema.At before key index := by
  obtain ⟨writes, hcontent, -, -, hwithin⟩ := hrewritten
  have hnode : after.nodes[index]? =
      before.nodes[index]?.map (reviseAll schema writes) := by
    have hnodes : after.nodes = (run schema writes (contentOf before)).nodes :=
      congrArg Content.nodes hcontent
    rw [hnodes]
    exact getElem?_run hold
  by_cases hat : ∃ key, touched key ∧ schema.At before key index
  · exact .inr hat
  · left
    obtain ⟨node, hbefore⟩ : ∃ node, before.nodes[index]? = some node :=
      ⟨_, List.getElem?_eq_getElem hold⟩
    have hkept : reviseAll schema writes node = node := by
      apply reviseAll_of_unfit
      intro key assignments hmem
      rw [Bool.eq_false_iff]
      intro hfits
      exact hat ⟨key, hwithin _ hmem key rfl, at_iff.mpr ⟨node, hbefore, hfits⟩⟩
    rw [hnode, hbefore, Option.map_some, hkept]

omit [DecidableEq Key] in
theorem Rewritten.node_of_spared (hspared : Spared schema touched before index) :
    after.nodes[index]? = before.nodes[index]? := by
  rcases hrewritten.node_eq_or_at hspared.1 with hsame | ⟨key, htouched, hat⟩
  · exact hsame
  · exact absurd hat (hspared.2 key htouched)

theorem Rewritten.mem_relationships
    (hmem : ⟨near, relation, far⟩ ∈ before.relationships) :
    ⟨near, relation, far⟩ ∈ after.relationships := by
  obtain ⟨writes, hcontent, hkeeps, hready, -⟩ := hrewritten
  have hrelated : (contentOf after).related near relation far := by
    rw [hcontent, related_run hkeeps hready]
    exact .inl hmem
  exact hrelated

theorem Rewritten.old_or_at
    (hmem : ⟨near, relation, far⟩ ∈ after.relationships) :
    ⟨near, relation, far⟩ ∈ before.relationships ∨
      ∃ source target, touched source ∧ touched target ∧
        schema.At after source near ∧ schema.At after target far := by
  obtain ⟨writes, hcontent, hkeeps, hready, hwithin⟩ := hrewritten
  have hrelated : (contentOf after).related near relation far := hmem
  rw [hcontent, related_run hkeeps hready, ← hcontent] at hrelated
  rcases hrelated with hold | ⟨source, target, hlink, hnear, hfar⟩
  · exact .inl hold
  · exact .inr ⟨source, target, hwithin _ hlink source (.inl rfl),
      hwithin _ hlink target (.inr rfl), mem_positions_contentOf.mp hnear,
      mem_positions_contentOf.mp hfar⟩

theorem Rewritten.mem_from_spared
    (hspared : Spared schema touched before near) :
    ⟨near, relation, far⟩ ∈ after.relationships ↔
      ⟨near, relation, far⟩ ∈ before.relationships := by
  constructor
  · intro hmem
    rcases hrewritten.old_or_at hmem with
      hold | ⟨source, target, hsource, -, hat, -⟩
    · exact hold
    · exact absurd ((hrewritten.at_old hspared.1).mp hat)
        (hspared.2 source hsource)
  · exact hrewritten.mem_relationships

theorem Rewritten.mem_into_spared (hspared : Spared schema touched before far) :
    ⟨near, relation, far⟩ ∈ after.relationships ↔
      ⟨near, relation, far⟩ ∈ before.relationships := by
  constructor
  · intro hmem
    rcases hrewritten.old_or_at hmem with
      hold | ⟨source, target, -, htarget, -, hat⟩
    · exact hold
    · exact absurd ((hrewritten.at_old hspared.1).mp hat)
        (hspared.2 target htarget)
  · exact hrewritten.mem_relationships

theorem Rewritten.fitsAt_label (hold : index < before.nodes.length)
    (label : Label) :
    after.fitsAt ⟨label, []⟩ index = before.fitsAt ⟨label, []⟩ index := by
  rcases hrewritten.node_eq_or_at hold with hsame | ⟨key, -, hat⟩
  · rw [Graph.fitsAt, hsame, Graph.fitsAt]
  · -- Both nodes have the label of the key.
    obtain ⟨node, hnode, hfits⟩ := at_iff.mp hat
    obtain ⟨node', hnode', hfits'⟩ :=
      at_iff.mp ((hrewritten.at_old hold).mpr hat)
    have hlabel : node'.label = node.label :=
      (fits_iff.mp hfits').1.trans (fits_iff.mp hfits).1.symm
    rw [Graph.fitsAt, Graph.fitsAt, hnode, hnode', Option.any_some,
      Option.any_some, NodePattern.fits, NodePattern.fits, hlabel]
    rfl

/-! ## Rows -/

theorem Rewritten.select_perm (huntouched : ¬ touched key) :
    (after.select (schema.pattern key)).Perm
      (before.select (schema.pattern key)) := by
  apply (List.perm_ext_iff_of_nodup (nodup_select _ _) (nodup_select _ _)).mpr
  intro index
  rw [mem_select, mem_select]
  exact hrewritten.at_untouched huntouched

variable [DecidableEq Relation]

theorem Rewritten.outgoing_perm
    (hspared : Spared schema touched before index) (label : Label) :
    (after.outgoing index relation ⟨label, []⟩).Perm
      (before.outgoing index relation ⟨label, []⟩) := by
  apply (List.perm_ext_iff_of_nodup nodup_outgoing nodup_outgoing).mpr
  intro far
  rw [mem_outgoing, mem_outgoing, hrewritten.mem_from_spared hspared]
  apply and_congr_right
  intro hmem
  rw [hrewritten.fitsAt_label (before.closed _ hmem).2]

theorem Rewritten.incoming_perm
    (hspared : Spared schema touched before index) (label : Label) :
    (after.incoming index relation ⟨label, []⟩).Perm
      (before.incoming index relation ⟨label, []⟩) := by
  apply (List.perm_ext_iff_of_nodup nodup_incoming nodup_incoming).mpr
  intro near
  rw [mem_incoming, mem_incoming, hrewritten.mem_into_spared hspared]
  apply and_congr_right
  intro hmem
  rw [hrewritten.fitsAt_label (before.closed _ hmem).1]

end Rewritten

end ComplyTime.Merging
