import ComplyTime.Core.MergeWrites

/-!
# Merge writes in any order

When no two writes assign different values to a property, what they leave
behind is a function of the set of writes: it depends neither on their order
nor on how often each of them is run.  New nodes stand where they were created,
so two graphs are compared by the nodes of each key.
-/

namespace ComplyTime.Merging

open Cypher Keyed

variable {Key Label Name Value Relation : Type*}
variable [DecidableEq Key] [DecidableEq Label] [DecidableEq Name]
  [DecidableEq Value]
variable (schema : Schema Key Label Name Value)

/-- Both hold the same nodes of every key, related in the same way. -/
structure Alike (first second : Content Label Name Value Relation) :
    Prop where
  nodes : ∀ key, first.nodesOf schema key = second.nodesOf schema key
  links : ∀ source place relation target other,
    first.linked schema source place relation target other ↔
      second.linked schema source place relation target other

omit [DecidableEq Key] [DecidableEq Label] [DecidableEq Value] in
/-- No two writes assign different values to one property. -/
def Consistent (writes : List (Write Key Name Value Relation)) : Prop :=
  ∀ key first second name value other,
    Write.node key first ∈ writes → Write.node key second ∈ writes →
    first.lookup name = some value → second.lookup name = some other →
    value = other

variable {schema} {content : Content Label Name Value Relation}
  {writes others : List (Write Key Name Value Relation)}
  {node : Node Label Name Value} {name : Name} {value : Value}

omit [DecidableEq Key] in
theorem exists_write_of_assigned
    (hassigned : assigned schema writes node name = some value) :
    ∃ key assignments, Write.node key assignments ∈ writes ∧
      (schema.pattern key).fits node = true ∧
      assignments.lookup name = some value := by
  induction writes using List.reverseRecOn with
  | nil => cases hassigned
  | append_singleton writes write ih =>
    have hearlier : assigned schema writes node name = some value →
        ∃ key assignments, Write.node key assignments ∈ writes ++ [write] ∧
          (schema.pattern key).fits node = true ∧
          assignments.lookup name = some value := by
      intro hfound
      obtain ⟨key, assignments, hmem, hrest⟩ := ih hfound
      exact ⟨key, assignments, List.mem_append_left [write] hmem, hrest⟩
    cases write with
    | link source relation target =>
      rw [assigned_append_link] at hassigned
      exact hearlier hassigned
    | node key assignments =>
      rw [assigned_append_node] at hassigned
      split at hassigned
      · rename_i hfits
        cases hlookup : assignments.lookup name with
        | none =>
          rw [hlookup, Option.none_or] at hassigned
          exact hearlier hassigned
        | some found =>
          rw [hlookup, Option.some_or] at hassigned
          exact ⟨key, assignments, by simp, hfits, hlookup.trans hassigned⟩
      · exact hearlier hassigned

omit [DecidableEq Key] in
theorem isSome_assigned {key : Key} {assignments : List (Name × Value)}
    (hmem : Write.node key assignments ∈ writes)
    (hfits : (schema.pattern key).fits node = true)
    (hlookup : (assignments.lookup name).isSome) :
    (assigned schema writes node name).isSome := by
  induction writes using List.reverseRecOn with
  | nil => cases hmem
  | append_singleton writes write ih =>
    rcases List.mem_append.mp hmem with hearlier | hlast
    · have hfound := ih hearlier
      cases write with
      | link source relation target =>
        rw [assigned_append_link]
        exact hfound
      | node other later =>
        rw [assigned_append_node]
        split
        · rw [Option.isSome_or, hfound, Bool.or_true]
        · exact hfound
    · obtain rfl := List.mem_singleton.mp hlast
      rw [assigned_append_node, if_pos hfits, Option.isSome_or, hlookup,
        Bool.true_or]

omit [DecidableEq Key] in
theorem assigned_eq_some_iff (hconsistent : Consistent writes) :
    assigned schema writes node name = some value ↔
      ∃ key assignments, Write.node key assignments ∈ writes ∧
        (schema.pattern key).fits node = true ∧
        assignments.lookup name = some value := by
  constructor
  · exact exists_write_of_assigned
  · rintro ⟨key, assignments, hmem, hfits, hlookup⟩
    have hsome : (assigned schema writes node name).isSome :=
      isSome_assigned hmem hfits (by rw [hlookup]; rfl)
    obtain ⟨found, hfound⟩ := Option.isSome_iff_exists.mp hsome
    obtain ⟨other, later, hmem', hfits', hlookup'⟩ :=
      exists_write_of_assigned hfound
    obtain rfl := schema.separated hfits hfits'
    rw [hfound, hconsistent key later assignments name found value hmem' hmem
      hlookup' hlookup]

theorem related_run (hkeeps : ∀ write ∈ writes, write.KeepsKeys schema)
    (hready : ReadyAll schema writes content) {near far : ℕ}
    {relation : Relation} :
    (run schema writes content).related near relation far ↔
      content.related near relation far ∨
        ∃ source target, Write.link source relation target ∈ writes ∧
          near ∈ (run schema writes content).positions schema source ∧
          far ∈ (run schema writes content).positions schema target := by
  induction writes generalizing content with
  | nil => simp [run]
  | cons write writes ih =>
    have hlater : ∀ later ∈ writes, later.KeepsKeys schema :=
      List.forall_mem_of_forall_mem_cons hkeeps
    obtain ⟨hfirst, hrest⟩ := hready
    rw [run_cons, ih hlater hrest]
    cases write with
    | node key assignments =>
      simp only [List.mem_cons, reduceCtorEq, false_or]
      rfl
    | link source other target =>
      have hsource : (run schema writes ((Write.link source other
          target).apply schema content)).positions schema source =
            content.positions schema source :=
        positions_run hlater hfirst.1
      have htarget : (run schema writes ((Write.link source other
          target).apply schema content)).positions schema target =
            content.positions schema target :=
        positions_run hlater hfirst.2
      constructor
      · rintro ((hold | ⟨rfl, hnear, hfar⟩) |
          ⟨first, second, hmem, hnear, hfar⟩)
        · exact .inl hold
        · exact .inr ⟨source, target, List.mem_cons_self,
            hsource.symm ▸ hnear, htarget.symm ▸ hfar⟩
        · exact .inr ⟨first, second, List.mem_cons_of_mem _ hmem, hnear, hfar⟩
      · rintro (hold | ⟨first, second, hmem, hnear, hfar⟩)
        · exact .inl (.inl hold)
        · rcases List.mem_cons.mp hmem with heq | hmem
          · obtain ⟨rfl, rfl, rfl⟩ := Write.link.inj heq
            exact .inl (.inr ⟨rfl, hsource ▸ hnear, htarget ▸ hfar⟩)
          · exact .inr ⟨first, second, hmem, hnear, hfar⟩

omit [DecidableEq Key] in
theorem length_le_apply (write : Write Key Name Value Relation) :
    content.nodes.length ≤ (write.apply schema content).nodes.length := by
  cases write with
  | node key assignments =>
    rw [Write.apply, List.length_map]
    exact length_le_merged
  | link source relation target => exact Nat.le_refl _

section

variable (hkeeps : ∀ write ∈ writes, write.KeepsKeys schema)

include hkeeps

theorem mem_positions_run {key : Key} {index : ℕ}
    (hold : index < content.nodes.length) :
    index ∈ (run schema writes content).positions schema key ↔
      index ∈ content.positions schema key := by
  induction writes generalizing content with
  | nil => exact Iff.rfl
  | cons write writes ih =>
    have hlater : ∀ later ∈ writes, later.KeepsKeys schema :=
      List.forall_mem_of_forall_mem_cons hkeeps
    have hstill : index < (write.apply schema content).nodes.length :=
      Nat.lt_of_lt_of_le hold (length_le_apply write)
    rw [run_cons, ih hlater hstill]
    cases write with
    | link source relation target => exact Iff.rfl
    | node merged assignments =>
      rw [positions_node (hkeeps _ List.mem_cons_self)]
      split
      · rename_i hcreated
        rw [hcreated.1, hcreated.2]
        simp only [List.mem_singleton, List.not_mem_nil, iff_false]
        exact Nat.ne_of_lt hold
      · exact Iff.rfl

theorem getElem?_positions_run {key : Key} {place index : ℕ}
    (hold : index < content.nodes.length) :
    ((run schema writes content).positions schema key)[place]? = some index ↔
      (content.positions schema key)[place]? = some index := by
  constructor
  · intro hindex
    have hmem := (mem_positions_run hkeeps hold).mp
      (List.mem_of_getElem? hindex)
    rwa [positions_run hkeeps (List.ne_nil_of_mem hmem)] at hindex
  · intro hindex
    have hmem := List.mem_of_getElem? hindex
    rwa [positions_run hkeeps (List.ne_nil_of_mem hmem)]

theorem linked_run (hready : ReadyAll schema writes content)
    {source target : Key} {place other : ℕ} {relation : Relation} :
    (run schema writes content).linked schema source place relation target
        other ↔
      content.linked schema source place relation target other ∨
        (Write.link source relation target ∈ writes ∧
          place < ((run schema writes content).positions schema
            source).length ∧
          other < ((run schema writes content).positions schema
            target).length) := by
  constructor
  · rintro ⟨near, far, hnear, hfar, hrelated⟩
    rcases (related_run hkeeps hready).mp hrelated with
      hold | ⟨first, second, hmem, hfirst, hsecond⟩
    · have hends := content.closed hold
      exact .inl ⟨near, far, (getElem?_positions_run hkeeps hends.1).mp hnear,
        (getElem?_positions_run hkeeps hends.2).mp hfar, hold⟩
    · right
      obtain rfl := key_eq_of_mem_positions hfirst
        (List.mem_of_getElem? hnear)
      obtain rfl := key_eq_of_mem_positions hsecond
        (List.mem_of_getElem? hfar)
      obtain ⟨hplace, _⟩ := List.getElem?_eq_some_iff.mp hnear
      obtain ⟨hother, _⟩ := List.getElem?_eq_some_iff.mp hfar
      exact ⟨hmem, hplace, hother⟩
  · rintro (⟨near, far, hnear, hfar, hrelated⟩ | ⟨hmem, hplace, hother⟩)
    · have hends := content.closed hrelated
      exact ⟨near, far, (getElem?_positions_run hkeeps hends.1).mpr hnear,
        (getElem?_positions_run hkeeps hends.2).mpr hfar,
        (related_run hkeeps hready).mpr (.inl hrelated)⟩
    · have hnear := List.getElem?_eq_getElem hplace
      have hfar := List.getElem?_eq_getElem hother
      exact ⟨_, _, hnear, hfar, (related_run hkeeps hready).mpr (.inr
        ⟨source, target, hmem, List.mem_of_getElem? hnear,
          List.mem_of_getElem? hfar⟩)⟩

end

omit [DecidableEq Key] [DecidableEq Label] [DecidableEq Value] in
theorem Consistent.congr (hsame : ∀ write, write ∈ writes ↔ write ∈ others)
    (hconsistent : Consistent writes) : Consistent others := by
  intro key first second name value other hfirst hsecond
  exact hconsistent key first second name value other
    ((hsame _).mpr hfirst) ((hsame _).mpr hsecond)

omit [DecidableEq Key] in
theorem reviseAll_congr (hsame : ∀ write, write ∈ writes ↔ write ∈ others)
    (hkeeps : ∀ write ∈ writes, write.KeepsKeys schema)
    (hconsistent : Consistent writes) :
    reviseAll schema writes = reviseAll schema others := by
  have hkeeps' : ∀ write ∈ others, write.KeepsKeys schema :=
    fun write hmem => hkeeps write ((hsame write).mpr hmem)
  funext node
  apply Node.ext
  · rw [label_reviseAll, label_reviseAll]
  · funext name
    have hassigned : assigned schema writes node name =
        assigned schema others node name := by
      apply Option.ext
      intro value
      rw [assigned_eq_some_iff hconsistent,
        assigned_eq_some_iff (hconsistent.congr hsame)]
      simp only [hsame]
    rw [properties_reviseAll hkeeps, properties_reviseAll hkeeps', hassigned]

/-- Consistent writes leave the same behind in any order, however often each
of them is run. -/
theorem alike_run (hsame : ∀ write, write ∈ writes ↔ write ∈ others)
    (hkeeps : ∀ write ∈ writes, write.KeepsKeys schema)
    (hconsistent : Consistent writes)
    (hready : ReadyAll schema writes content)
    (hready' : ReadyAll schema others content) :
    Alike schema (run schema writes content) (run schema others content) := by
  have hkeeps' : ∀ write ∈ others, write.KeepsKeys schema :=
    fun write hmem => hkeeps write ((hsame write).mpr hmem)
  have hnodes : ∀ key, (run schema writes content).nodesOf schema key =
      (run schema others content).nodesOf schema key := by
    intro key
    have hmerges : writes.any (Write.merges key) =
        others.any (Write.merges key) := by
      rw [Bool.eq_iff_iff, any_merges_iff, any_merges_iff]
      simp only [hsame]
    rw [nodesOf_run hkeeps, nodesOf_run hkeeps',
      reviseAll_congr hsame hkeeps hconsistent, started, started, hmerges]
  apply Alike.mk hnodes
  intro source place relation target other
  rw [linked_run hkeeps hready, linked_run hkeeps' hready', hsame,
    length_positions, length_positions, length_positions, length_positions,
    hnodes, hnodes]

end ComplyTime.Merging
