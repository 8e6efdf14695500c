import Mathlib.Data.Finset.Basic
import Mathlib.Data.Finset.Dedup
import Mathlib.Data.List.AList
import Mathlib.Data.Nat.Init

/-!
# Cedar policy sets

A policy permits or forbids the queries in its scope that satisfy its
condition; a condition that cannot be evaluated does not count.  A query is
allowed when some permit is satisfied and no forbid is.  Policy sets are keyed
by policy identifiers: a parsed document names its policies by their positions,
and adding a policy replaces the one that bears the same identifier.

The first half is about policies over an arbitrary type of queries.  The second
half is the fragment of the condition language that reads attributes of the
principal, the resource and the context.
-/

namespace ComplyTime.Cedar

inductive Effect
  | permit
  | forbid
  deriving DecidableEq, Repr

inductive Decision
  | allow
  | deny
  deriving DecidableEq, Repr

/-- `condition` is `none` on the queries where evaluation fails. -/
structure Policy (Query : Type*) where
  effect : Effect
  applies : Query → Bool
  condition : Query → Option Bool

section Authorization

variable {Query : Type*}

def Policy.satisfied (policy : Policy Query) (query : Query) : Bool :=
  policy.applies query && policy.condition query == some true

def fires (effect : Effect) (policies : List (Policy Query))
    (query : Query) : Bool :=
  policies.any fun policy => policy.effect == effect && policy.satisfied query

def authorize (policies : List (Policy Query)) (query : Query) : Decision :=
  if fires .forbid policies query then .deny
  else if fires .permit policies query then .allow
  else .deny

variable {policies : List (Policy Query)} {policy : Policy Query}
  {query : Query}

theorem fires_iff {effect : Effect} :
    fires effect policies query = true ↔
      ∃ policy ∈ policies,
        policy.effect = effect ∧ policy.satisfied query = true := by
  simp [fires]

theorem authorize_eq_allow_iff :
    authorize policies query = .allow ↔
      fires .forbid policies query = false ∧
        fires .permit policies query = true := by
  unfold authorize
  cases fires .forbid policies query <;>
    cases fires .permit policies query <;> simp

/-- One satisfied forbid settles the decision. -/
theorem authorize_eq_deny_of_forbid (hmem : policy ∈ policies)
    (heffect : policy.effect = .forbid)
    (hsatisfied : policy.satisfied query = true) :
    authorize policies query = .deny := by
  have hfires : fires .forbid policies query = true :=
    fires_iff.mpr ⟨policy, hmem, heffect, hsatisfied⟩
  simp [authorize, hfires]

theorem authorize_congr {policies others : List (Policy Query)}
    (hsame : ∀ policy, policy ∈ policies ↔ policy ∈ others) (query : Query) :
    authorize policies query = authorize others query := by
  have hfires : ∀ effect,
      fires effect policies query = fires effect others query := by
    intro effect
    rw [Bool.eq_iff_iff, fires_iff, fires_iff]
    simp only [hsame]
  simp only [authorize, hfires]

end Authorization

/-! ## Policy sets -/

section PolicySets

variable {Query : Type*}

abbrev NamedPolicy (Query : Type*) := Sigma fun _ : String => Policy Query

abbrev PolicySet (Query : Type*) := AList fun _ : String => Policy Query

def PolicySet.policies (policySet : PolicySet Query) : List (Policy Query) :=
  policySet.entries.map Sigma.snd

variable {policySet : PolicySet Query} {document : List (Policy Query)}
  {policy : Policy Query}

theorem mem_policies_iff :
    policy ∈ PolicySet.policies policySet ↔
      ∃ id, policySet.lookup id = some policy := by
  constructor
  · intro hmem
    obtain ⟨⟨id, named⟩, hentry, rfl⟩ := List.mem_map.mp hmem
    exact ⟨id, AList.mem_lookup_iff.mpr hentry⟩
  · rintro ⟨id, hlookup⟩
    exact List.mem_map.mpr
      ⟨⟨id, policy⟩, AList.mem_lookup_iff.mp hlookup, rfl⟩

/-- `PolicySet.Add` for each of the named policies in turn. -/
def addAll (policySet : PolicySet Query) (named : List (NamedPolicy Query)) :
    PolicySet Query :=
  named.foldl (fun added entry => added.insert entry.1 entry.2) policySet

theorem lookup_addAll (policySet : PolicySet Query)
    {named : List (NamedPolicy Query)} (hnodup : named.NodupKeys)
    (id : String) :
    (addAll policySet named).lookup id =
      (named.dlookup id).or (policySet.lookup id) := by
  induction named generalizing policySet with
  | nil => simp [addAll]
  | cons entry named ih =>
    obtain ⟨hfresh, hnodup⟩ := List.nodupKeys_cons.mp hnodup
    change (addAll (policySet.insert entry.1 entry.2) named).lookup id = _
    rw [ih _ hnodup]
    by_cases hid : id = entry.1
    · subst hid
      have hnone : named.dlookup entry.1 = none :=
        List.dlookup_eq_none.mpr hfresh
      rw [hnone, AList.lookup_insert, List.dlookup_cons_eq]
      rfl
    · rw [AList.lookup_insert_ne hid, List.dlookup_cons_ne _ _ hid]

/-- The identifier of the policy at a position of a document. -/
def policyID (position : ℕ) : String := "policy" ++ toString position

theorem policyID_injective : Function.Injective policyID := by
  intro left right heq
  have hlists := congrArg String.toList heq
  rw [policyID, policyID, String.toList_append, String.toList_append] at hlists
  have hdigits : Nat.toDigits 10 left = Nat.toDigits 10 right := by
    simpa only [Nat.toString_eq_ofList_toDigits, String.toList_ofList] using
      List.append_cancel_left hlists
  have hvalues := congrArg (fun digits => Nat.ofDigitChars 10 digits 0) hdigits
  simpa only [Nat.ofDigitChars_ten_toDigits] using hvalues

def numberFrom (position : ℕ) : List (Policy Query) → List (NamedPolicy Query)
  | [] => []
  | policy :: document =>
    ⟨policyID position, policy⟩ :: numberFrom (position + 1) document

theorem mem_numberFrom {position : ℕ} {entry : NamedPolicy Query} :
    entry ∈ numberFrom position document ↔
      ∃ offset policy, document[offset]? = some policy ∧
        entry = ⟨policyID (position + offset), policy⟩ := by
  induction document generalizing position with
  | nil => simp [numberFrom]
  | cons policy document ih =>
    rw [numberFrom, List.mem_cons, ih]
    constructor
    · rintro (rfl | ⟨offset, later, hlater, rfl⟩)
      · exact ⟨0, policy, rfl, rfl⟩
      · refine ⟨offset + 1, later, hlater, ?_⟩
        rw [Nat.add_assoc, Nat.add_comm 1]
    · rintro ⟨offset, later, hlater, rfl⟩
      cases offset with
      | zero =>
        obtain rfl := Option.some.inj hlater
        exact .inl rfl
      | succ offset =>
        refine .inr ⟨offset, later, hlater, ?_⟩
        rw [Nat.add_assoc, Nat.add_comm 1]

theorem nodupKeys_numberFrom (position : ℕ)
    (document : List (Policy Query)) :
    (numberFrom position document).NodupKeys := by
  induction document generalizing position with
  | nil => simp [numberFrom]
  | cons policy document ih =>
    rw [numberFrom, List.nodupKeys_cons]
    refine ⟨?_, ih (position + 1)⟩
    intro hkey
    obtain ⟨later, hmem⟩ := List.exists_of_mem_keys hkey
    obtain ⟨offset, _, _, heq⟩ := mem_numberFrom.mp hmem
    have := policyID_injective (congrArg Sigma.fst heq)
    omega

/-- `NewPolicySetFromBytes` of a document that parses. -/
def ofDocument (document : List (Policy Query)) : PolicySet Query :=
  ⟨numberFrom 0 document, nodupKeys_numberFrom 0 document⟩

theorem map_snd_numberFrom (position : ℕ) (document : List (Policy Query)) :
    (numberFrom position document).map Sigma.snd = document := by
  induction document generalizing position with
  | nil => rfl
  | cons policy document ih => rw [numberFrom, List.map_cons, ih]

@[simp]
theorem policies_ofDocument (document : List (Policy Query)) :
    PolicySet.policies (ofDocument document) = document :=
  map_snd_numberFrom 0 document

theorem lookup_ofDocument_eq_some {id : String} :
    (ofDocument document).lookup id = some policy ↔
      ∃ position, id = policyID position ∧
        document[position]? = some policy := by
  rw [← Option.mem_def, AList.mem_lookup_iff]
  change _ ∈ numberFrom 0 document ↔ _
  rw [mem_numberFrom]
  constructor
  · rintro ⟨offset, found, hfound, heq⟩
    rw [Nat.zero_add] at heq
    obtain ⟨rfl, hpolicy⟩ := Sigma.mk.inj heq
    obtain rfl := eq_of_heq hpolicy
    exact ⟨offset, rfl, hfound⟩
  · rintro ⟨position, rfl, hposition⟩
    exact ⟨position, policy, hposition, by rw [Nat.zero_add]⟩

theorem lookup_ofDocument (document : List (Policy Query)) (position : ℕ) :
    (ofDocument document).lookup (policyID position) = document[position]? := by
  ext policy
  rw [lookup_ofDocument_eq_some]
  constructor
  · rintro ⟨other, hid, hother⟩
    rwa [policyID_injective hid]
  · intro hposition
    exact ⟨position, rfl, hposition⟩

/-- The order in which a policy set is iterated over: some order of its
entries. -/
abbrev IterationOrder (Query : Type*) :=
  { order : PolicySet Query → List (NamedPolicy Query) //
    ∀ policySet, (order policySet).Perm policySet.entries }

/-- Iteration in the order of the entries. -/
def entryOrder : IterationOrder Query :=
  ⟨fun policySet => policySet.entries, fun _ => List.Perm.refl _⟩

/-- Policies of the document replace those at the same positions; the order of
iteration does not matter. -/
theorem lookup_addAll_ofDocument (order : IterationOrder Query)
    (policySet : PolicySet Query) (document : List (Policy Query))
    (id : String) :
    (addAll policySet (order.1 (ofDocument document))).lookup id =
      ((ofDocument document).lookup id).or (policySet.lookup id) := by
  have hperm := order.2 (ofDocument document)
  have hnodup : (order.1 (ofDocument document)).NodupKeys :=
    (List.perm_nodupKeys hperm).mpr (ofDocument document).nodupKeys
  rw [lookup_addAll policySet hnodup, List.perm_dlookup id hnodup hperm]
  rfl

end PolicySets

/-! ## Merging documents -/

section Merging

variable {Query : Type*} (order : IterationOrder Query)

def mergeDocuments (policySet : PolicySet Query)
    (documents : List (List (Policy Query))) : PolicySet Query :=
  documents.foldl
    (fun merged document => addAll merged (order.1 (ofDocument document)))
    policySet

/-- Some document has the policy at a position that no later document
reaches. -/
def Retained (documents : List (List (Policy Query)))
    (policy : Policy Query) : Prop :=
  ∃ earlier document later position,
    documents = earlier ++ document :: later ∧
      document[position]? = some policy ∧
      ∀ other ∈ later, other.length ≤ position

variable {policySet : PolicySet Query} {document : List (Policy Query)}
  {documents : List (List (Policy Query))} {policy : Policy Query}

theorem retained_cons :
    Retained (document :: documents) policy ↔
      Retained documents policy ∨
        ∃ position : ℕ, document[position]? = some policy ∧
          ∀ other ∈ documents, other.length ≤ position := by
  constructor
  · rintro ⟨earlier, found, later, position, hsplit, hfound, hlater⟩
    cases earlier with
    | nil =>
      obtain ⟨rfl, rfl⟩ := List.cons.inj hsplit
      exact .inr ⟨position, hfound, hlater⟩
    | cons first earlier =>
      obtain ⟨rfl, hrest⟩ := List.cons.inj hsplit
      exact .inl ⟨earlier, found, later, position, hrest, hfound, hlater⟩
  · rintro (⟨earlier, found, later, position, rfl, hfound, hlater⟩ |
      ⟨position, hfound, hlater⟩)
    · exact ⟨document :: earlier, found, later, position, rfl, hfound, hlater⟩
    · exact ⟨[], document, documents, position, rfl, hfound, hlater⟩

/-- A merged set holds a policy of its starting set whose identifier no
document uses, or a policy that a document retains. -/
theorem mem_policies_mergeDocuments :
    policy ∈ PolicySet.policies (mergeDocuments order policySet documents) ↔
      (∃ id, policySet.lookup id = some policy ∧
        ∀ document ∈ documents, (ofDocument document).lookup id = none) ∨
      Retained documents policy := by
  induction documents generalizing policySet with
  | nil => simp [mergeDocuments, mem_policies_iff, Retained]
  | cons document documents ih =>
    change _ ∈ PolicySet.policies
      (mergeDocuments order (addAll policySet _) documents) ↔ _
    rw [ih, retained_cons]
    simp only [lookup_addAll_ofDocument, Option.or_eq_some_iff]
    constructor
    · rintro (⟨id, hid | ⟨hnone, hid⟩, hunused⟩ | hretained)
      · obtain ⟨position, rfl, hposition⟩ := lookup_ofDocument_eq_some.mp hid
        refine .inr (.inr ⟨position, hposition, ?_⟩)
        intro other hother
        have hlookup := hunused other hother
        rwa [lookup_ofDocument, List.getElem?_eq_none_iff] at hlookup
      · refine .inl ⟨id, hid, ?_⟩
        intro other hother
        rcases List.mem_cons.mp hother with rfl | hlater
        · exact hnone
        · exact hunused other hlater
      · exact .inr (.inl hretained)
    · rintro (⟨id, hid, hunused⟩ | hretained | ⟨position, hposition, hshort⟩)
      · refine .inl ⟨id, .inr ⟨hunused _ (by simp), hid⟩, ?_⟩
        intro other hother
        exact hunused other (List.mem_cons_of_mem _ hother)
      · exact .inr hretained
      · refine .inl ⟨policyID position, .inl ?_, ?_⟩
        · rw [lookup_ofDocument, hposition]
        · intro other hother
          rw [lookup_ofDocument, List.getElem?_eq_none_iff]
          exact hshort other hother

theorem mem_policies_mergeDocuments_ofDocument :
    policy ∈ PolicySet.policies
        (mergeDocuments order (ofDocument document) documents) ↔
      Retained (document :: documents) policy := by
  rw [mem_policies_mergeDocuments, retained_cons, or_comm]
  constructor
  · rintro (hretained | ⟨id, hid, hunused⟩)
    · exact .inl hretained
    · obtain ⟨position, rfl, hposition⟩ := lookup_ofDocument_eq_some.mp hid
      refine .inr ⟨position, hposition, ?_⟩
      intro other hother
      have hlookup := hunused other hother
      rwa [lookup_ofDocument, List.getElem?_eq_none_iff] at hlookup
  · rintro (hretained | ⟨position, hposition, hshort⟩)
    · exact .inl hretained
    · refine .inr ⟨policyID position, ?_, ?_⟩
      · rw [lookup_ofDocument, hposition]
      · intro other hother
        rw [lookup_ofDocument, List.getElem?_eq_none_iff]
        exact hshort other hother

theorem Retained.mem_flatten (hretained : Retained documents policy) :
    policy ∈ documents.flatten := by
  obtain ⟨earlier, document, later, position, rfl, hposition, _⟩ := hretained
  rw [List.mem_flatten]
  exact ⟨document, by simp, List.mem_of_getElem? hposition⟩

end Merging

/-! ## Conditions over attributes -/

structure EntityUID where
  entityType : String
  id : String
  deriving DecidableEq, Repr

inductive Value
  | boolean (value : Bool)
  | string (value : String)
  | set (elements : Finset String)
  deriving DecidableEq

abbrev Record := String → Option Value

/-- An authorization request together with the entities it is about. -/
structure Request where
  principal : EntityUID
  action : EntityUID
  resource : EntityUID
  context : Record
  entities : EntityUID → Option Record

inductive Variable
  | principal
  | resource
  | context
  deriving DecidableEq

inductive Expr
  | literal (value : Value)
  | attribute (subject : Variable) (name : String)
  | equal (left right : Expr)
  | contains (collection element : Expr)
  | and (left right : Expr)
  | or (left right : Expr)

def Request.record (request : Request) : Variable → Option Record
  | .principal => request.entities request.principal
  | .resource => request.entities request.resource
  | .context => some request.context

/-- `none` is an evaluation error: a missing entity or attribute, or an operand
of the wrong type.  The right operand of a connective is evaluated only when
the left one does not settle it. -/
def Expr.eval (request : Request) : Expr → Option Value
  | .literal value => some value
  | .attribute subject name =>
    (request.record subject).bind fun record => record name
  | .equal left right =>
    (left.eval request).bind fun first =>
      (right.eval request).map fun second => .boolean (first = second)
  | .contains collection element =>
    match collection.eval request, element.eval request with
    | some (.set elements), some (.string value) =>
      some (.boolean (value ∈ elements))
    | some (.set _), some _ => some (.boolean false)
    | _, _ => none
  | .and left right =>
    match left.eval request with
    | some (.boolean false) => some (.boolean false)
    | some (.boolean true) =>
      match right.eval request with
      | some (.boolean value) => some (.boolean value)
      | _ => none
    | _ => none
  | .or left right =>
    match left.eval request with
    | some (.boolean true) => some (.boolean true)
    | some (.boolean false) =>
      match right.eval request with
      | some (.boolean value) => some (.boolean value)
      | _ => none
    | _ => none

/-- The truth value of a condition, `none` when it has none. -/
def Expr.holds (condition : Expr) (request : Request) : Option Bool :=
  match condition.eval request with
  | some (.boolean value) => some value
  | _ => none

/-- `permit (principal, action == …, resource) when { … }`. -/
def permitWhen (action : EntityUID) (condition : Expr) : Policy Request where
  effect := .permit
  applies := fun request => decide (request.action = action)
  condition := condition.holds

/-- `forbid (principal, action == …, resource) unless { … }`. -/
def forbidUnless (action : EntityUID) (condition : Expr) :
    Policy Request where
  effect := .forbid
  applies := fun request => decide (request.action = action)
  condition := fun request => (condition.holds request).map Bool.not

variable {action : EntityUID} {condition : Expr} {request : Request}

theorem satisfied_permitWhen :
    (permitWhen action condition).satisfied request = true ↔
      request.action = action ∧ condition.holds request = some true := by
  simp [Policy.satisfied, permitWhen]

theorem satisfied_forbidUnless :
    (forbidUnless action condition).satisfied request = true ↔
      request.action = action ∧ condition.holds request = some false := by
  simp [Policy.satisfied, forbidUnless]

/-- The condition `subject.name == true`. -/
def isTrue (subject : Variable) (name : String) : Expr :=
  .equal (.attribute subject name) (.literal (.boolean true))

theorem holds_isTrue {subject : Variable} {name : String} {record : Record}
    {value : Value}
    (hrecord : request.record subject = some record)
    (hvalue : record name = some value) :
    (isTrue subject name).holds request =
      some (decide (value = .boolean true)) := by
  simp [Expr.holds, isTrue, Expr.eval, hrecord, hvalue]

theorem holds_contains {collection element : Expr} {elements : Finset String}
    {value : String}
    (hcollection : collection.eval request = some (.set elements))
    (helement : element.eval request = some (.string value)) :
    (Expr.contains collection element).holds request =
      some (decide (value ∈ elements)) := by
  simp [Expr.holds, Expr.eval, hcollection, helement]

theorem eval_of_holds {value : Bool}
    (hholds : condition.holds request = some value) :
    condition.eval request = some (.boolean value) := by
  unfold Expr.holds at hholds
  split at hholds
  · rename_i result hresult
    rw [hresult, Option.some.inj hholds]
  · cases hholds

section

variable {left right : Expr} {first second : Bool}
  (hleft : left.holds request = some first)
  (hright : right.holds request = some second)

include hleft hright

theorem holds_and :
    (Expr.and left right).holds request = some (first && second) := by
  have hfirst := eval_of_holds hleft
  have hsecond := eval_of_holds hright
  cases first <;> simp [Expr.holds, Expr.eval, hfirst, hsecond]

theorem holds_or :
    (Expr.or left right).holds request = some (first || second) := by
  have hfirst := eval_of_holds hleft
  have hsecond := eval_of_holds hright
  cases first <;> simp [Expr.holds, Expr.eval, hfirst, hsecond]

end

end ComplyTime.Cedar
