import Mathlib.Tactic.Common

/-!
# Go error values

Callers of the three services branch on errors in two ways: by the identity or
dynamic type of the error value itself, and by the text they put into an HTTP
or NATS reply.  The embedding keeps both: an error is one of the base values
the code compares against, or a base value under a chain of `fmt.Errorf`
wrappings, each with the text around its `%w` verb.
-/

namespace ComplyTime

inductive GoError
  /-- `errors.New` and `fmt.Errorf` without `%w`. -/
  | message (content : String)
  /-- `context.Canceled`. -/
  | canceled
  /-- `*json.SyntaxError`. -/
  | jsonSyntax (content : String)
  /-- `*json.UnmarshalTypeError`. -/
  | jsonType (content : String)
  /-- `locker.ErrLedgerExists`. -/
  | ledgerExists
  /-- `locker.ErrIndexOutOfRange`. -/
  | indexOutOfRange
  /-- `*locker.LedgerNotFoundError`. -/
  | ledgerNotFound (subjectID : String)
  /-- `jetstream.ErrKeyNotFound`. -/
  | keyNotFound
  /-- `jetstream.ErrKeyExists`. -/
  | keyExists
  /-- `fmt.Errorf` with one `%w` verb between two pieces of text. -/
  | wrap (before : String) (cause : GoError) (after : String)
  deriving DecidableEq, Repr

/-- The text `Error()` returns. -/
def GoError.error : GoError → String
  | .message content => content
  | .canceled => "context canceled"
  | .jsonSyntax content => content
  | .jsonType content => content
  | .ledgerExists => "ledger already exists"
  | .indexOutOfRange => "index out of range"
  | .ledgerNotFound subjectID => "ledger not found for subject: " ++ subjectID
  | .keyNotFound => "nats: key not found"
  | .keyExists => "nats: key exists"
  | .wrap before cause after => before ++ cause.error ++ after

/-- `fmt.Errorf(context + ": %w", cause)`. -/
def GoError.within (context : String) (cause : GoError) : GoError :=
  .wrap (context ++ ": ") cause ""

/-- `errors.Is(err, jetstream.ErrKeyNotFound)`: the sentinel anywhere in the
chain. -/
def GoError.isKeyNotFound : GoError → Bool
  | .keyNotFound => true
  | .wrap _ cause _ => cause.isKeyNotFound
  | _ => false

theorem map_eq_ok {Err α β : Type*} {result : Except Err α} {f : α → β}
    {value : β} (hmap : result.map f = .ok value) :
    ∃ found, result = .ok found ∧ f found = value := by
  cases result with
  | error err => cases hmap
  | ok found => exact ⟨found, rfl, Except.ok.inj hmap⟩

theorem mapError_eq_ok {Err Err' α : Type*} {f : Err → Err'}
    {result : Except Err α} {value : α} :
    result.mapError f = .ok value ↔ result = .ok value := by
  cases result <;> simp [Except.mapError]

section Loops

variable {Err α β : Type} {result : Except Err α} {next : α → Except Err β}
  {value : β} {found : α} {build : α → Except Err β} {items : List α}
  {built : List β}

theorem bind_eq_ok (hbind : (result >>= next) = .ok value) :
    ∃ found, result = .ok found ∧ next found = .ok value := by
  cases result with
  | error err => cases hbind
  | ok found => exact ⟨found, rfl, hbind⟩

theorem bind_of_eq_ok (hresult : result = .ok found) :
    (result >>= next) = next found := by
  rw [hresult]
  rfl

theorem exists_bind_eq_ok (hresult : ∃ found, result = .ok found)
    (hnext : ∀ found, ∃ value, next found = .ok value) :
    ∃ value, (result >>= next) = .ok value := by
  obtain ⟨found, rfl⟩ := hresult
  exact hnext found

theorem mapM_cons_eq_ok {first : α}
    (hbuilt : (first :: items).mapM build = .ok built) :
    ∃ value values, build first = .ok value ∧
      items.mapM build = .ok values ∧ built = value :: values := by
  rw [List.mapM_cons] at hbuilt
  obtain ⟨value, hvalue, hrest⟩ := bind_eq_ok hbuilt
  obtain ⟨values, hvalues, hpure⟩ := bind_eq_ok hrest
  exact ⟨value, values, hvalue, hvalues, (Except.ok.inj hpure).symm⟩

theorem mapM_eq_ok_mem (hbuilt : items.mapM build = .ok built) {item : α}
    (hmem : item ∈ items) : ∃ value ∈ built, build item = .ok value := by
  induction items generalizing built with
  | nil => cases hmem
  | cons first items ih =>
    obtain ⟨value, values, hvalue, hvalues, rfl⟩ := mapM_cons_eq_ok hbuilt
    rcases List.mem_cons.mp hmem with rfl | hmem
    · exact ⟨value, List.mem_cons_self, hvalue⟩
    · obtain ⟨found, hfound, heq⟩ := ih hvalues hmem
      exact ⟨found, List.mem_cons_of_mem _ hfound, heq⟩

theorem exists_of_mem_mapM (hbuilt : items.mapM build = .ok built)
    (hmem : value ∈ built) : ∃ item ∈ items, build item = .ok value := by
  induction items generalizing built with
  | nil =>
    obtain rfl := Except.ok.inj hbuilt
    cases hmem
  | cons first items ih =>
    obtain ⟨found, values, hfound, hvalues, rfl⟩ := mapM_cons_eq_ok hbuilt
    rcases List.mem_cons.mp hmem with rfl | hmem
    · exact ⟨first, List.mem_cons_self, hfound⟩
    · obtain ⟨item, hitem, heq⟩ := ih hvalues hmem
      exact ⟨item, List.mem_cons_of_mem _ hitem, heq⟩

theorem map_of_mapM {γ : Type} {ofItem : α → γ} {ofValue : β → γ}
    (hbuild : ∀ {item value}, build item = .ok value →
      ofValue value = ofItem item) (hbuilt : items.mapM build = .ok built) :
    built.map ofValue = items.map ofItem := by
  induction items generalizing built with
  | nil =>
    obtain rfl := Except.ok.inj hbuilt
    rfl
  | cons first items ih =>
    obtain ⟨value, values, hvalue, hvalues, rfl⟩ := mapM_cons_eq_ok hbuilt
    rw [List.map_cons, List.map_cons, hbuild hvalue, ih hvalues]

theorem exists_mapM_eq_ok
    (hbuild : ∀ item ∈ items, ∃ value, build item = .ok value) :
    ∃ built, items.mapM build = .ok built := by
  induction items with
  | nil => exact ⟨[], rfl⟩
  | cons first items ih =>
    obtain ⟨value, hvalue⟩ := hbuild first List.mem_cons_self
    obtain ⟨built, hbuilt⟩ := ih fun item hitem =>
      hbuild item (List.mem_cons_of_mem _ hitem)
    refine ⟨value :: built, ?_⟩
    rw [List.mapM_cons, hvalue, hbuilt]
    rfl

theorem forM_eq_ok_mem {check : α → Except Err Unit}
    (hchecked : items.forM check = .ok ()) {item : α} (hmem : item ∈ items) :
    check item = .ok () := by
  induction items with
  | nil => cases hmem
  | cons first items ih =>
    obtain ⟨value, hvalue, hrest⟩ := bind_eq_ok hchecked
    rcases List.mem_cons.mp hmem with rfl | hmem
    · exact hvalue
    · exact ih hrest hmem

theorem filterMapM_eq_ok {build : α → Except Err (Option β)}
    {value : α → Option β}
    (hbuild : ∀ item ∈ items, build item = .ok (value item)) :
    items.filterMapM build = .ok (items.filterMap value) := by
  have hloop : ∀ kept : List β, List.filterMapM.loop build items kept =
      .ok (kept.reverse ++ items.filterMap value) := by
    induction items with
    | nil =>
      intro kept
      rw [List.filterMap_nil, List.append_nil]
      rfl
    | cons item items ih =>
      intro kept
      have hitem := hbuild item List.mem_cons_self
      have hrest := ih fun other hother =>
        hbuild other (List.mem_cons_of_mem _ hother)
      rw [List.filterMapM.loop, hitem]
      cases hvalue : value item with
      | none =>
        rw [List.filterMap_cons_none hvalue, ← hrest kept]
        rfl
      | some built =>
        have hstep := hrest (built :: kept)
        rw [List.reverse_cons, List.append_assoc] at hstep
        rw [List.filterMap_cons_some hvalue]
        exact hstep
  exact hloop []

end Loops

end ComplyTime
