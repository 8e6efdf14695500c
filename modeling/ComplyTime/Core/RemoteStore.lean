import Mathlib.Tactic.Common

/-!
# Programs over a store behind a network

A program calls a store whose replies it cannot rely on: a write may be
refused, or carried out and its reply lost.  The replies still to come are part
of the world, so a run is determined by them.  A failed call ends the program,
with the store as the calls before have left it; a panic ends it as well, and no
handler turns it into an error.  Triples relate the store before a run to the
store after it, however it ends.
-/

namespace ComplyTime.RemoteStore

variable {Store Err α β : Type}

/-- How the store answers one write. -/
inductive Reply (Err : Type)
  | performed
  | lost (err : Err)
  | refused (err : Err)
  deriving DecidableEq, Repr

/-- Why a program has ended without a result. -/
inductive Failure (Err : Type)
  | error (err : Err)
  | panic (text : String)
  deriving DecidableEq, Repr

/-- The store and the replies to the next writes; later writes succeed. -/
structure World (Store Err : Type) where
  store : Store
  replies : List (Reply Err)

abbrev Program (Store Err α : Type) :=
  ExceptT (Failure Err) (StateM (World Store Err)) α

def exec (program : Program Store Err α) (world : World Store Err) :
    Except (Failure Err) α × World Store Err :=
  program.run.run world

/-- A call that changes the store. -/
def write (update : Store → Store) : Program Store Err Unit :=
  fun world =>
    match world.replies with
    | [] => (.ok (), ⟨update world.store, []⟩)
    | .performed :: rest => (.ok (), ⟨update world.store, rest⟩)
    | .lost err :: rest => (.error (.error err), ⟨update world.store, rest⟩)
    | .refused err :: rest => (.error (.error err), ⟨world.store, rest⟩)

/-- A call that reads the store, and what the program makes of its answer. -/
def read (answer : Store → Except (Failure Err) α) : Program Store Err α :=
  fun world => (answer world.store, world)

/-- Change the error a program ends with. -/
def mapError (change : Err → Err) (program : Program Store Err α) :
    Program Store Err α :=
  fun world =>
    match exec program world with
    | (.error (.error err), next) => (.error (.error (change err)), next)
    | ended => ended

/-- Go on after an error, but not after a panic. -/
def attempt (program : Program Store Err α) :
    Program Store Err (Except Err α) :=
  fun world =>
    match exec program world with
    | (.ok value, next) => (.ok (.ok value), next)
    | (.error (.error err), next) => (.ok (.error err), next)
    | (.error (.panic text), next) => (.error (.panic text), next)

/-- A result computed without the store. -/
def compute (result : Except (Failure Err) α) : Program Store Err α :=
  fun world => (result, world)

theorem exec_bind (program : Program Store Err α)
    (rest : α → Program Store Err β) (world : World Store Err) :
    exec (program >>= rest) world =
      match exec program world with
      | (.ok value, next) => exec (rest value) next
      | (.error failure, next) => (.error failure, next) := by
  simp only [exec, ExceptT.run_bind, StateT.run_bind]
  rcases program.run.run world with ⟨result, next⟩
  cases result <;> rfl

theorem exec_read (answer : Store → Except (Failure Err) α)
    (world : World Store Err) :
    exec (read answer) world = (answer world.store, world) := rfl

theorem exec_mapError (change : Err → Err) (program : Program Store Err α)
    (world : World Store Err) :
    exec (mapError change program) world =
      match exec program world with
      | (.error (.error err), next) => (.error (.error (change err)), next)
      | ended => ended := rfl

theorem exec_attempt (program : Program Store Err α)
    (world : World Store Err) :
    exec (attempt program) world =
      match exec program world with
      | (.ok value, next) => (.ok (.ok value), next)
      | (.error (.error err), next) => (.ok (.error err), next)
      | (.error (.panic text), next) => (.error (.panic text), next) := rfl

/-! ## Triples -/

/-- Started where `pre` holds, the program returns a value where `post` holds
or fails where `failed` holds. -/
def Triple (pre : Store → Prop) (program : Program Store Err α)
    (post : α → Store → Prop) (failed : Store → Prop) : Prop :=
  ∀ world, pre world.store →
    match exec program world with
    | (.ok value, next) => post value next.store
    | (.error _, next) => failed next.store

variable {pre failed : Store → Prop} {post middle : α → Store → Prop}
  {last : β → Store → Prop} {program : Program Store Err α}
  {rest : α → Program Store Err β} {result : Except (Failure Err) α}
  {change : Err → Err} {Round : Type} {rounds : List Round}
  {body : Round → Program Store Err PUnit}

theorem Triple.pure {value : α} (hpost : ∀ store, pre store → post value store) :
    Triple pre (Pure.pure value : Program Store Err α) post failed :=
  fun world hpre => hpost world.store hpre

theorem Triple.bind (hfirst : Triple pre program middle failed)
    (hrest : ∀ value, Triple (middle value) (rest value) last failed) :
    Triple pre (program >>= rest) last failed := by
  intro world hpre
  have hended := hfirst world hpre
  rw [exec_bind]
  rcases hrun : exec program world with ⟨result, next⟩
  rw [hrun] at hended
  cases result with
  | error failure => exact hended
  | ok value => exact hrest value next hended

theorem Triple.compute (hpost : ∀ value, result = .ok value →
      ∀ store, pre store → post value store)
    (hfailed : ∀ store, pre store → failed store) :
    Triple pre (compute result) post failed := by
  intro world hpre
  cases hresult : result with
  | error failure => exact hfailed world.store hpre
  | ok value => exact hpost value hresult world.store hpre

theorem Triple.write {update : Store → Store} {post : Unit → Store → Prop}
    (hpost : ∀ store, pre store → post () (update store))
    (hlost : ∀ store, pre store → failed (update store))
    (hrefused : ∀ store, pre store → failed store) :
    Triple pre (write update : Program Store Err Unit) post failed := by
  intro world hpre
  rcases world with ⟨store, _ | ⟨reply, rest⟩⟩
  · exact hpost store hpre
  · cases reply with
    | performed => exact hpost store hpre
    | lost err => exact hlost store hpre
    | refused err => exact hrefused store hpre

theorem Triple.mapError (htriple : Triple pre program post failed) :
    Triple pre (mapError change program) post failed := by
  intro world hpre
  have hended := htriple world hpre
  rw [exec_mapError]
  rcases hrun : exec program world with ⟨_ | value, next⟩
  · rename_i failure
    rw [hrun] at hended
    cases failure <;> exact hended
  · rw [hrun] at hended
    exact hended

theorem Triple.compute_bind
    (hrest : ∀ value, result = .ok value → Triple pre (rest value) last failed)
    (hfailed : ∀ store, pre store → failed store) :
    Triple pre (RemoteStore.mapError change (RemoteStore.compute result) >>=
      rest) last failed := by
  have hcompute : Triple pre (RemoteStore.compute result : Program Store Err α)
      (fun value store => result = .ok value ∧ pre store) failed :=
    Triple.compute (fun _ hvalue _ hpre => ⟨hvalue, hpre⟩) hfailed
  apply Triple.bind hcompute.mapError
  intro value world hmiddle
  exact hrest value hmiddle.1 world hmiddle.2

theorem Triple.weaken {stronger : Store → Prop} {weaker : α → Store → Prop}
    {ended : Store → Prop} (htriple : Triple pre program post failed)
    (hpre : ∀ store, stronger store → pre store)
    (hpost : ∀ value store, post value store → weaker value store)
    (hfailed : ∀ store, failed store → ended store) :
    Triple stronger program weaker ended := by
  intro world hstronger
  have hended := htriple world (hpre world.store hstronger)
  rcases hrun : exec program world with ⟨_ | value, next⟩
  · rw [hrun] at hended
    exact hfailed next.store hended
  · rw [hrun] at hended
    exact hpost value next.store hended

theorem Triple.forM {inv : Store → Prop}
    (hround : ∀ round ∈ rounds, Triple inv (body round) (fun _ => inv) inv) :
    Triple inv (rounds.forM body) (fun _ => inv) inv := by
  induction rounds with
  | nil => exact Triple.pure fun _ hinv => hinv
  | cons round rounds ih =>
    rw [List.forM_eq_forM, List.forM_cons]
    apply Triple.bind (hround round List.mem_cons_self)
    intro _
    exact ih fun later hlater =>
      hround later (List.mem_cons_of_mem round hlater)

/-! ## Programs that do not panic -/

/-- Started where `pre` holds, the program does not panic. -/
def Calm (pre : Store → Prop) (program : Program Store Err α) : Prop :=
  ∀ world text, pre world.store → (exec program world).1 ≠ .error (.panic text)

theorem Calm.bind (hcalm : Calm pre program)
    (htriple : Triple pre program middle failed)
    (hrest : ∀ value, Calm (middle value) (rest value)) :
    Calm pre (program >>= rest) := by
  intro world text hpre
  have hended := htriple world hpre
  have hfirst := hcalm world text hpre
  rw [exec_bind]
  rcases hrun : exec program world with ⟨failure | value, next⟩
  · rw [hrun] at hfirst
    simpa using hfirst
  · rw [hrun] at hended
    exact hrest value next text hended

theorem Triple.trivial :
    Triple pre program (fun _ _ => True) (fun _ => True) := by
  intro world _
  rcases exec program world with ⟨failure | value, next⟩ <;> exact True.intro

/-- Two programs of which the second is calm from everywhere. -/
theorem Calm.andThen (hcalm : Calm pre program)
    (hrest : ∀ value, Calm (fun _ => True) (rest value)) :
    Calm pre (program >>= rest) :=
  hcalm.bind Triple.trivial hrest

theorem Calm.mapError (hcalm : Calm pre program) (change : Err → Err) :
    Calm pre (mapError change program) := by
  intro world text hpre
  have hended := hcalm world text hpre
  rw [exec_mapError]
  rcases hrun : exec program world with ⟨failure | value, next⟩
  · rw [hrun] at hended
    cases failure with
    | error err => simp
    | panic found => exact hended
  · simp

theorem Calm.compute (hresult : ∀ text, result ≠ .error (.panic text)) :
    Calm pre (compute result : Program Store Err α) :=
  fun _ text _ => hresult text

theorem Calm.compute_bind (hresult : ∀ text, result ≠ .error (.panic text))
    (hrest : ∀ value, result = .ok value → Calm pre (rest value)) :
    Calm pre (RemoteStore.mapError change (RemoteStore.compute result) >>=
      rest) := by
  have htriple : Triple pre (RemoteStore.compute result : Program Store Err α)
      (fun value store => result = .ok value ∧ pre store) pre :=
    Triple.compute (fun _ hvalue _ hpre => ⟨hvalue, hpre⟩) fun _ hpre => hpre
  apply ((Calm.compute hresult).mapError change).bind htriple.mapError
  intro value world text hmiddle
  exact hrest value hmiddle.1 world text hmiddle.2

theorem Calm.write (update : Store → Store) :
    Calm pre (write update : Program Store Err Unit) := by
  intro world text _
  rcases world with ⟨store, _ | ⟨reply, rest⟩⟩
  · exact nofun
  · cases reply <;> exact nofun

theorem Calm.forM (hround : ∀ round, Calm (fun _ => True) (body round)) :
    Calm (fun _ => True) (rounds.forM body) := by
  induction rounds with
  | nil => exact fun _ _ _ => nofun
  | cons round rounds ih =>
    rw [List.forM_eq_forM, List.forM_cons]
    exact (hround round).andThen fun _ => ih

/-! ## Errors a program can end with -/

/-- Every error the program ends with is one of the given ones. -/
def ErrorsIn (allowed : Err → Prop) (program : Program Store Err α) : Prop :=
  ∀ world err, (exec program world).1 = .error (.error err) → allowed err

variable {allowed : Err → Prop}

theorem ErrorsIn.bind (hfirst : ErrorsIn allowed program)
    (hrest : ∀ value, ErrorsIn allowed (rest value)) :
    ErrorsIn allowed (program >>= rest) := by
  intro world err hended
  have hfirst := hfirst world
  rw [exec_bind] at hended
  rcases hrun : exec program world with ⟨failure | value, next⟩
  · rw [hrun] at hended hfirst
    obtain rfl := Except.error.inj hended
    exact hfirst err rfl
  · rw [hrun] at hended
    exact hrest value next err hended

theorem ErrorsIn.pure (value : α) :
    ErrorsIn allowed (Pure.pure value : Program Store Err α) := by
  intro world err hended
  cases hended

theorem ErrorsIn.mapError (hchange : ∀ err, allowed (change err))
    (program : Program Store Err α) :
    ErrorsIn allowed (mapError change program) := by
  intro world err hended
  rw [exec_mapError] at hended
  rcases hrun : exec program world with ⟨failure | value, next⟩
  · rw [hrun] at hended
    cases failure with
    | error found =>
      obtain rfl : change found = err := by simpa using hended
      exact hchange found
    | panic text => cases hended
  · rw [hrun] at hended
    cases hended

theorem ErrorsIn.attempt (program : Program Store Err α) :
    ErrorsIn allowed (attempt program) := by
  intro world err hended
  rw [exec_attempt] at hended
  rcases hrun : exec program world with ⟨failure | value, next⟩
  · rw [hrun] at hended
    cases failure <;> cases hended
  · rw [hrun] at hended
    cases hended

/-! ## Sequences of writes -/

def applyAll (updates : List (Store → Store)) (store : Store) : Store :=
  updates.foldl (fun current update => update current) store

theorem applyAll_append (updates later : List (Store → Store))
    (store : Store) :
    applyAll (updates ++ later) store =
      applyAll later (applyAll updates store) :=
  List.foldl_append

/-- The program makes these writes one after the other, up to the first that
fails. -/
structure Performs (program : Program Store Err Unit)
    (updates : List (Store → Store)) : Prop where
  stops : ∀ world, ∃ performed left, updates = performed ++ left ∧
    (exec program world).2.store = applyAll performed world.store ∧
    ((exec program world).1 = .ok () → left = [])
  completes : ∀ store, exec program ⟨store, []⟩ =
    (.ok (), ⟨applyAll updates store, []⟩)

namespace Performs

variable {updates later : List (Store → Store)}
  {program rest : Program Store Err Unit}

theorem pure : Performs (Pure.pure () : Program Store Err Unit) [] where
  stops := fun _ => ⟨[], [], rfl, rfl, fun _ => rfl⟩
  completes := fun _ => rfl

theorem write (update : Store → Store) :
    Performs (RemoteStore.write update : Program Store Err Unit) [update] where
  stops := by
    intro world
    rcases world with ⟨store, _ | ⟨reply, replies⟩⟩
    · exact ⟨[update], [], rfl, rfl, fun _ => rfl⟩
    · cases reply with
      | performed => exact ⟨[update], [], rfl, rfl, fun _ => rfl⟩
      | lost err => exact ⟨[update], [], rfl, rfl, fun _ => rfl⟩
      | refused err => exact ⟨[], [update], rfl, rfl, fun hok => nomatch hok⟩
  completes := fun _ => rfl

theorem mapError (hperforms : Performs program updates) (change : Err → Err) :
    Performs (RemoteStore.mapError change program) updates where
  stops := by
    intro world
    obtain ⟨performed, left, hsplit, hstore, hok⟩ := hperforms.stops world
    refine ⟨performed, left, hsplit, ?_, ?_⟩
    · rw [exec_mapError]
      rcases hrun : exec program world with ⟨(_ | _) | _, next⟩ <;>
        rw [hrun] at hstore <;> exact hstore
    · rw [exec_mapError]
      rcases hrun : exec program world with ⟨(_ | _) | _, next⟩
      · exact fun hok => nomatch hok
      · exact fun hok => nomatch hok
      · rw [hrun] at hok
        exact fun _ => hok rfl
  completes := by
    intro store
    rw [exec_mapError, hperforms.completes]

theorem bind (hfirst : Performs program updates) (hrest : Performs rest later) :
    Performs (program >>= fun _ => rest) (updates ++ later) where
  stops := by
    intro world
    obtain ⟨performed, left, hsplit, hstore, hok⟩ := hfirst.stops world
    rw [exec_bind]
    rcases hrun : exec program world with ⟨_ | _, next⟩
    · -- The first part has failed, and nothing of the rest is done.
      rw [hrun] at hstore
      exact ⟨performed, left ++ later, by rw [hsplit, List.append_assoc],
        hstore, fun hok => nomatch hok⟩
    · rw [hrun] at hstore hok
      obtain rfl := hok rfl
      obtain ⟨performed', left', hsplit', hstore', hok'⟩ := hrest.stops next
      refine ⟨updates ++ performed', left', ?_, ?_, hok'⟩
      · rw [hsplit', List.append_assoc]
      · rw [List.append_nil] at hsplit
        rw [hstore', hstore, applyAll_append, hsplit]
  completes := by
    intro store
    rw [exec_bind, hfirst.completes, applyAll_append]
    exact hrest.completes _

theorem compute {value : α} {next : α → Program Store Err Unit}
    (hperforms : Performs (next value) updates) :
    Performs (RemoteStore.mapError change (RemoteStore.compute (.ok value)) >>=
      next) updates where
  stops := by
    intro world
    rw [exec_bind]
    exact hperforms.stops world
  completes := by
    intro store
    rw [exec_bind]
    exact hperforms.completes store

theorem forM {made : Round → List (Store → Store)}
    (hround : ∀ round, Performs (body round) (made round)) :
    Performs (rounds.forM body) (rounds.flatMap made) := by
  induction rounds with
  | nil => exact Performs.pure
  | cons round rounds ih =>
    rw [List.forM_eq_forM, List.forM_cons, List.flatMap_cons]
    exact (hround round).bind ih

end Performs

/-- What the program writes is planned by the store it is started on; it may
end early, by a failed write or by itself. -/
structure Makes (program : Program Store Err α)
    (plan : Store → List (Store → Store)) : Prop where
  stops : ∀ world, ∃ performed left, plan world.store = performed ++ left ∧
    (exec program world).2.store = applyAll performed world.store
  completes : ∀ store, (exec program ⟨store, []⟩).2.store =
    applyAll (plan store) store

namespace Makes

variable {updates : List (Store → Store)} {first : Program Store Err Unit}
  {plan : Store → List (Store → Store)}

theorem of_performs (hperforms : Performs first updates) :
    Makes first fun _ => updates where
  stops := by
    intro world
    obtain ⟨performed, left, hsplit, hstore, _⟩ := hperforms.stops world
    exact ⟨performed, left, hsplit, hstore⟩
  completes := by
    intro store
    rw [hperforms.completes]

theorem mapError (hmakes : Makes program plan) (change : Err → Err) :
    Makes (RemoteStore.mapError change program) plan := by
  have hstore : ∀ world, (exec (RemoteStore.mapError change program)
      world).2.store = (exec program world).2.store := by
    intro world
    rw [exec_mapError]
    rcases exec program world with ⟨(_ | _) | _, next⟩ <;> rfl
  constructor
  · intro world
    rw [hstore]
    exact hmakes.stops world
  · intro store
    rw [hstore]
    exact hmakes.completes store

theorem after {rest : Program Store Err α} (hfirst : Performs first updates)
    (hrest : Makes rest plan) :
    Makes (first >>= fun _ => rest) fun store =>
      updates ++ plan (applyAll updates store) where
  stops := by
    intro world
    obtain ⟨performed, left, hsplit, hstore, hok⟩ := hfirst.stops world
    rw [exec_bind]
    rcases hrun : exec first world with ⟨_ | _, next⟩
    · rw [hrun] at hstore
      exact ⟨performed, left ++ plan (applyAll updates world.store),
        by rw [hsplit, List.append_assoc], hstore⟩
    · rw [hrun] at hstore hok
      obtain rfl := hok rfl
      rw [List.append_nil] at hsplit
      subst hsplit
      obtain ⟨later, left, hplan, hlast⟩ := hrest.stops next
      refine ⟨updates ++ later, left, ?_, ?_⟩
      · rw [← hstore, hplan, List.append_assoc]
      · rw [applyAll_append, ← hstore]
        exact hlast
  completes := by
    intro store
    rw [exec_bind, hfirst.completes, applyAll_append]
    exact hrest.completes _

/-- A value that depends on the store, or on nothing, first. -/
theorem ask {asked : Program Store Err β} {rest : β → Program Store Err α}
    {answer : Store → Except (Failure Err) β}
    {plan : β → Store → List (Store → Store)}
    (hasked : ∀ world, exec asked world = (answer world.store, world))
    (hrest : ∀ value, Makes (rest value) (plan value)) :
    Makes (asked >>= rest) fun store =>
      match answer store with
      | .ok value => plan value store
      | .error _ => [] where
  stops := by
    intro world
    rw [exec_bind, hasked]
    cases answer world.store with
    | ok value => exact (hrest value).stops world
    | error failure => exact ⟨[], [], rfl, rfl⟩
  completes := by
    intro store
    rw [exec_bind, hasked]
    cases hanswer : answer store with
    | ok value => exact (hrest value).completes store
    | error failure => rfl

theorem compute_ok {value : β} {rest : β → Program Store Err α}
    (hrest : Makes (rest value) plan) :
    Makes (RemoteStore.mapError change (compute (.ok value)) >>= rest)
      plan where
  stops := by
    intro world
    rw [exec_bind]
    exact hrest.stops world
  completes := by
    intro store
    rw [exec_bind]
    exact hrest.completes store

theorem compute_error (failure : Failure Err) (change : Err → Err)
    (rest : β → Program Store Err α) :
    Makes (RemoteStore.mapError change (compute (.error failure)) >>= rest)
      fun _ => [] where
  stops := by
    intro world
    rw [exec_bind]
    cases failure <;> exact ⟨[], [], rfl, rfl⟩
  completes := by
    intro store
    rw [exec_bind]
    cases failure <;> rfl

end Makes

end ComplyTime.RemoteStore
