import Mathlib.Data.List.Basic
import Mathlib.Tactic.Common

/-!
# Runs of a state machine

A machine is a partial step function: an action is either disabled in a state
or leads to exactly one next state.  Every nondeterministic choice of the
environment is part of the action, so a run is a list of actions.  This file
fixes the two forms in which runs are used: `run`, which replays a concrete
list, and `Reaches`, the states reached by runs whose every step satisfies a
guard.  The guard may read the state before the step.
-/

namespace ComplyTime.TransitionSystem

variable {State Action : Type*}

/-- Replay a list of actions; `none` as soon as one of them is disabled. -/
def run (step : State → Action → Option State) :
    State → List Action → Option State
  | state, [] => some state
  | state, action :: actions =>
    (step state action).bind fun next => run step next actions

@[simp]
theorem run_nil (step : State → Action → Option State) (state : State) :
    run step state [] = some state := rfl

@[simp]
theorem run_cons (step : State → Action → Option State) (state : State)
    (action : Action) (actions : List Action) :
    run step state (action :: actions) =
      (step state action).bind fun next => run step next actions := rfl

/-- The states reached from `start` by runs whose every step meets `guard`. -/
inductive Reaches (step : State → Action → Option State)
    (guard : State → Action → Prop) (start : State) : State → Prop
  | refl : Reaches step guard start start
  | tail {state next : State} {action : Action} :
      Reaches step guard start state → guard state action →
        step state action = some next → Reaches step guard start next

/-- The guard of unrestricted runs. -/
def anyStep (_ : State) (_ : Action) : Prop := True

variable {step : State → Action → Option State}
variable {guard weaker : State → Action → Prop} {start state : State}

section

variable (hreach : Reaches step guard start state)

include hreach

theorem Reaches.invariant {inv : State → Prop} (hstart : inv start)
    (hstep : ∀ before action next, inv before → guard before action →
      step before action = some next → inv next) : inv state := by
  induction hreach with
  | refl => exact hstart
  | tail _ hguard hnext ih => exact hstep _ _ _ ih hguard hnext

/-- An inductive invariant may rest on one established before. -/
theorem Reaches.invariant_with {known inv : State → Prop}
    (hknown : ∀ reached, Reaches step guard start reached → known reached)
    (hstart : inv start)
    (hstep : ∀ before action next, known before → inv before →
      guard before action → step before action = some next → inv next) :
    inv state := by
  induction hreach with
  | refl => exact hstart
  | tail hearlier hguard hnext ih =>
    exact hstep _ _ _ (hknown _ hearlier) ih hguard hnext

theorem Reaches.mono
    (hweaker : ∀ before action, guard before action → weaker before action) :
    Reaches step weaker start state := by
  induction hreach with
  | refl => exact .refl
  | tail _ hguard hnext ih => exact .tail ih (hweaker _ _ hguard) hnext

/-- A stronger guard may rest on an established invariant. -/
theorem Reaches.mono_with {known : State → Prop}
    (hknown : ∀ reached, Reaches step guard start reached → known reached)
    (hweaker : ∀ before action, known before → guard before action →
      weaker before action) : Reaches step weaker start state := by
  induction hreach with
  | refl => exact .refl
  | tail hearlier hguard hnext ih =>
    exact .tail ih (hweaker _ _ (hknown _ hearlier) hguard) hnext

end

theorem Reaches.trans {middle : State}
    (hfirst : Reaches step guard start middle)
    (hsecond : Reaches step guard middle state) :
    Reaches step guard start state := by
  induction hsecond with
  | refl => exact hfirst
  | tail _ hguard hnext ih => exact .tail ih hguard hnext

/-! ## Recorded runs -/

section Recording

variable {Note : Type*}

/-- The machine that also keeps what `note` says about each of its steps. -/
def recording (step : State → Action → Option State)
    (note : State → Action → State → List Note) (recorded : State × List Note)
    (action : Action) : Option (State × List Note) :=
  (step recorded.1 action).map fun next =>
    (next, recorded.2 ++ note recorded.1 action next)

variable {note : State → Action → State → List Note}

theorem recording_eq_some {recorded after : State × List Note}
    {action : Action}
    (hstep : recording step note recorded action = some after) :
    step recorded.1 action = some after.1 ∧
      after.2 = recorded.2 ++ note recorded.1 action after.1 := by
  obtain ⟨next, hnext, rfl⟩ := Option.map_eq_some_iff.mp hstep
  exact ⟨hnext, rfl⟩

/-- Forgetting the record leaves a run of the machine. -/
theorem Reaches.forget {first recorded : State × List Note}
    (hreach : Reaches (recording step note)
      (fun before action => guard before.1 action) first recorded) :
    Reaches step guard first.1 recorded.1 := by
  induction hreach with
  | refl => exact .refl
  | tail _ hguard hnext ih => exact .tail ih hguard (recording_eq_some hnext).1

/-- Every run can be recorded. -/
theorem Reaches.record (note : State → Action → State → List Note)
    (hreach : Reaches step guard start state) :
    ∃ notes, Reaches (recording step note)
      (fun before action => guard before.1 action) (start, [])
      (state, notes) := by
  induction hreach with
  | refl => exact ⟨[], .refl⟩
  | @tail middle next action _ hguard hnext ih =>
    obtain ⟨notes, hrecorded⟩ := ih
    refine ⟨notes ++ note middle action next, hrecorded.tail hguard ?_⟩
    simp [recording, hnext]

end Recording

/-! ## Concrete runs -/

/-- The machine that refuses the actions that fail a computable check. -/
def checked (step : State → Action → Option State)
    (check : State → Action → Bool) (state : State) (action : Action) :
    Option State :=
  if check state action then step state action else none

variable {actions : List Action} {final : State}

/-- Replaying actions whose checks imply the guard extends a guarded run. -/
theorem Reaches.run_checked {check : State → Action → Bool}
    (hreach : Reaches step guard start state)
    (hcheck : ∀ before, ∀ action ∈ actions, check before action = true →
      guard before action)
    (hrun : run (checked step check) state actions = some final) :
    Reaches step guard start final := by
  induction actions generalizing state with
  | nil =>
    obtain rfl : state = final := by simpa using hrun
    exact hreach
  | cons action actions ih =>
    rw [run_cons] at hrun
    obtain ⟨next, hnext, hrest⟩ := Option.bind_eq_some_iff.mp hrun
    unfold checked at hnext
    split at hnext
    · rename_i hpassed
      have hhead := hcheck state action (by simp) hpassed
      exact ih (.tail hreach hhead hnext)
        (fun before later hlater => hcheck before later (by simp [hlater]))
        hrest
    · simp at hnext

theorem reaches_of_run_all
    (hall : ∀ before, ∀ action ∈ actions, guard before action)
    (hrun : run step start actions = some final) :
    Reaches step guard start final := by
  have hsame : checked step (fun _ _ => true) = step := by
    funext before action
    simp [checked]
  rw [← hsame] at hrun
  exact Reaches.run_checked .refl (fun before action hmem _ =>
    hall before action hmem) hrun

/-- A concrete list of actions witnesses reachability. -/
theorem reaches_of_run (hrun : run step start actions = some final) :
    Reaches step anyStep start final :=
  reaches_of_run_all (fun _ _ _ => trivial) hrun

/-! ## Tables of parties -/

section Tables

variable {Key Value : Type*} [DecidableEq Key] {table : Key → Option Value}
  {key other : Key} {value found : Value}

/-- What is in a table after one party was set: that party, or what was there
before. -/
theorem update_eq_some
    (hfound : Function.update table key (some value) other = some found) :
    (other = key ∧ found = value) ∨
      (other ≠ key ∧ table other = some found) := by
  by_cases heq : other = key
  · subst heq
    rw [Function.update_self, Option.some.injEq] at hfound
    exact .inl ⟨rfl, hfound.symm⟩
  · rw [Function.update_of_ne heq] at hfound
    exact .inr ⟨heq, hfound⟩

theorem forall_update {property : Key → Value → Prop}
    (hothers : ∀ other found, table other = some found → property other found)
    (hvalue : property key value) (other : Key) (found : Value)
    (hfound : Function.update table key (some value) other = some found) :
    property other found := by
  rcases update_eq_some hfound with ⟨rfl, rfl⟩ | ⟨-, hbefore⟩
  · exact hvalue
  · exact hothers other found hbefore

end Tables

end ComplyTime.TransitionSystem
