import Mathlib.Data.List.Basic
import Mathlib.Tactic.Common

/-!
# An at-least-once work queue

The queue of a persistent stream with one durable consumer.  A message keeps
its sequence number, its position in the list, for ever; what changes is how
often it was delivered and whether the stream still holds it.  A held message
may be delivered again at any time while its deliveries stay below the
consumer's bound, which over-approximates negative acknowledgements, elapsed
acknowledgement waits and lost replies alike.
-/

namespace ComplyTime.WorkQueue

variable {Payload : Type*}

/-- Where a message stands in the stream. -/
inductive Disposition
  | stored
  | acked
  | terminated
  | expired
  deriving DecidableEq, Repr

structure Message (Payload : Type*) where
  payload : Payload
  publishedAt : ℕ
  deliveries : ℕ
  disposition : Disposition

abbrev Queue (Payload : Type*) := List (Message Payload)

/-- Store a new message at the next sequence number. -/
def publish (queue : Queue Payload) (payload : Payload) (now : ℕ) :
    Queue Payload :=
  queue ++ [⟨payload, now, 0, .stored⟩]

/-- A message the consumer may still be given. -/
def Message.redeliverable (maxDeliver : ℕ) (message : Message Payload) :
    Bool :=
  decide (message.disposition = .stored) &&
    decide (message.deliveries < maxDeliver)

/-- Hand message `sequence` to the consumer. -/
def deliver (maxDeliver : ℕ) (queue : Queue Payload) (sequence : ℕ) :
    Option (Queue Payload) :=
  match queue[sequence]? with
  | none => none
  | some message =>
    if message.redeliverable maxDeliver then
      some (queue.set sequence
        { message with deliveries := message.deliveries + 1 })
    else none

/-- Take message `sequence` out of the stream if it is still stored. -/
def settle (queue : Queue Payload) (sequence : ℕ)
    (disposition : Disposition) : Queue Payload :=
  queue.modify sequence fun message =>
    if message.disposition = .stored then
      { message with disposition := disposition }
    else message

/-- Drop a stored message that has reached the stream's age limit. -/
def expire (maxAge now : ℕ) (queue : Queue Payload) (sequence : ℕ) :
    Option (Queue Payload) :=
  match queue[sequence]? with
  | none => none
  | some message =>
    if message.publishedAt + maxAge ≤ now then
      some (settle queue sequence .expired)
    else none

/-! ## What each operation does to one message -/

variable {queue : Queue Payload} {message : Message Payload} {sequence : ℕ}

theorem getElem?_publish {payload : Payload} {now sequence : ℕ}
    (hmessage : (publish queue payload now)[sequence]? = some message) :
    queue[sequence]? = some message ∨
      (sequence = queue.length ∧ message = ⟨payload, now, 0, .stored⟩) := by
  simp only [publish] at hmessage
  by_cases hlt : sequence < queue.length
  · left
    rwa [List.getElem?_append_left hlt] at hmessage
  · right
    rw [List.getElem?_append_right (by omega)] at hmessage
    obtain ⟨hindex, hvalue⟩ := List.getElem?_eq_some_iff.mp hmessage
    simp only [List.length_singleton] at hindex
    have hzero : sequence - queue.length = 0 := by omega
    refine ⟨by omega, ?_⟩
    simpa [hzero] using hvalue.symm

theorem getElem?_publish_of_some (payload : Payload) (now : ℕ)
    (hmessage : queue[sequence]? = some message) :
    (publish queue payload now)[sequence]? = some message := by
  obtain ⟨hlt, -⟩ := List.getElem?_eq_some_iff.mp hmessage
  rw [publish, List.getElem?_append_left hlt, hmessage]

/-- A delivery counts itself on the delivered message and changes no other. -/
theorem deliver_eq_some {maxDeliver sequence : ℕ}
    {queue next : Queue Payload}
    (hdeliver : deliver maxDeliver queue sequence = some next) :
    ∃ message, queue[sequence]? = some message ∧
      message.disposition = .stored ∧ message.deliveries < maxDeliver ∧
      next = queue.set sequence
        { message with deliveries := message.deliveries + 1 } := by
  unfold deliver at hdeliver
  cases hmessage : queue[sequence]? with
  | none => simp [hmessage] at hdeliver
  | some message =>
    simp only [hmessage] at hdeliver
    by_cases hready : message.redeliverable maxDeliver = true
    · rw [if_pos hready, Option.some.injEq] at hdeliver
      simp only [Message.redeliverable, Bool.and_eq_true,
        decide_eq_true_eq] at hready
      exact ⟨message, rfl, hready.1, hready.2, hdeliver.symm⟩
    · simp [hready] at hdeliver

theorem getElem?_set_of_some {sequence other : ℕ}
    {old new message : Message Payload} (hold : queue[sequence]? = some old)
    (hmessage : (queue.set sequence new)[other]? = some message) :
    (other = sequence ∧ message = new) ∨
      (other ≠ sequence ∧ queue[other]? = some message) := by
  obtain ⟨hlt, -⟩ := List.getElem?_eq_some_iff.mp hold
  by_cases heq : other = sequence
  · subst heq
    left
    rw [List.getElem?_set_self hlt] at hmessage
    exact ⟨rfl, (Option.some.inj hmessage).symm⟩
  · right
    rw [List.getElem?_set_ne (Ne.symm heq)] at hmessage
    exact ⟨heq, hmessage⟩

/-- Settling leaves other messages alone and changes only the disposition of a
stored message. -/
theorem getElem?_settle {sequence other : ℕ} {disposition : Disposition}
    (hmessage : (settle queue sequence disposition)[other]? = some message) :
    queue[other]? = some message ∨
      (other = sequence ∧ ∃ old, queue[other]? = some old ∧
        old.disposition = .stored ∧
        message = { old with disposition := disposition }) := by
  simp only [settle, List.getElem?_modify] at hmessage
  by_cases heq : sequence = other
  · subst heq
    simp only [if_pos] at hmessage
    cases hold : queue[sequence]? with
    | none => simp [hold] at hmessage
    | some old =>
      simp only [hold, Option.map_eq_map, Option.map_some,
        Option.some.injEq] at hmessage
      by_cases hstored : old.disposition = .stored
      · right
        rw [if_pos hstored] at hmessage
        exact ⟨rfl, old, rfl, hstored, hmessage.symm⟩
      · left
        rw [if_neg hstored] at hmessage
        rw [hmessage]
  · left
    simpa [heq] using hmessage

/-- Settling forgets no message, and keeps its payload and its counters. -/
theorem getElem?_settle_of_some (sequence : ℕ) (disposition : Disposition)
    {other : ℕ} {old : Message Payload} (hold : queue[other]? = some old) :
    ∃ message, (settle queue sequence disposition)[other]? = some message ∧
      message.payload = old.payload ∧
      message.publishedAt = old.publishedAt ∧
      message.deliveries = old.deliveries := by
  simp only [settle, List.getElem?_modify, hold, Option.map_eq_map,
    Option.map_some]
  refine ⟨_, rfl, ?_⟩
  by_cases heq : sequence = other
  · by_cases hstored : old.disposition = .stored
    · simp [heq, hstored]
    · simp [heq, hstored]
  · simp [heq]

theorem expire_eq_some {maxAge now sequence : ℕ} {queue next : Queue Payload}
    (hexpire : expire maxAge now queue sequence = some next) :
    ∃ message, queue[sequence]? = some message ∧
      message.publishedAt + maxAge ≤ now ∧
      next = settle queue sequence .expired := by
  unfold expire at hexpire
  cases hmessage : queue[sequence]? with
  | none => simp [hmessage] at hexpire
  | some message =>
    simp only [hmessage] at hexpire
    by_cases hage : message.publishedAt + maxAge ≤ now
    · rw [if_pos hage, Option.some.injEq] at hexpire
      exact ⟨message, rfl, hage, hexpire.symm⟩
    · simp [hage] at hexpire

/-! ## The payloads of a queue -/

/-- The payloads ever published, by sequence number. -/
def payloads (queue : Queue Payload) : List Payload :=
  queue.map Message.payload

@[simp]
theorem payloads_publish (queue : Queue Payload) (payload : Payload)
    (now : ℕ) :
    payloads (publish queue payload now) = payloads queue ++ [payload] := by
  simp [payloads, publish]

@[simp]
theorem payloads_settle (queue : Queue Payload) (sequence : ℕ)
    (disposition : Disposition) :
    payloads (settle queue sequence disposition) = payloads queue := by
  apply List.ext_getElem?
  intro index
  simp only [payloads, settle, List.getElem?_map, List.getElem?_modify]
  by_cases heq : sequence = index
  · cases queue[index]? with
    | none => simp
    | some message =>
      by_cases hstored : message.disposition = .stored <;> simp [heq, hstored]
  · simp [heq]

theorem payloads_deliver (hmessage : queue[sequence]? = some message) :
    payloads (queue.set sequence
      { message with deliveries := message.deliveries + 1 }) =
        payloads queue := by
  have hpayload : (payloads queue)[sequence]? = some message.payload := by
    rw [payloads, List.getElem?_map, hmessage]
    rfl
  obtain ⟨hlt, hvalue⟩ := List.getElem?_eq_some_iff.mp hpayload
  rw [payloads, List.map_set]
  change (payloads queue).set sequence message.payload = _
  rw [← hvalue, List.set_getElem_self]

theorem mem_payloads (hmessage : queue[sequence]? = some message) :
    message.payload ∈ payloads queue :=
  List.mem_map_of_mem (List.mem_of_getElem? hmessage)

/-! ## Growth of a queue -/

/-- `next` still has every message of `queue`, with the same payload and
publication time and at least as many deliveries. -/
def Extends (queue next : Queue Payload) : Prop :=
  ∀ (sequence : ℕ) (message : Message Payload),
    queue[sequence]? = some message →
      ∃ later, next[sequence]? = some later ∧
        later.payload = message.payload ∧
        later.publishedAt = message.publishedAt ∧
        message.deliveries ≤ later.deliveries

theorem Extends.refl (queue : Queue Payload) : Extends queue queue :=
  fun _ message hmessage => ⟨message, hmessage, rfl, rfl, Nat.le_refl _⟩

theorem extends_publish (queue : Queue Payload) (payload : Payload)
    (now : ℕ) : Extends queue (publish queue payload now) :=
  fun _ message hmessage => ⟨message,
    getElem?_publish_of_some payload now hmessage, rfl, rfl, Nat.le_refl _⟩

theorem extends_settle (queue : Queue Payload) (sequence : ℕ)
    (disposition : Disposition) :
    Extends queue (settle queue sequence disposition) := by
  intro other old hold
  obtain ⟨later, hlater, hpayload, hpublished, hcount⟩ :=
    getElem?_settle_of_some sequence disposition hold
  exact ⟨later, hlater, hpayload, hpublished, Nat.le_of_eq hcount.symm⟩

theorem extends_deliver (hmessage : queue[sequence]? = some message) :
    Extends queue (queue.set sequence
      { message with deliveries := message.deliveries + 1 }) := by
  intro other old hold
  obtain ⟨hlt, -⟩ := List.getElem?_eq_some_iff.mp hmessage
  by_cases heq : other = sequence
  · subst heq
    obtain rfl : message = old := by simpa [hmessage] using hold
    exact ⟨_, List.getElem?_set_self hlt, rfl, rfl, Nat.le_succ _⟩
  · rw [List.getElem?_set_ne (Ne.symm heq)]
    exact ⟨old, hold, rfl, rfl, Nat.le_refl _⟩

end ComplyTime.WorkQueue
