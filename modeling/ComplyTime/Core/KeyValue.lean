import ComplyTime.Errors
import Mathlib.Data.List.Basic
import Mathlib.Logic.Function.Basic

/-!
# Revisioned key-value buckets

A bucket maps keys to values; every write stamps its key with a fresh revision
of the bucket.  `create` is the write that requires an absent key and `update`
the write that requires the revision the writer has read.  Each operation takes
the failure the server or the network injects into it, if any, and refuses keys
outside the alphabet of the store before anything else happens.
-/

namespace ComplyTime.KeyValue

variable {Value : Type*}

structure Revisioned (Value : Type*) where
  value : Value
  revision : ℕ

structure Bucket (Value : Type*) where
  entries : String → Option (Revisioned Value)
  revision : ℕ

def emptyBucket : Bucket Value where
  entries := fun _ => none
  revision := 0

def isKeyCharacter (character : Char) : Bool :=
  ('a' ≤ character && character ≤ 'z') ||
    ('A' ≤ character && character ≤ 'Z') ||
    ('0' ≤ character && character ≤ '9') ||
    character == '-' || character == '/' || character == '_' ||
    character == '=' || character == '.'

/-- A non-empty text over the key alphabet that neither begins nor ends with a
dot, as the client checks it, and that has no two dots in a row, which the
server takes in no subject. -/
def validKey (key : String) : Bool :=
  !key.toList.isEmpty && key.toList.all isKeyCharacter &&
    key.toList.head? != some '.' && key.toList.getLast? != some '.' &&
    decide (key.toList.IsChain fun left right => left ≠ '.' ∨ right ≠ '.')

def invalidKey : GoError := .message "nats: invalid key"

def wrongRevision : GoError := .message "nats: wrong last sequence"

/-- Write `value` under the next revision. -/
def Bucket.write (bucket : Bucket Value) (key : String) (value : Value) :
    Bucket Value where
  entries := Function.update bucket.entries key
    (some ⟨value, bucket.revision + 1⟩)
  revision := bucket.revision + 1

def Bucket.get (bucket : Bucket Value) (fault : Option GoError)
    (key : String) : Except GoError (Revisioned Value) :=
  if validKey key then
    match fault with
    | some err => .error err
    | none =>
      match bucket.entries key with
      | none => .error .keyNotFound
      | some entry => .ok entry
  else .error invalidKey

def Bucket.put (bucket : Bucket Value) (fault : Option GoError)
    (key : String) (value : Value) : Except GoError (Bucket Value) :=
  if validKey key then
    match fault with
    | some err => .error err
    | none => .ok (bucket.write key value)
  else .error invalidKey

def Bucket.create (bucket : Bucket Value) (fault : Option GoError)
    (key : String) (value : Value) : Except GoError (Bucket Value) :=
  if validKey key then
    match fault with
    | some err => .error err
    | none =>
      match bucket.entries key with
      | none => .ok (bucket.write key value)
      | some _ => .error .keyExists
  else .error invalidKey

def Bucket.update (bucket : Bucket Value) (fault : Option GoError)
    (key : String) (value : Value) (revision : ℕ) :
    Except GoError (Bucket Value) :=
  if validKey key then
    match fault with
    | some err => .error err
    | none =>
      match bucket.entries key with
      | none => .error wrongRevision
      | some entry =>
        if entry.revision = revision then .ok (bucket.write key value)
        else .error wrongRevision
  else .error invalidKey

@[simp]
theorem entries_write_self (bucket : Bucket Value) (key : String)
    (value : Value) :
    (bucket.write key value).entries key =
      some ⟨value, bucket.revision + 1⟩ := by
  simp [Bucket.write]

theorem entries_write_of_ne (bucket : Bucket Value) {key other : String}
    (value : Value) (hne : other ≠ key) :
    (bucket.write key value).entries other = bucket.entries other := by
  simp [Bucket.write, hne]

variable {key : String} {fault : Option GoError} {bucket next : Bucket Value}
  {value : Value}

variable {entry : Revisioned Value}

theorem revision_le_write (hle : ∀ key entry, bucket.entries key = some entry →
      entry.revision ≤ bucket.revision) (written : String) (value : Value)
    (hentry : (bucket.write written value).entries key = some entry) :
    entry.revision ≤ (bucket.write written value).revision := by
  change entry.revision ≤ bucket.revision + 1
  by_cases heq : key = written
  · rw [heq, entries_write_self] at hentry
    obtain rfl := Option.some.inj hentry
    exact Nat.le_refl _
  · rw [entries_write_of_ne _ _ heq] at hentry
    exact Nat.le_succ_of_le (hle key entry hentry)

/-! ### An injected failure refuses every operation -/

section Failures

variable (bucket : Bucket Value) (err : GoError) (key : String)

theorem get_of_fault :
    ∃ refusal, bucket.get (some err) key = .error refusal := by
  unfold Bucket.get
  split <;> exact ⟨_, rfl⟩

theorem put_of_fault (value : Value) :
    ∃ refusal, bucket.put (some err) key value = .error refusal := by
  unfold Bucket.put
  split <;> exact ⟨_, rfl⟩

theorem create_of_fault (value : Value) :
    ∃ refusal, bucket.create (some err) key value = .error refusal := by
  unfold Bucket.create
  split <;> exact ⟨_, rfl⟩

theorem update_of_fault (value : Value) (revision : ℕ) :
    ∃ refusal, bucket.update (some err) key value revision =
      .error refusal := by
  unfold Bucket.update
  split <;> exact ⟨_, rfl⟩

end Failures

/-! ### Successful operations -/

theorem get_eq_ok (hget : bucket.get fault key = .ok entry) :
    bucket.entries key = some entry := by
  unfold Bucket.get at hget
  split at hget
  · cases fault with
    | some err => simp at hget
    | none =>
      cases hentry : bucket.entries key with
      | none => simp [hentry] at hget
      | some found => simpa [hentry] using hget
  · simp at hget

theorem put_eq_ok (hput : bucket.put fault key value = .ok next) :
    next = bucket.write key value := by
  unfold Bucket.put at hput
  split at hput
  · cases fault with
    | some err => simp at hput
    | none => simpa using hput.symm
  · simp at hput

theorem create_eq_ok (hcreate : bucket.create fault key value = .ok next) :
    bucket.entries key = none ∧ next = bucket.write key value := by
  unfold Bucket.create at hcreate
  split at hcreate
  · cases fault with
    | some err => simp at hcreate
    | none =>
      cases hentry : bucket.entries key with
      | none => exact ⟨rfl, by simpa [hentry] using hcreate.symm⟩
      | some entry => simp [hentry] at hcreate
  · simp at hcreate

theorem update_eq_ok {revision : ℕ}
    (hupdate : bucket.update fault key value revision = .ok next) :
    (∃ old, bucket.entries key = some ⟨old, revision⟩) ∧
      next = bucket.write key value := by
  unfold Bucket.update at hupdate
  split at hupdate
  · cases fault with
    | some err => simp at hupdate
    | none =>
      cases hentry : bucket.entries key with
      | none => simp [hentry] at hupdate
      | some entry =>
        simp only [hentry] at hupdate
        by_cases hrevision : entry.revision = revision
        · subst hrevision
          exact ⟨⟨entry.value, rfl⟩, by simpa using hupdate.symm⟩
        · simp [hrevision] at hupdate
  · simp at hupdate

theorem validKey_of_create
    (hcreate : bucket.create fault key value = .ok next) :
    validKey key = true := by
  unfold Bucket.create at hcreate
  split at hcreate
  · assumption
  · cases hcreate

theorem validKey_of_update {revision : ℕ}
    (hupdate : bucket.update fault key value revision = .ok next) :
    validKey key = true := by
  unfold Bucket.update at hupdate
  split at hupdate
  · assumption
  · cases hupdate

end ComplyTime.KeyValue
