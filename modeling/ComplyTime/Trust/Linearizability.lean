import ComplyTime.Core.Json
import ComplyTime.Core.TransitionSystem
import ComplyTime.Trust.Store

/-!
# Concurrent use of the trust lists

Any number of `SetPublisherTrust` calls, each a read and a later write, and of
`IsPublisherTrusted` calls run on one store.  A clock counts the steps.  A write
goes through only over the revision its call has read, or to an absent key if
the call found none, and every write stamps its key with a new revision; hence
no other write to the subject falls between the read and the write of a call
that goes through.  The reply to such a write may be lost, and its call fails.
-/

namespace ComplyTime.Trust

open Subjects KeyValue TransitionSystem

/-! ## The machine -/

inductive Progress
  | reading
  | writing (revision : Option ℕ) (readAt : ℕ)
  | succeeded
  | failed (err : GoError)

def Progress.ended : Progress → Bool
  | .succeeded => true
  | .failed _ => true
  | _ => false

/-- A call of `SetPublisherTrust`. -/
structure SetCall where
  subjectID : SubjectID
  publishers : List TrustEntry
  progress : Progress

/-- A write that went through, with the instants of its call's two requests and
whether its reply was lost. -/
structure Write where
  call : ℕ
  subjectID : SubjectID
  publishers : List TrustEntry
  readAt : ℕ
  writtenAt : ℕ
  lost : Bool

/-- A call of `IsPublisherTrusted` and its answer. -/
structure Lookup where
  subjectID : SubjectID
  issuer : String
  sub : String
  askedAt : ℕ
  fault : Option GoError
  answer : Except GoError Bool

structure Session (Document : Type*) where
  store : TrustStore Document
  calls : ℕ → Option SetCall
  clock : ℕ
  /-- Ghost: the writes that went through. -/
  writes : List Write
  /-- Ghost: the answers given. -/
  lookups : List Lookup

inductive SessionAction
  | set (id : ℕ) (subjectID : SubjectID) (publishers : List TrustEntry)
  | read (id : ℕ) (fault : Option GoError)
  | write (id : ℕ) (fault : Option GoError)
  /-- The bucket serves the write and the reply is lost. -/
  | lose (id : ℕ) (err : GoError)
  | lookup (subjectID : SubjectID) (issuer sub : String)
      (fault : Option GoError)

variable {Document : Type*}

def emptySession : Session Document where
  store := emptyTrustStore
  calls := fun _ => none
  clock := 0
  writes := []
  lookups := []

/-- The clock ticks and a call moves on. -/
def Session.move (session : Session Document) (id : ℕ) (call : SetCall) :
    Session Document :=
  { session with
    calls := Function.update session.calls id (some call)
    clock := session.clock + 1 }

def Session.read (session : Session Document) (id : ℕ) (call : SetCall)
    (fault : Option GoError) : Session Document :=
  match readTrustRevision session.store fault call.subjectID with
  | .ok revision => session.move id
      { call with progress := .writing revision session.clock }
  | .error err => session.move id { call with progress := .failed err }

/-- The write of a call goes through; `lost` is the failure the call sees all
the same, if any. -/
def Session.wrote (session : Session Document) (id : ℕ) (call : SetCall)
    (readAt : ℕ) (store : TrustStore Document) (lost : Option GoError) :
    Session Document :=
  { session.move id { call with
      progress := lost.elim .succeeded .failed } with
    store := store
    writes := session.writes ++ [⟨id, call.subjectID, call.publishers, readAt,
      session.clock, lost.isSome⟩] }

/-- The second request; with `lost`, the reply of the bucket is lost. -/
def Session.write (codec : TrustCodec Document) (session : Session Document)
    (id : ℕ) (call : SetCall) (revision : Option ℕ) (readAt : ℕ)
    (fault lost : Option GoError) : Session Document :=
  match writeTrust codec session.store fault call.subjectID call.publishers
      revision with
  | .ok store => session.wrote id call readAt store lost
  | .error err => session.move id { call with progress := .failed err }

/-- What `SetPublisherTrust` returns when its second request fails. -/
def writeFailure (subjectID : SubjectID) : Option ℕ → GoError → GoError
  | none => creatingTrust subjectID
  | some _ => updatingTrust subjectID

def Session.lookup (codec : TrustCodec Document) (session : Session Document)
    (subjectID : SubjectID) (issuer sub : String) (fault : Option GoError) :
    Session Document :=
  { session with
    clock := session.clock + 1
    lookups := session.lookups ++ [⟨subjectID, issuer, sub, session.clock,
      fault, isPublisherTrusted codec session.store fault subjectID issuer
        sub⟩] }

def sessionStep (codec : TrustCodec Document) (session : Session Document) :
    SessionAction → Option (Session Document)
  | .set id subjectID publishers =>
    match session.calls id with
    | some _ => none
    | none => some (session.move id ⟨subjectID, publishers, .reading⟩)
  | .read id fault =>
    match session.calls id with
    | none => none
    | some call =>
      match call.progress with
      | .reading => some (session.read id call fault)
      | _ => none
  | .write id fault =>
    match session.calls id with
    | none => none
    | some call =>
      match call.progress with
      | .writing revision readAt =>
        some (session.write codec id call revision readAt fault none)
      | _ => none
  | .lose id err =>
    match session.calls id with
    | none => none
    | some call =>
      match call.progress with
      | .writing revision readAt =>
        some (session.write codec id call revision readAt none
          (some (writeFailure call.subjectID revision err)))
      | _ => none
  | .lookup subjectID issuer sub fault =>
    some (session.lookup codec subjectID issuer sub fault)

/-! ## What one step can do -/

inductive SessionTransition (codec : TrustCodec Document)
    (session : Session Document) : Session Document → Prop
  | called {id : ℕ} {subjectID : SubjectID} {publishers : List TrustEntry}
      (hfresh : session.calls id = none) :
      SessionTransition codec session
        (session.move id ⟨subjectID, publishers, .reading⟩)
  | read {id : ℕ} {call : SetCall} {revision : Option ℕ}
      (hcall : session.calls id = some call)
      (hprogress : call.progress = .reading)
      (hrevision : ∀ current, revision = some current →
        ∃ entry, session.store.publisherKV.entries
          (subjectKey call.subjectID) = some entry ∧ entry.revision = current) :
      SessionTransition codec session (session.move id
        { call with progress := .writing revision session.clock })
  | failed {id : ℕ} {call : SetCall} {err : GoError}
      (hcall : session.calls id = some call)
      (hprogress : call.progress.ended = false) :
      SessionTransition codec session
        (session.move id { call with progress := .failed err })
  | wrote {id : ℕ} {call : SetCall} {revision : Option ℕ} {readAt : ℕ}
      {lost : Option GoError} (hcall : session.calls id = some call)
      (hprogress : call.progress = .writing revision readAt)
      (hkey : validKey (subjectKey call.subjectID) = true)
      (hrevision : (session.store.publisherKV.entries
        (subjectKey call.subjectID)).map Revisioned.revision = revision) :
      SessionTransition codec session (session.wrote id call readAt
        { session.store with
          publisherKV := session.store.publisherKV.write
            (subjectKey call.subjectID) (codec.marshal call.publishers) } lost)
  | looked {subjectID : SubjectID} {issuer sub : String}
      {fault : Option GoError} :
      SessionTransition codec session
        (session.lookup codec subjectID issuer sub fault)

variable {subjectID : SubjectID} {revision : Option ℕ}
  {codec : TrustCodec Document} {id : ℕ} {call : SetCall} {readAt : ℕ}
  {write : Write}

theorem revision_of_readTrustRevision {store : TrustStore Document}
    {fault : Option GoError}
    (hread : readTrustRevision store fault subjectID = .ok revision)
    {current : ℕ} (hcurrent : revision = some current) :
    ∃ entry, store.publisherKV.entries (subjectKey subjectID) = some entry ∧
      entry.revision = current := by
  unfold readTrustRevision at hread
  split at hread
  · rename_i entry hget
    refine ⟨entry, get_eq_ok hget, ?_⟩
    have hsame := Except.ok.inj hread
    rw [hcurrent] at hsame
    exact Option.some.inj hsame
  · split at hread
    · have hnone := Except.ok.inj hread
      rw [hcurrent] at hnone
      cases hnone
    · cases hread

theorem write_cases {session : Session Document} (fault lost : Option GoError)
    (hcall : session.calls id = some call)
    (hprogress : call.progress = .writing revision readAt) :
    SessionTransition codec session
      (session.write codec id call revision readAt fault lost) := by
  unfold Session.write
  split
  · rename_i store hwrite
    obtain ⟨hrevision, rfl⟩ := writeTrust_eq_ok hwrite
    exact .wrote hcall hprogress (validKey_of_writeTrust hwrite) hrevision
  · exact .failed hcall (by rw [hprogress]; rfl)

theorem sessionStep_cases {session next : Session Document}
    {action : SessionAction}
    (hstep : sessionStep codec session action = some next) :
    SessionTransition codec session next := by
  unfold sessionStep at hstep
  split at hstep
  · split at hstep
    · cases hstep
    · obtain rfl := Option.some.inj hstep
      exact .called ‹_›
  · split at hstep
    · cases hstep
    · rename_i call hcall
      split at hstep
      · rename_i hprogress
        obtain rfl := Option.some.inj hstep
        unfold Session.read
        split
        · rename_i revision hread
          exact .read hcall hprogress
            fun current => revision_of_readTrustRevision hread
        · exact .failed hcall (by rw [hprogress]; rfl)
      · cases hstep
  · split at hstep
    · cases hstep
    · rename_i call hcall
      split at hstep
      · rename_i revision readAt hprogress
        obtain rfl := Option.some.inj hstep
        exact write_cases _ _ hcall hprogress
      · cases hstep
  · split at hstep
    · cases hstep
    · rename_i call hcall
      split at hstep
      · rename_i revision readAt hprogress
        obtain rfl := Option.some.inj hstep
        exact write_cases _ _ hcall hprogress
      · cases hstep
  · obtain rfl := Option.some.inj hstep
    exact .looked

/-! ## The invariant -/

/-- The list of the last write to the subject. -/
def lastWritten (writes : List Write) (subjectID : SubjectID) :
    Option (List TrustEntry) :=
  ((writes.filter fun write => decide (write.subjectID = subjectID)).getLast?
    ).map Write.publishers

/-- The writes that had gone through at an instant. -/
def writesBefore (writes : List Write) (instant : ℕ) : List Write :=
  writes.filter fun write => decide (write.writtenAt < instant)

theorem lastWritten_append_self (writes : List Write) (write : Write) :
    lastWritten (writes ++ [write]) write.subjectID =
      some write.publishers := by
  simp [lastWritten]

theorem lastWritten_append_of_ne (writes : List Write)
    (hne : write.subjectID ≠ subjectID) :
    lastWritten (writes ++ [write]) subjectID =
      lastWritten writes subjectID := by
  simp [lastWritten, hne]

theorem mem_of_lastWritten {writes : List Write} {list : List TrustEntry}
    (hlast : lastWritten writes subjectID = some list) :
    ∃ write ∈ writes, write.subjectID = subjectID := by
  obtain ⟨write, hwrite, -⟩ := Option.map_eq_some_iff.mp hlast
  have hmem := List.mem_filter.mp (List.mem_of_getLast? hwrite)
  exact ⟨write, hmem.1, of_decide_eq_true hmem.2⟩

/-- What is known of a call between its two requests: if the revision it has
read is still current, all writes to the subject were before the read. -/
structure Pending (session : Session Document) (subjectID : SubjectID)
    (revision : Option ℕ) (readAt : ℕ) : Prop where
  past : readAt < session.clock
  bound : ∀ current, revision = some current →
    current ≤ session.store.publisherKV.revision
  untouched : (session.store.publisherKV.entries (subjectKey subjectID)).map
      Revisioned.revision = revision →
    ∀ write ∈ session.writes, write.subjectID = subjectID →
      write.writtenAt < readAt

/-- A write was made by a call that has ended with it, between its read and the
present, and that has failed if the reply was lost. -/
structure WriteMade (session : Session Document) (write : Write) : Prop where
  interval : write.readAt < write.writtenAt
  past : write.writtenAt < session.clock
  key : validKey (subjectKey write.subjectID) = true
  call : ∃ progress, session.calls write.call =
      some ⟨write.subjectID, write.publishers, progress⟩ ∧
    progress.ended = true ∧
    (write.lost = false ↔ progress = .succeeded)

/-- The answer is that of the last write before the question. -/
structure Answered (session : Session Document) (lookup : Lookup) : Prop where
  past : lookup.askedAt < session.clock
  answer : lookup.answer = .ok true ↔ lookup.fault = none ∧
    ∃ list, lastWritten (writesBefore session.writes lookup.askedAt)
        lookup.subjectID = some list ∧
      ⟨lookup.issuer, lookup.sub⟩ ∈ list

structure Linear (codec : TrustCodec Document) (session : Session Document) :
    Prop where
  stored : ∀ subjectID,
    (session.store.publisherKV.entries (subjectKey subjectID)).map
        Revisioned.value =
      (lastWritten session.writes subjectID).map codec.marshal
  revisions : ∀ key entry, session.store.publisherKV.entries key =
    some entry → entry.revision ≤ session.store.publisherKV.revision
  pending : ∀ id call revision readAt, session.calls id = some call →
    call.progress = .writing revision readAt →
      Pending session call.subjectID revision readAt
  ordered : session.writes.Pairwise fun earlier later =>
    earlier.subjectID = later.subjectID → earlier.writtenAt < later.readAt
  made : ∀ write ∈ session.writes, WriteMade session write
  recorded : ∀ id call, session.calls id = some call →
    call.progress = .succeeded → ∃ write ∈ session.writes, write.call = id
  answered : ∀ lookup ∈ session.lookups, Answered session lookup

section Step

variable {session next : Session Document}

theorem storedTrustList_of_linear
    (hcodec : ∀ list, codec.unmarshal (codec.marshal list) = .ok list)
    (hinv : Linear codec session) (subjectID : SubjectID) :
    storedTrustList codec session.store subjectID =
      lastWritten session.writes subjectID := by
  have hstored := hinv.stored subjectID
  unfold storedTrustList
  cases hentry : session.store.publisherKV.entries (subjectKey subjectID) with
  | none =>
    rw [hentry, Option.map_none] at hstored
    rw [Option.map_eq_none_iff.mp hstored.symm]
    rfl
  | some entry =>
    rw [hentry, Option.map_some] at hstored
    obtain ⟨list, hlast, hvalue⟩ := Option.map_eq_some_iff.mp hstored.symm
    rw [hlast, Option.bind_some, ← hvalue, hcodec]
    rfl

/-- Time passes for a call between its requests. -/
theorem Pending.later (hpending : Pending session subjectID revision readAt)
    (hstore : next.store = session.store)
    (hwrites : next.writes = session.writes)
    (hclock : session.clock ≤ next.clock) :
    Pending next subjectID revision readAt where
  past := Nat.lt_of_lt_of_le hpending.past hclock
  bound := by
    rw [hstore]
    exact hpending.bound
  untouched := by
    rw [hstore, hwrites]
    exact hpending.untouched

theorem WriteMade.later (hmade : WriteMade session write)
    (hclock : session.clock ≤ next.clock)
    (hcalls : next.calls write.call = session.calls write.call) :
    WriteMade next write where
  interval := hmade.interval
  past := Nat.lt_of_lt_of_le hmade.past hclock
  key := hmade.key
  call := by
    rw [hcalls]
    exact hmade.call

/-- A call moves on without a write. -/
theorem Linear.move (hinv : Linear codec session)
    (hunwritten : ∀ write ∈ session.writes, write.call ≠ id)
    (hprogress : call.progress ≠ .succeeded)
    (hpending : ∀ revision readAt, call.progress = .writing revision readAt →
      Pending (session.move id call) call.subjectID revision readAt) :
    Linear codec (session.move id call) where
  stored := hinv.stored
  revisions := hinv.revisions
  pending := by
    intro other found revision readAt hfound hwriting
    rcases update_eq_some hfound with ⟨rfl, rfl⟩ | ⟨-, hbefore⟩
    · exact hpending revision readAt hwriting
    · exact (hinv.pending other found revision readAt hbefore hwriting).later
        rfl rfl (Nat.le_succ _)
  ordered := hinv.ordered
  made := by
    intro write hwrite
    refine (hinv.made write hwrite).later (Nat.le_succ _) ?_
    exact Function.update_of_ne (hunwritten write hwrite) ..
  recorded := by
    intro other found hfound hsucceeded
    rcases update_eq_some hfound with ⟨rfl, rfl⟩ | ⟨-, hbefore⟩
    · exact absurd hsucceeded hprogress
    · exact hinv.recorded other found hbefore hsucceeded
  answered := fun lookup hlookup =>
    ⟨Nat.lt_succ_of_lt (hinv.answered lookup hlookup).past,
      (hinv.answered lookup hlookup).answer⟩

theorem Linear.unwritten (hinv : Linear codec session)
    (hcall : ∀ call, session.calls id = some call →
      call.progress.ended = false) :
    ∀ write ∈ session.writes, write.call ≠ id := by
  rintro write hwrite rfl
  obtain ⟨progress, hmade, hended, -⟩ := (hinv.made write hwrite).call
  rw [hcall _ hmade] at hended
  cases hended

theorem linear_looked
    (hcodec : ∀ list, codec.unmarshal (codec.marshal list) = .ok list)
    (hinv : Linear codec session) (subjectID : SubjectID)
    (issuer sub : String) (fault : Option GoError) :
    Linear codec (session.lookup codec subjectID issuer sub fault) := by
  refine ⟨hinv.stored, hinv.revisions, ?_, hinv.ordered, ?_, hinv.recorded, ?_⟩
  · intro id call revision readAt hcall hwriting
    exact (hinv.pending id call revision readAt hcall hwriting).later rfl rfl
      (Nat.le_succ _)
  · exact fun write hwrite => (hinv.made write hwrite).later (Nat.le_succ _) rfl
  · intro lookup hlookup
    rcases List.mem_append.mp hlookup with hold | hnew
    · exact ⟨Nat.lt_succ_of_lt (hinv.answered lookup hold).past,
        (hinv.answered lookup hold).answer⟩
    · obtain rfl := List.mem_singleton.mp hnew
      refine ⟨Nat.lt_succ_self _, ?_⟩
      have hall : writesBefore session.writes session.clock =
          session.writes := by
        rw [writesBefore, List.filter_eq_self]
        intro write hwrite
        exact decide_eq_true (hinv.made write hwrite).past
      change isPublisherTrusted codec session.store fault subjectID issuer sub =
        .ok true ↔ fault = none ∧ ∃ list, lastWritten (writesBefore
          session.writes session.clock) subjectID = some list ∧
            ⟨issuer, sub⟩ ∈ list
      rw [hall, ← storedTrustList_of_linear hcodec hinv]
      cases hkey : validKey (subjectKey subjectID) with
      | true =>
        exact isPublisherTrusted_eq_true_iff_of_key codec session.store fault
          hkey issuer sub
      | false =>
        refine iff_of_false
          (isPublisherTrusted_of_invalidKey codec _ _ hkey _ _) ?_
        rintro ⟨-, list, hlist, -⟩
        rw [storedTrustList_of_linear hcodec hinv] at hlist
        obtain ⟨write, hwrite, rfl⟩ := mem_of_lastWritten hlist
        rw [(hinv.made write hwrite).key] at hkey
        cases hkey

/-- A pending call after the write of another: on the same subject its revision
is no longer current. -/
theorem Pending.wrote {lost : Option GoError} {pendingAt : ℕ}
    (hpending : Pending session subjectID revision pendingAt) :
    Pending (session.wrote id call readAt
      { session.store with
        publisherKV := session.store.publisherKV.write
          (subjectKey call.subjectID) (codec.marshal call.publishers) } lost)
      subjectID revision pendingAt := by
  refine ⟨Nat.lt_succ_of_lt hpending.past, fun current hcurrent =>
    Nat.le_succ_of_le (hpending.bound current hcurrent), ?_⟩
  intro hsame write hwrite hsubject
  change ((session.store.publisherKV.write (subjectKey call.subjectID)
    (codec.marshal call.publishers)).entries (subjectKey subjectID)).map
      Revisioned.revision = revision at hsame
  by_cases heq : subjectID = call.subjectID
  · rw [heq, entries_write_self, Option.map_some] at hsame
    have hbound := hpending.bound _ hsame.symm
    exact absurd hbound (Nat.not_succ_le_self _)
  · rw [entries_write_of_ne _ _ (subjectKey_injective.ne heq)] at hsame
    rcases List.mem_append.mp hwrite with hold | hnew
    · exact hpending.untouched hsame write hold hsubject
    · obtain rfl := List.mem_singleton.mp hnew
      exact absurd hsubject.symm heq

/-- The bucket holds what is written last, also after one more write. -/
theorem Linear.stored_write (hinv : Linear codec session) (write : Write)
    (subjectID : SubjectID) :
    ((session.store.publisherKV.write (subjectKey write.subjectID)
        (codec.marshal write.publishers)).entries
          (subjectKey subjectID)).map Revisioned.value =
      (lastWritten (session.writes ++ [write]) subjectID).map
        codec.marshal := by
  by_cases heq : write.subjectID = subjectID
  · subst heq
    rw [entries_write_self, lastWritten_append_self]
    rfl
  · rw [entries_write_of_ne _ _ (subjectKey_injective.ne (Ne.symm heq)),
      lastWritten_append_of_ne _ heq]
    exact hinv.stored subjectID

theorem writesBefore_append_later {writes : List Write} {askedAt : ℕ}
    (hlater : askedAt ≤ write.writtenAt) :
    writesBefore (writes ++ [write]) askedAt = writesBefore writes askedAt := by
  simp [writesBefore, Nat.not_lt_of_le hlater]

theorem linear_wrote (lost : Option GoError) (hinv : Linear codec session)
    (hcall : session.calls id = some call)
    (hprogress : call.progress = .writing revision readAt)
    (hkey : validKey (subjectKey call.subjectID) = true)
    (hrevision : (session.store.publisherKV.entries
      (subjectKey call.subjectID)).map Revisioned.revision = revision) :
    Linear codec (session.wrote id call readAt
      { session.store with
        publisherKV := session.store.publisherKV.write
          (subjectKey call.subjectID) (codec.marshal call.publishers) }
      lost) := by
  have hpending := hinv.pending id call revision readAt hcall hprogress
  have hunwritten : ∀ write ∈ session.writes, write.call ≠ id := by
    refine hinv.unwritten fun found hfound => ?_
    obtain rfl := Option.mem_unique hcall hfound
    rw [hprogress]
    rfl
  refine ⟨?_, ?_, ?_, ?_, ?_, ?_, ?_⟩
  · exact hinv.stored_write ⟨id, call.subjectID, call.publishers, readAt,
      session.clock, lost.isSome⟩
  · intro key entry hentry
    exact revision_le_write hinv.revisions _ _ hentry
  · intro other found current pendingAt hfound hwriting
    rcases update_eq_some hfound with ⟨rfl, rfl⟩ | ⟨-, hbefore⟩
    · cases lost <;> cases hwriting
    · exact (hinv.pending other found current pendingAt hbefore hwriting).wrote
  · refine List.pairwise_append.mpr ⟨hinv.ordered, by simp, ?_⟩
    intro earlier hearlier later hlater hsubject
    obtain rfl := List.mem_singleton.mp hlater
    exact hpending.untouched hrevision earlier hearlier hsubject
  · intro write hwrite
    rcases List.mem_append.mp hwrite with hold | hnew
    · refine (hinv.made write hold).later (Nat.le_succ _) ?_
      exact Function.update_of_ne (hunwritten write hold) ..
    · obtain rfl := List.mem_singleton.mp hnew
      refine ⟨hpending.past, Nat.lt_succ_self _, hkey, _,
        Function.update_self .., ?_⟩
      cases lost <;> simp [Progress.ended]
  · intro other found hfound hsucceeded
    change Function.update session.calls id (some _) other = some found
      at hfound
    by_cases heq : other = id
    · exact ⟨_, List.mem_append_right _ (List.mem_singleton_self _), heq.symm⟩
    · rw [Function.update_of_ne heq] at hfound
      obtain ⟨write, hwrite, hid⟩ := hinv.recorded other found hfound hsucceeded
      exact ⟨write, List.mem_append_left _ hwrite, hid⟩
  · intro lookup hlookup
    obtain ⟨hpast, hanswer⟩ := hinv.answered lookup hlookup
    refine ⟨Nat.lt_succ_of_lt hpast, ?_⟩
    change lookup.answer = .ok true ↔ lookup.fault = none ∧ ∃ list,
      lastWritten (writesBefore (session.writes ++ [_]) lookup.askedAt)
        lookup.subjectID = some list ∧ _
    rw [writesBefore_append_later (Nat.le_of_lt hpast)]
    exact hanswer

theorem linear_step
    (hcodec : ∀ list, codec.unmarshal (codec.marshal list) = .ok list)
    (hinv : Linear codec session)
    (htransition : SessionTransition codec session next) :
    Linear codec next := by
  cases htransition with
  | @called id subjectID publishers hfresh =>
    refine hinv.move (hinv.unwritten fun call hcall => ?_) (by simp)
      fun revision readAt hwriting => by cases hwriting
    rw [hfresh] at hcall
    cases hcall
  | @read id call revision hcall hprogress hrevision =>
    refine hinv.move (hinv.unwritten fun found hfound => ?_) (by simp) ?_
    · obtain rfl := Option.mem_unique hcall hfound
      rw [hprogress]
      rfl
    · intro current readAt hwriting
      obtain ⟨rfl, rfl⟩ := Progress.writing.inj hwriting
      refine ⟨Nat.lt_succ_self _, ?_, ?_⟩
      · intro current hcurrent
        obtain ⟨entry, hentry, rfl⟩ := hrevision current hcurrent
        exact hinv.revisions _ entry hentry
      · intro _ write hwrite _
        exact (hinv.made write hwrite).past
  | @failed id call err hcall hprogress =>
    refine hinv.move (hinv.unwritten fun found hfound => ?_) (by simp)
      fun revision readAt hwriting => by cases hwriting
    obtain rfl := Option.mem_unique hcall hfound
    exact hprogress
  | wrote hcall hprogress hkey hrevision =>
    exact linear_wrote _ hinv hcall hprogress hkey hrevision
  | looked => exact linear_looked hcodec hinv _ _ _ _

end Step

/-! ## Linearizability -/

theorem linear_emptySession (codec : TrustCodec Document) :
    Linear codec emptySession where
  stored := fun _ => rfl
  revisions := fun _ _ hentry => by cases hentry
  pending := fun _ _ _ _ hcall => by cases hcall
  ordered := .nil
  made := fun _ hwrite => by cases hwrite
  recorded := fun _ _ hcall => by cases hcall
  answered := fun _ hlookup => by cases hlookup

theorem linear_of_reaches
    (hcodec : ∀ list, codec.unmarshal (codec.marshal list) = .ok list)
    {session : Session Document}
    (hreach : Reaches (sessionStep codec) anyStep emptySession session) :
    Linear codec session :=
  hreach.invariant (linear_emptySession codec) fun _ _ _ hinv _ hstep =>
    linear_step hcodec hinv (sessionStep_cases hstep)

/-- For any interleaving, with lost replies and failures of any request: of two
writes to one subject, the earlier one went through before the call of the later
one read; each write is within its call, which has succeeded unless the reply
was lost; a call that has succeeded has written, and one that has failed has
written only if the reply was lost; the stored lists are the last ones written;
and `IsPublisherTrusted` has answered true exactly when its read did not fail
and the last write to its subject before it had the pair. -/
theorem trust_lists_linearizable {codec : TrustCodec Document}
    (hcodec : ∀ list, codec.unmarshal (codec.marshal list) = .ok list)
    {session : Session Document}
    (hreach : Reaches (sessionStep codec) anyStep emptySession session) :
    (session.writes.Pairwise fun earlier later =>
        earlier.subjectID = later.subjectID →
          earlier.writtenAt < later.readAt) ∧
      (∀ write ∈ session.writes, write.readAt < write.writtenAt ∧
        ∃ progress, session.calls write.call =
            some ⟨write.subjectID, write.publishers, progress⟩ ∧
          (write.lost = false ↔ progress = .succeeded)) ∧
      (∀ id call, session.calls id = some call →
        call.progress = .succeeded →
          ∃ write ∈ session.writes, write.call = id) ∧
      (∀ id call err, session.calls id = some call →
        call.progress = .failed err →
          ∀ write ∈ session.writes, write.call = id → write.lost = true) ∧
      (∀ subjectID, storedTrustList codec session.store subjectID =
        lastWritten session.writes subjectID) ∧
      ∀ lookup ∈ session.lookups, lookup.answer = .ok true ↔
        lookup.fault = none ∧
          ∃ list, lastWritten (writesBefore session.writes lookup.askedAt)
              lookup.subjectID = some list ∧
            ⟨lookup.issuer, lookup.sub⟩ ∈ list := by
  have hlinear := linear_of_reaches hcodec hreach
  refine ⟨hlinear.ordered, ?_, hlinear.recorded, ?_,
    storedTrustList_of_linear hcodec hlinear,
    fun lookup hlookup => (hlinear.answered lookup hlookup).answer⟩
  · intro write hwrite
    obtain ⟨progress, hcall, -, hlost⟩ := (hlinear.made write hwrite).call
    exact ⟨(hlinear.made write hwrite).interval, progress, hcall, hlost⟩
  · rintro id call err hcall hfailed write hwrite rfl
    obtain ⟨progress, hmade, -, hlost⟩ := (hlinear.made write hwrite).call
    obtain rfl := Option.mem_unique hcall hmade
    rw [← Bool.not_eq_false, hlost]
    simp [show progress = .failed err from hfailed]

/-! ## A concrete interleaving -/

open Json in
/-- Trust lists as the documents that their JSON texts denote. -/
def documentCodec : TrustCodec Json where
  marshal := fun list => .arr (list.map fun entry =>
    .obj [("issuer", .str entry.issuer), ("sub", .str entry.sub)])
  unmarshal := fun document =>
    match document with
    | .arr items => .ok (items.map fun item =>
      ⟨((asObject item).bind (stringMember "issuer")).getD "",
        ((asObject item).bind (stringMember "sub")).getD ""⟩)
    | _ => .error (.message "json: cannot unmarshal value")

theorem unmarshal_marshal_documentCodec (list : List TrustEntry) :
    documentCodec.unmarshal (documentCodec.marshal list) = .ok list := by
  simp only [documentCodec, List.map_map, Except.ok.injEq]
  calc list.map _
      = list.map id := List.map_congr_left fun entry _ => rfl
    _ = list := List.map_id list

/-- Two calls race for the first list of `alpha`; a third one replaces it, and
its reply is lost. -/
def sampleSession : List SessionAction :=
  [.set 0 "alpha" [⟨"issuer", "scanner"⟩], .set 1 "alpha" [⟨"issuer", "rival"⟩],
    .read 0 none, .read 1 none, .write 0 none, .write 1 none,
    .lookup "alpha" "issuer" "scanner" none,
    .set 2 "alpha" [⟨"issuer", "builder"⟩], .read 2 none,
    .lose 2 (.message "nats: timeout"),
    .lookup "alpha" "issuer" "scanner" none]

/-- The second call of the race fails, and the answer changes with the third. -/
theorem sampleSession_linearizable :
    ∃ session : Session Json,
      Reaches (sessionStep documentCodec) anyStep emptySession session ∧
      session.writes.map (fun write => (write.readAt, write.writtenAt,
        write.lost)) = [(2, 4, false), (8, 9, true)] ∧
      session.lookups.map (fun lookup => lookup.answer.toOption) =
        [some true, some false] ∧
      storedTrustList documentCodec session.store "alpha" =
        lastWritten session.writes "alpha" := by
  have hobserved : ((run (sessionStep documentCodec) emptySession
      sampleSession).map fun session =>
        (session.writes.map fun write => (write.readAt, write.writtenAt,
          write.lost),
          session.lookups.map fun lookup => lookup.answer.toOption)) =
      some ([(2, 4, false), (8, 9, true)], [some true, some false]) := by
    decide +kernel
  obtain ⟨session, hrun, hvalues⟩ := Option.map_eq_some_iff.mp hobserved
  obtain ⟨hwrites, hlookups⟩ := Prod.mk.inj hvalues
  have hreach := reaches_of_run hrun
  obtain ⟨-, -, -, -, hstored, -⟩ :=
    trust_lists_linearizable unmarshal_marshal_documentCodec hreach
  exact ⟨session, hreach, hwrites, hlookups, hstored "alpha"⟩

/-- A call whose reply is lost fails and has changed the list. -/
theorem lost_reply_changes_list :
    ∃ session : Session Json,
      Reaches (sessionStep documentCodec) anyStep emptySession session ∧
      (∃ call err, session.calls 0 = some call ∧ call.progress = .failed err) ∧
      storedTrustList documentCodec session.store "alpha" =
        some [⟨"issuer", "scanner"⟩] := by
  obtain ⟨session, hrun, hcall, hstored⟩ : ∃ session : Session Json,
      run (sessionStep documentCodec) emptySession
        [.set 0 "alpha" [⟨"issuer", "scanner"⟩], .read 0 none,
          .lose 0 (.message "nats: timeout")] = some session ∧
      (∃ call err, session.calls 0 = some call ∧ call.progress = .failed err) ∧
      storedTrustList documentCodec session.store "alpha" =
        some [⟨"issuer", "scanner"⟩] :=
    ⟨_, rfl, ⟨_, _, rfl, rfl⟩, rfl⟩
  exact ⟨session, reaches_of_run hrun, hcall, hstored⟩

end ComplyTime.Trust
