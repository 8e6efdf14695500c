import ComplyTime.Locker.Rebuild
import ComplyTime.Locker.TileServer

/-!
# Fetching one receipt

`FetchReceipt` hands the index to `Fetch` and tells an index that is out of
range from every other failure.  The log may grow at any time: the polls of
`waitForIntegration`, the size that is read afterwards and the bundle belong to
logs each of which continues the one before.

The wait ends well only when a poll has seen the index below the size, so that
the range check behind it finds nothing left to refuse; an index that is absent
throughout runs into the timer instead.
-/

namespace ComplyTime.Rebuild

open DigestIndex TileLayout Ledgers Subjects

/-! ## Waiting -/

/-- Polls that all succeed. -/
def polls (sizes : List ℕ) : List WaitEvent :=
  sizes.map fun size => .tick (.ok size)

def timeoutError (index : ℕ) : GoError :=
  .message ("timeout waiting for index " ++ toString index ++
    " to be integrated")

variable {index : ℕ}

theorem waitForIntegration_polls_eq_ok {sizes : List ℕ}
    (hreached : ∃ size ∈ sizes, index < size) :
    waitForIntegration index (polls sizes) = .ok () := by
  induction sizes with
  | nil => simp at hreached
  | cons size sizes ih =>
    change (if index < size then .ok ()
      else waitForIntegration index (polls sizes)) = Except.ok ()
    split
    · rfl
    · rename_i hnot
      obtain ⟨later, hlater, hlt⟩ := hreached
      rcases List.mem_cons.mp hlater with rfl | hlater
      · exact absurd hlt hnot
      · exact ih ⟨later, hlater, hlt⟩

theorem waitForIntegration_polls_eq_error {sizes : List ℕ}
    (hnever : ∀ size ∈ sizes, size ≤ index) :
    waitForIntegration index (polls sizes) = .error (timeoutError index) := by
  induction sizes with
  | nil => rfl
  | cons size sizes ih =>
    change (if index < size then .ok ()
      else waitForIntegration index (polls sizes)) = Except.error _
    rw [if_neg (Nat.not_lt.mpr (hnever size List.mem_cons_self))]
    exact ih fun later hlater => hnever later (List.mem_cons_of_mem _ hlater)

/-! ## A log that grows during the call -/

section Growing

variable {unmarshalText : Bytes → Except GoError (List Bytes)}

/-- The answers of a reader that does not fail, on a log that grows: the logs
at the polls, the log whose size is read, and the log the bundle is read from.
-/
structure FetchCalls.Growing
    (unmarshalText : Bytes → Except GoError (List Bytes)) (calls : FetchCalls)
    (polled : List (List Entry)) (sized read : List Entry) : Prop where
  waits : calls.waitEvents = polls (polled.map List.length)
  polled_grown : ∀ log ∈ polled, log <+: sized
  sizes : calls.integratedSize = .ok sized.length
  sized_grown : sized <+: read
  reads : ∀ bundleIndex partialSize,
    entryBundleWidth * bundleIndex < read.length →
    ∃ bundleData,
      calls.readEntryBundle bundleIndex partialSize = .ok bundleData ∧
      unmarshalText bundleData = .ok ((bundle entryBundleWidth read
        bundleIndex partialSize).map Entry.data)

/-- The bundle of an index that the log holds is a bundle of the log. -/
theorem bundle_start_lt {index size : ℕ} (hlt : index < size) :
    entryBundleWidth * (index / entryBundleWidth) < size :=
  Nat.lt_of_le_of_lt (Nat.mul_div_le index entryBundleWidth) hlt

theorem getElem?_of_grown {early late : List Entry} {entry : Entry}
    (hgrown : early <+: late) (hentry : early[index]? = some entry) :
    late[index]? = some entry := by
  obtain ⟨hlt, rfl⟩ := List.getElem?_eq_some_iff.mp hentry
  exact List.prefix_iff_getElem?.mp hgrown index hlt

/-- The part of `Fetch` after the wait. -/
theorem fetch_of_growing {calls : FetchCalls} {polled : List (List Entry)}
    {sized read : List Entry} {entry : Entry}
    (hgrowing : calls.Growing unmarshalText polled sized read)
    (hwaited : waitForIntegration index calls.waitEvents = .ok ())
    (hentry : sized[index]? = some entry) :
    fetch unmarshalText calls index = .ok entry.data := by
  obtain ⟨hsize, -⟩ := List.getElem?_eq_some_iff.mp hentry
  have hread := getElem?_of_grown hgrowing.sized_grown hentry
  obtain ⟨hlength, -⟩ := List.getElem?_eq_some_iff.mp hread
  obtain ⟨bundleData, hanswer, hbundle⟩ := hgrowing.reads
    (index / entryBundleWidth) (partialTileSize entryBundleWidth 0
      (index / entryBundleWidth) sized.length) (bundle_start_lt hlength)
  rw [fetch, hwaited, hgrowing.sizes]
  simp only [Nat.not_le.mpr hsize, if_false, hanswer]
  exact selectEntry_bundle hsize hread hbundle

/-- An index below a size that `Fetch` has read is below every size it reads
later, and `Fetch` returns the bytes that every one of the logs holds there. -/
theorem fetch_returns_sealed {calls : FetchCalls} {polled : List (List Entry)}
    {sized read : List Entry} {index : ℕ}
    (hgrowing : calls.Growing unmarshalText polled sized read)
    (hpolled : ∃ log ∈ polled, index < log.length) :
    index < sized.length ∧
      ∃ entry, fetch unmarshalText calls index = .ok entry.data ∧
        read[index]? = some entry ∧ sized[index]? = some entry ∧
        ∀ log ∈ polled, index < log.length → log[index]? = some entry := by
  obtain ⟨early, hearly, hindex⟩ := hpolled
  have hentry : sized[index]? = some (early.get ⟨index, hindex⟩) :=
    getElem?_of_grown (hgrowing.polled_grown early hearly)
      (List.getElem?_eq_getElem hindex)
  have hwaited : waitForIntegration index calls.waitEvents = .ok () := by
    rw [hgrowing.waits]
    exact waitForIntegration_polls_eq_ok
      ⟨early.length, List.mem_map_of_mem hearly, hindex⟩
  refine ⟨(List.getElem?_eq_some_iff.mp hentry).1, _,
    fetch_of_growing hgrowing hwaited hentry,
    getElem?_of_grown hgrowing.sized_grown hentry, hentry, ?_⟩
  intro log hlog hlt
  have hsame := getElem?_of_grown (hgrowing.polled_grown log hlog)
    (List.getElem?_eq_getElem hlt)
  rw [hentry] at hsame
  rw [List.getElem?_eq_getElem hlt, hsame]

/-- A log of one-byte entries that are numbered from 0. -/
def numberedLog (size : ℕ) : List Entry :=
  (List.range size).map fun index => ⟨[UInt8.ofNat index], .worker⟩

/-- Two polls, the second of which sees 258 entries; the size is read when there
are 260 and the bundle when there are 300. -/
def growingCalls : FetchCalls where
  waitEvents := polls [0, 258]
  integratedSize := .ok 260
  readEntryBundle := fun bundleIndex partialSize =>
    .ok (marshalBundle ((bundle entryBundleWidth (numberedLog 300) bundleIndex
      partialSize).map Entry.data))

theorem numberedLog_grown {size later : ℕ} (hle : size ≤ later) :
    numberedLog size <+: numberedLog later := by
  have hrange : List.range size <+: List.range later := by
    rw [← Nat.min_eq_left hle, ← List.take_range]
    exact List.take_prefix _ _
  exact hrange.map _

@[simp]
theorem length_numberedLog (size : ℕ) : (numberedLog size).length = size := by
  simp [numberedLog]

theorem growing_growingCalls :
    growingCalls.Growing unmarshalBundle [numberedLog 0, numberedLog 258]
      (numberedLog 260) (numberedLog 300) where
  waits := by simp [growingCalls]
  polled_grown := by
    intro log hlog
    rcases List.mem_pair.mp hlog with rfl | rfl
    · exact numberedLog_grown (by decide)
    · exact numberedLog_grown (by decide)
  sizes := by simp [growingCalls]
  sized_grown := numberedLog_grown (by decide)
  reads := by
    intro bundleIndex partialSize _
    refine ⟨_, rfl, unmarshalBundle_bundle ?_ bundleIndex partialSize⟩
    intro entry hentry
    obtain ⟨index, -, rfl⟩ := List.mem_map.mp hentry
    simp

theorem second_bundle_returned :
    fetch unmarshalBundle growingCalls 257 = .ok [1] := by
  obtain ⟨-, entry, hfetch, -, -, hlogs⟩ :=
    fetch_returns_sealed growing_growingCalls
      ⟨numberedLog 258, by simp, (by simp : 257 < (numberedLog 258).length)⟩
  have hentry : (numberedLog 258)[257]? = some ⟨[1], .worker⟩ := by
    simp [numberedLog]
  rw [hfetch, ← Option.some.inj (hentry.symm.trans
    (hlogs (numberedLog 258) (by simp) (by simp)))]

end Growing

/-! ## `FetchReceipt` -/

/-- `errors.Is(err, ErrIndexOutOfRange)`: the sentinel anywhere in the chain. -/
def isIndexOutOfRange : GoError → Bool
  | .indexOutOfRange => true
  | .wrap _ cause _ => isIndexOutOfRange cause
  | _ => false

/-- `FetchReceipt`; an error is sent as the message of a JSON object. -/
def fetchReceipt (unmarshalText : Bytes → Except GoError (List Bytes))
    (locker : Locker) (calls : FetchCalls) (subjectID : SubjectID)
    (index : Int64) : TileServer.Response :=
  match locker.getLedger subjectID with
  | none => .error 404 "ledger not found"
  | some _ =>
    if index < 0 then .error 400 "index must be non-negative"
    else
      match fetch unmarshalText calls index.toNatClampNeg with
      | .error err =>
        if isIndexOutOfRange err then .error 404 "receipt not found"
        else .error 500 err.error
      | .ok receipt => .content "application/octet-stream" receipt

/-- Neither the log reader fails nor the request is cancelled: what the polls
read, and the size that is read after a successful wait. -/
structure FetchCalls.Uninterrupted (calls : FetchCalls) (polled : List ℕ)
    (size : ℕ) : Prop where
  waits : calls.waitEvents = polls polled
  sized : calls.integratedSize = .ok size

/-- The failure is the sentinel, and it is answered as such. -/
def NotFound (unmarshalText : Bytes → Except GoError (List Bytes))
    (locker : Locker) (calls : FetchCalls) (subjectID : SubjectID)
    (index : Int64) : Prop :=
  (∃ err, fetch unmarshalText calls index.toNatClampNeg = .error err ∧
    isIndexOutOfRange err = true) ∧
  fetchReceipt unmarshalText locker calls subjectID index =
    .error 404 "receipt not found"

section Absent

variable {unmarshalText : Bytes → Except GoError (List Bytes)}
  {locker : Locker} {calls : FetchCalls} {subjectID : SubjectID}
  {ledger : Ledger} {polled : List ℕ} {size : ℕ}

theorem fetchReceipt_of_error {index : Int64} {err : GoError}
    (hledger : locker.getLedger subjectID = some ledger) (hindex : 0 ≤ index)
    (hfetch : fetch unmarshalText calls index.toNatClampNeg = .error err) :
    fetchReceipt unmarshalText locker calls subjectID index =
      if isIndexOutOfRange err then .error 404 "receipt not found"
      else .error 500 err.error := by
  have hnonnegative : ¬ index < 0 := Int64.not_lt.mpr hindex
  simp only [fetchReceipt, hledger, if_neg hnonnegative, hfetch]

theorem fetch_absent (hcalls : calls.Uninterrupted polled size)
    (hnever : ∀ seen ∈ polled, seen ≤ index) :
    fetch unmarshalText calls index = .error (timeoutError index) := by
  rw [fetch, hcalls.waits, waitForIntegration_polls_eq_error hnever]

/-- Such an index is answered as a failure of the server. -/
theorem fetchReceipt_absent {index : Int64}
    (hledger : locker.getLedger subjectID = some ledger) (hindex : 0 ≤ index)
    (hcalls : calls.Uninterrupted polled size)
    (hnever : ∀ seen ∈ polled, seen ≤ index.toNatClampNeg) :
    fetchReceipt unmarshalText locker calls subjectID index =
      .error 500 (timeoutError index.toNatClampNeg).error :=
  fetchReceipt_of_error hledger hindex (fetch_absent hcalls hnever)

/-- The range check is reached only by an index that has been there. -/
theorem fetch_vanished (hcalls : calls.Uninterrupted polled size)
    (hseen : ∃ seen ∈ polled, index < seen) (habsent : size ≤ index) :
    fetch unmarshalText calls index =
      .error (.wrap "" .indexOutOfRange (": index " ++ toString index ++
        ", size " ++ toString size)) := by
  rw [fetch, hcalls.waits, waitForIntegration_polls_eq_ok hseen, hcalls.sized]
  simp only [habsent, if_true]

/-- An index that is not below the size when `Fetch` reads it is reported as
not found only if the log has lost it since a poll. -/
theorem absent_index_notFound_iff {index : Int64}
    (hledger : locker.getLedger subjectID = some ledger) (hindex : 0 ≤ index)
    (hcalls : calls.Uninterrupted polled size)
    (habsent : size ≤ index.toNatClampNeg) :
    NotFound unmarshalText locker calls subjectID index ↔
      ∃ seen ∈ polled, index.toNatClampNeg < seen := by
  constructor
  · rintro ⟨⟨err, hfetch, hsentinel⟩, -⟩
    by_contra hseen
    have hnever : ∀ seen ∈ polled, seen ≤ index.toNatClampNeg := by
      intro seen hmem
      exact Nat.not_lt.mp fun hlt => hseen ⟨seen, hmem, hlt⟩
    rw [fetch_absent hcalls hnever] at hfetch
    obtain rfl := Except.error.inj hfetch
    cases hsentinel
  · intro hseen
    have hfetch : fetch unmarshalText calls index.toNatClampNeg = _ :=
      fetch_vanished hcalls hseen habsent
    exact ⟨⟨_, hfetch, rfl⟩, fetchReceipt_of_error hledger hindex hfetch⟩

end Absent

/-- A locker with the log of one subject. -/
def sampleLocker : Locker where
  logs := fun _ => some sampleLog
  ledgers := fun _ => some ⟨empty⟩

/-- The answers for a log that has `size` entries when the size is read. -/
def sizesSeen (polled : List ℕ) (size : ℕ) : FetchCalls where
  waitEvents := polls polled
  integratedSize := .ok size
  readEntryBundle := fun _ _ => .error (.message "file does not exist")

/-- A log that is cut to two entries between the poll and the reading. -/
theorem vanished_index_notFound :
    NotFound unmarshalBundle sampleLocker (sizesSeen [3] 2) "payments" 2 :=
  (absent_index_notFound_iff rfl (by decide) ⟨rfl, rfl⟩ (by decide)).mpr
    ⟨3, by decide, by decide⟩

/-- Index 2 of a log that has two entries throughout. -/
theorem absent_index_times_out :
    (∀ size ∈ [2, 2, 2], size ≤ 2) ∧
    (sizesSeen [2, 2, 2] 2).Uninterrupted [2, 2, 2] 2 ∧
    fetchReceipt unmarshalBundle sampleLocker (sizesSeen [2, 2, 2] 2)
      "payments" 2 = .error 500 "timeout waiting for index 2 to be integrated" ∧
    ¬ NotFound unmarshalBundle sampleLocker (sizesSeen [2, 2, 2] 2)
      "payments" 2 := by
  have hanswer : fetchReceipt unmarshalBundle sampleLocker
      (sizesSeen [2, 2, 2] 2) "payments" 2 =
        .error 500 "timeout waiting for index 2 to be integrated" :=
    fetchReceipt_absent rfl (by decide) ⟨rfl, rfl⟩ (by decide)
  refine ⟨by decide, ⟨rfl, rfl⟩, hanswer, ?_⟩
  rintro ⟨-, hfound⟩
  rw [hanswer] at hfound
  cases hfound

end ComplyTime.Rebuild
