import ComplyTime.Core.TileLayout
import ComplyTime.Core.Sha256
import ComplyTime.Core.TransitionSystem
import ComplyTime.Gateway.Ingest
import ComplyTime.Locker.Ledgers

/-!
# Reading a ledger back

`Fetch` waits until an index is integrated, reads the entry bundle that covers
it and picks the entry.  `rebuildDigestIndex` fetches one index after the other
and stops at the first failure; `NewLedger` logs that failure and keeps the
index as far as it came.  What the log reader answers is part of the input: any
call may fail, and the deadline of the caller may pass at any poll.
-/

namespace ComplyTime.Rebuild

open DigestIndex TileLayout Ledgers

/-! ## Entry bundles -/

/-- Every entry stands behind its length in two bytes; `count` bounds the number
of entries. -/
def unmarshalEntries : ℕ → Bytes → Except GoError (List Bytes)
  | _, [] => .ok []
  | 0, _ :: _ => .error (.message "too many entries")
  | _ + 1, [_] => .error (.message "dangling bytes")
  | count + 1, high :: low :: data =>
    let size := high.toNat * 256 + low.toNat
    if size ≤ data.length then
      (unmarshalEntries count (data.drop size)).map (data.take size :: ·)
    else .error (.message "require more bytes for an entry")

/-- `EntryBundle.UnmarshalText`. -/
def unmarshalBundle (bundleData : Bytes) : Except GoError (List Bytes) :=
  unmarshalEntries bundleData.length bundleData

def marshalBundle (entries : List Bytes) : Bytes :=
  entries.flatMap fun data => UInt8.ofNat (data.length / 256) ::
    UInt8.ofNat (data.length % 256) :: data

theorem unmarshalEntries_marshalBundle {entries : List Bytes}
    (hsizes : ∀ data ∈ entries, data.length < 65536) {count : ℕ}
    (hcount : entries.length ≤ count) :
    unmarshalEntries count (marshalBundle entries) = .ok entries := by
  induction entries generalizing count with
  | nil => cases count <;> rfl
  | cons data entries ih =>
    obtain ⟨count, rfl⟩ : ∃ fewer, count = fewer + 1 :=
      ⟨count - 1, by simp at hcount; omega⟩
    have hdata := hsizes data List.mem_cons_self
    have hsize : (UInt8.ofNat (data.length / 256)).toNat * 256 +
        (UInt8.ofNat (data.length % 256)).toNat = data.length := by
      simp only [UInt8.toNat_ofNat']
      omega
    have hrest := ih (fun later hlater => hsizes later
      (List.mem_cons_of_mem _ hlater)) (Nat.le_of_succ_le_succ hcount)
    change unmarshalEntries (count + 1) (_ :: _ :: (data ++
      marshalBundle entries)) = _
    rw [unmarshalEntries]
    simp only [hsize]
    simp [hrest, Except.map]

theorem unmarshalBundle_marshalBundle {entries : List Bytes}
    (hsizes : ∀ data ∈ entries, data.length < 65536) :
    unmarshalBundle (marshalBundle entries) = .ok entries := by
  apply unmarshalEntries_marshalBundle hsizes
  induction entries with
  | nil => exact Nat.zero_le _
  | cons data entries ih =>
    have hrest := ih fun later hlater =>
      hsizes later (List.mem_cons_of_mem _ hlater)
    simp only [marshalBundle, List.flatMap_cons, List.length_append,
      List.length_cons] at hrest ⊢
    omega

/-! ## `Fetch` -/

/-- `layout.EntryBundleWidth`. -/
def entryBundleWidth : ℕ := 256

/-- What the `select` of `waitForIntegration` receives before the timer of 30
seconds fires: a tick, on which the integrated size is read, or the end of the
caller's context. -/
inductive WaitEvent
  | tick (integratedSize : Except GoError ℕ)
  | done (err : GoError)

/-- The answers that one `Fetch` gets. -/
structure FetchCalls where
  waitEvents : List WaitEvent
  integratedSize : Except GoError ℕ
  readEntryBundle : ℕ → ℕ → Except GoError Bytes

def waitForIntegration (targetIndex : ℕ) :
    List WaitEvent → Except GoError Unit
  | [] => .error (.message ("timeout waiting for index " ++
      toString targetIndex ++ " to be integrated"))
  | .done err :: _ => .error err
  | .tick (.error err) :: _ => .error (.within "checking integrated size" err)
  | .tick (.ok size) :: events =>
    if targetIndex < size then .ok ()
    else waitForIntegration targetIndex events

section Fetch

variable (unmarshalText : Bytes → Except GoError (List Bytes))

/-- The entry of a bundle that covers `index`. -/
def selectEntry (index : ℕ) (bundleData : Bytes) : Except GoError Bytes :=
  match unmarshalText bundleData with
  | .error err => .error (.within "parsing entry bundle" err)
  | .ok entries =>
    match entries[index % entryBundleWidth]? with
    | none => .error (.wrap "" .indexOutOfRange
        (": entry " ++ toString index ++ " not in bundle"))
    | some data => .ok data

def fetch (calls : FetchCalls) (index : ℕ) : Except GoError Bytes :=
  match waitForIntegration index calls.waitEvents with
  | .error err => .error err
  | .ok () =>
    match calls.integratedSize with
    | .error err => .error (.within "getting integrated size" err)
    | .ok size =>
      if size ≤ index then
        .error (.wrap "" .indexOutOfRange (": index " ++ toString index ++
          ", size " ++ toString size))
      else
        match calls.readEntryBundle (index / entryBundleWidth)
            (partialTileSize entryBundleWidth 0
              (index / entryBundleWidth) size) with
        | .error err => .error (.within "reading entry bundle" err)
        | .ok bundleData => selectEntry unmarshalText index bundleData

end Fetch

/-! ## `rebuildDigestIndex` and `NewLedger` -/

/-- The answers that one `NewLedger` gets: the outcome of everything before the
rebuild, the integrated size at its start, and those of each `Fetch`. -/
structure OpeningCalls where
  prepared : Except GoError Unit
  integratedSize : Except GoError ℕ
  fetchCalls : ℕ → FetchCalls

/-- The index after `rebuildDigestIndex`, the number of entries it has fetched
and the error it returns. -/
structure Rebuilt where
  digestIndex : Index String
  fetched : ℕ
  err : Option GoError

section Rebuild

variable (sha256Hex : Bytes → String)
  (unmarshalText : Bytes → Except GoError (List Bytes)) (calls : OpeningCalls)

/-- The loop of `rebuildDigestIndex` with `remaining` indices to go. -/
def rebuildFrom (digestIndex : Index String) (index : ℕ) : ℕ → Rebuilt
  | 0 => ⟨digestIndex, index, none⟩
  | remaining + 1 =>
    match fetch unmarshalText (calls.fetchCalls index) index with
    | .error err => ⟨digestIndex, index,
        some (.within ("fetching index " ++ toString index) err)⟩
    | .ok data => rebuildFrom (record digestIndex (sha256Hex data) index)
        (index + 1) remaining

def rebuildDigestIndex : Rebuilt :=
  match calls.integratedSize with
  | .error err => ⟨empty, 0, some err⟩
  | .ok size => rebuildFrom sha256Hex unmarshalText calls empty 0 size

/-- The error of the rebuild is logged and dropped. -/
def newLedger : Except GoError Ledger :=
  match calls.prepared with
  | .error err => .error err
  | .ok () =>
    .ok ⟨(rebuildDigestIndex sha256Hex unmarshalText calls).digestIndex⟩

end Rebuild

/-! ## Honest readers -/

/-- Every bundle that is read is the bundle of the log. -/
def FetchCalls.Honest (unmarshalText : Bytes → Except GoError (List Bytes))
    (log : List Entry) (calls : FetchCalls) : Prop :=
  ∀ bundleIndex partialSize bundleData,
    calls.readEntryBundle bundleIndex partialSize = .ok bundleData →
    unmarshalText bundleData = .ok ((bundle entryBundleWidth log bundleIndex
      partialSize).map Entry.data)

/-- A reader that is honest may fail at any time. -/
def OpeningCalls.Honest (unmarshalText : Bytes → Except GoError (List Bytes))
    (log : List Entry) (calls : OpeningCalls) : Prop :=
  ∀ index, (calls.fetchCalls index).Honest unmarshalText log

section Honest

variable {sha256Hex : Bytes → String}
  {unmarshalText : Bytes → Except GoError (List Bytes)} {log : List Entry}

variable {index : ℕ} {calls : OpeningCalls}

theorem getElem?_of_fetch {calls : FetchCalls} {data : Bytes}
    (hhonest : calls.Honest unmarshalText log)
    (hfetch : fetch unmarshalText calls index = .ok data) :
    ∃ entry, log[index]? = some entry ∧ entry.data = data := by
  unfold fetch at hfetch
  split at hfetch
  · cases hfetch
  split at hfetch
  · cases hfetch
  split at hfetch
  · cases hfetch
  split at hfetch
  · cases hfetch
  rename_i bundleData hread
  rw [selectEntry, hhonest _ _ bundleData hread] at hfetch
  simp only at hfetch
  split at hfetch
  · cases hfetch
  rename_i found hfound
  obtain rfl := Except.ok.inj hfetch
  rw [List.getElem?_map, Option.map_eq_some_iff] at hfound
  obtain ⟨entry, hentry, hdata⟩ := hfound
  exact ⟨entry, getElem?_of_bundle hentry, hdata⟩

variable (sha256Hex) in
/-- How far the loop came, and that it scanned the log up to there. -/
theorem rebuildFrom_spec (hhonest : calls.Honest unmarshalText log)
    (digestIndex : Index String) (index remaining : ℕ) :
    ∃ count, count ≤ remaining ∧
      (rebuildFrom sha256Hex unmarshalText calls digestIndex index
        remaining).fetched = index + count ∧
      (rebuildFrom sha256Hex unmarshalText calls digestIndex index
        remaining).digestIndex =
          scanFrom (fun entry => sha256Hex entry.data) index
            ((log.drop index).take count) digestIndex ∧
      ((rebuildFrom sha256Hex unmarshalText calls digestIndex index
        remaining).err = none → count = remaining) := by
  induction remaining generalizing digestIndex index with
  | zero => exact ⟨0, by simp [rebuildFrom, scanFrom]⟩
  | succ remaining ih =>
    cases hfetch : fetch unmarshalText (calls.fetchCalls index) index with
    | error err => exact ⟨0, by simp [rebuildFrom, scanFrom, hfetch]⟩
    | ok data =>
      obtain ⟨entry, hentry, rfl⟩ := getElem?_of_fetch (hhonest index) hfetch
      obtain ⟨hlt, hget⟩ := List.getElem?_eq_some_iff.mp hentry
      obtain ⟨count, hle, hfetched, hscan, hcomplete⟩ := ih
        (record digestIndex (sha256Hex entry.data) index) (index + 1)
      refine ⟨count + 1, by omega, ?_⟩
      simp only [rebuildFrom, hfetch]
      refine ⟨by omega, ?_, fun hnone => by have := hcomplete hnone; omega⟩
      rw [hscan, List.drop_eq_getElem_cons hlt, hget, List.take_succ_cons,
        scanFrom]

/-- The rebuild computes the scan of the entries that it has fetched. -/
theorem digestIndex_rebuildDigestIndex
    (hhonest : calls.Honest unmarshalText log) :
    (rebuildDigestIndex sha256Hex unmarshalText calls).digestIndex =
      Ledgers.rebuildDigestIndex sha256Hex log
        (rebuildDigestIndex sha256Hex unmarshalText calls).fetched := by
  unfold rebuildDigestIndex
  split
  · simp [Ledgers.rebuildDigestIndex, scan, scanFrom]
  · rename_i size hsize
    obtain ⟨count, -, hfetched, hscan, -⟩ := rebuildFrom_spec
      sha256Hex hhonest empty 0 size
    rw [hscan, hfetched, Ledgers.rebuildDigestIndex, scan, Nat.zero_add,
      List.drop_zero]

/-- A rebuild without an error has fetched the whole integrated log. -/
theorem fetched_of_complete (hhonest : calls.Honest unmarshalText log)
    (hcomplete : (rebuildDigestIndex sha256Hex unmarshalText calls).err =
      none) :
    calls.integratedSize =
      .ok (rebuildDigestIndex sha256Hex unmarshalText calls).fetched := by
  unfold rebuildDigestIndex at hcomplete ⊢
  split
  · rename_i err hsize
    simp [hsize] at hcomplete
  · rename_i size hsize
    simp only [hsize] at hcomplete
    obtain ⟨count, -, hfetched, -, hcount⟩ := rebuildFrom_spec
      sha256Hex hhonest empty 0 size
    rw [hfetched, hcount hcomplete, Nat.zero_add, hsize]

/-- Whatever size below or equal to that of the log is read, the bundle, its
partial size and the offset select the entry. -/
theorem selectEntry_bundle {entry : Entry} {index size : ℕ}
    {bundleData : Bytes} (hsize : index < size)
    (hentry : log[index]? = some entry)
    (hbundle : unmarshalText bundleData = .ok ((bundle entryBundleWidth log
      (index / entryBundleWidth) (partialTileSize entryBundleWidth 0
        (index / entryBundleWidth) size)).map Entry.data)) :
    selectEntry unmarshalText index bundleData = .ok entry.data := by
  have hfound : ((bundle entryBundleWidth log (index / entryBundleWidth)
      (partialTileSize entryBundleWidth 0 (index / entryBundleWidth)
        size)).map Entry.data)[index % entryBundleWidth]? =
          some entry.data := by
    rw [List.getElem?_map, getElem?_bundle (by decide) hsize, hentry,
      Option.map_some]
  rw [selectEntry, hbundle]
  simp only [hfound]

theorem newLedger_eq_ok {ledger : Ledger}
    (hhonest : calls.Honest unmarshalText log)
    (hopened : newLedger sha256Hex unmarshalText calls = .ok ledger) :
    ledger = Ledgers.newLedger sha256Hex log
      (rebuildDigestIndex sha256Hex unmarshalText calls).fetched := by
  unfold newLedger at hopened
  split at hopened
  · cases hopened
  · obtain rfl := Except.ok.inj hopened
    rw [Ledgers.newLedger, digestIndex_rebuildDigestIndex hhonest]

/-! ## What the answers let the rebuild read -/

/-- A poll finds the index below the size, after polls that do not fail. -/
def Integrates (index : ℕ) (waitEvents : List WaitEvent) : Prop :=
  ∃ waiting size later, waitEvents = waiting ++ .tick (.ok size) :: later ∧
    index < size ∧ ∀ event ∈ waiting, ∃ seen ≤ index, event = .tick (.ok seen)

/-- Nothing fails or times out in the `Fetch`: the wait ends, the size that is
read next is above the index, and the bundle is read. -/
def FetchCalls.Answered (calls : FetchCalls) (index : ℕ) : Prop :=
  Integrates index calls.waitEvents ∧
  ∃ size bundleData, calls.integratedSize = .ok size ∧ index < size ∧
    calls.readEntryBundle (index / entryBundleWidth)
      (partialTileSize entryBundleWidth 0 (index / entryBundleWidth) size) =
        .ok bundleData

/-- The index is below the size that the rebuild reads at its start, and every
`Fetch` up to it is answered. -/
def OpeningCalls.Reads (calls : OpeningCalls) (index : ℕ) : Prop :=
  (∃ size, calls.integratedSize = .ok size ∧ index < size) ∧
    ∀ earlier ≤ index, (calls.fetchCalls earlier).Answered earlier

theorem waitForIntegration_eq_ok_iff {waitEvents : List WaitEvent} :
    waitForIntegration index waitEvents = .ok () ↔
      Integrates index waitEvents := by
  constructor
  · intro hwaited
    fun_induction waitForIntegration index waitEvents with
    | case1 => cases hwaited
    | case2 => cases hwaited
    | case3 => cases hwaited
    | case4 size events hlt => exact ⟨[], size, events, rfl, hlt, by simp⟩
    | case5 size events hle ih =>
      obtain ⟨waiting, reached, later, rfl, hlt, hwaiting⟩ := ih hwaited
      refine ⟨.tick (.ok size) :: waiting, reached, later, rfl, hlt, ?_⟩
      rintro event (_ | ⟨_, hevent⟩)
      · exact ⟨size, Nat.not_lt.mp hle, rfl⟩
      · exact hwaiting event hevent
  · rintro ⟨waiting, size, later, rfl, hlt, hwaiting⟩
    induction waiting with
    | nil => exact if_pos hlt
    | cons event waiting ih =>
      obtain ⟨seen, hseen, rfl⟩ := hwaiting event List.mem_cons_self
      have hrest := ih fun later hlater =>
        hwaiting later (List.mem_cons_of_mem _ hlater)
      exact (if_neg (Nat.not_lt.mpr hseen)).trans hrest

theorem fetch_isOk_iff {calls : FetchCalls}
    (hhonest : calls.Honest unmarshalText log) (hlt : index < log.length) :
    (∃ data, fetch unmarshalText calls index = .ok data) ↔
      calls.Answered index := by
  rw [FetchCalls.Answered, ← waitForIntegration_eq_ok_iff]
  unfold fetch
  cases hwait : waitForIntegration index calls.waitEvents with
  | error err => simp
  | ok _ =>
    cases hsize : calls.integratedSize with
    | error err => simp
    | ok size =>
      by_cases hle : size ≤ index
      · simp [hle, Nat.not_lt.mpr hle]
      · cases hread : calls.readEntryBundle (index / entryBundleWidth)
          (partialTileSize entryBundleWidth 0 (index / entryBundleWidth)
            size) with
        | error err => simp [hle, hread]
        | ok bundleData =>
          have hselect := selectEntry_bundle (Nat.not_le.mp hle)
            (List.getElem?_eq_getElem hlt)
            (hhonest _ _ bundleData hread)
          simp [hle, hread, hselect, Nat.not_le.mp hle]

theorem lt_fetched_rebuildFrom_iff (calls : OpeningCalls)
    (digestIndex : Index String) (start remaining index : ℕ) :
    index < (rebuildFrom sha256Hex unmarshalText calls digestIndex start
        remaining).fetched ↔
      index < start ∨ index < start + remaining ∧
        ∀ earlier, start ≤ earlier → earlier ≤ index →
          ∃ data, fetch unmarshalText (calls.fetchCalls earlier) earlier =
            .ok data := by
  induction remaining generalizing digestIndex start with
  | zero =>
    simp only [rebuildFrom, Nat.add_zero]
    tauto
  | succ remaining ih =>
    rw [rebuildFrom]
    cases hfetch : fetch unmarshalText (calls.fetchCalls start) start with
    | error err =>
      refine ⟨.inl, ?_⟩
      rintro (hlt | ⟨-, hall⟩)
      · exact hlt
      · by_contra hge
        obtain ⟨data, hdata⟩ := hall start le_rfl (Nat.not_lt.mp hge)
        rw [hfetch] at hdata
        cases hdata
    | ok data =>
      simp only
      rw [ih]
      constructor
      · rintro (hlt | ⟨hlt, hall⟩)
        · rcases Nat.lt_succ_iff_lt_or_eq.mp hlt with hbefore | rfl
          · exact .inl hbefore
          · refine .inr ⟨by omega, fun earlier hfrom hto => ?_⟩
            obtain rfl := Nat.le_antisymm hto hfrom
            exact ⟨data, hfetch⟩
        · refine .inr ⟨by omega, fun earlier hfrom hto => ?_⟩
          rcases Nat.eq_or_lt_of_le hfrom with rfl | hlater
          · exact ⟨data, hfetch⟩
          · exact hall earlier hlater hto
      · rintro (hlt | ⟨hlt, hall⟩)
        · exact .inl (Nat.lt_succ_of_lt hlt)
        · refine .inr ⟨by omega, fun earlier hfrom hto => ?_⟩
          exact hall earlier (Nat.le_of_succ_le hfrom) hto

theorem lt_fetched_iff (hhonest : calls.Honest unmarshalText log)
    (hlt : index < log.length) :
    index < (rebuildDigestIndex sha256Hex unmarshalText calls).fetched ↔
      calls.Reads index := by
  have hfetches : (∀ earlier ≤ index, ∃ data, fetch unmarshalText
      (calls.fetchCalls earlier) earlier = .ok data) ↔
      ∀ earlier ≤ index, (calls.fetchCalls earlier).Answered earlier :=
    forall₂_congr fun earlier hle =>
      fetch_isOk_iff (hhonest earlier) (Nat.lt_of_le_of_lt hle hlt)
  rw [OpeningCalls.Reads, ← hfetches, rebuildDigestIndex]
  cases hsize : calls.integratedSize with
  | error err => simp
  | ok size => simp [lt_fetched_rebuildFrom_iff]

/-! ## What an opened ledger knows -/

variable (sha256Hex) in
/-- `VerifyDigest` finds every entry of the log. -/
def Knows (ledger : Ledger) (log : List Entry) : Prop :=
  ∀ entry ∈ log, (ledger.verifyDigest (sha256Hex entry.data)).isSome

/-- An opened ledger finds the digests of the entries that were read. -/
theorem isSome_verifyDigest_iff {ledger : Ledger} {digest : String}
    (hhonest : calls.Honest unmarshalText log)
    (hopened : newLedger sha256Hex unmarshalText calls = .ok ledger) :
    (ledger.verifyDigest digest).isSome ↔
      ∃ index known, log[index]? = some known ∧
        sha256Hex known.data = digest ∧ calls.Reads index := by
  obtain rfl := newLedger_eq_ok hhonest hopened
  refine (isSome_scan_iff fun entry : Entry => sha256Hex entry.data).trans ?_
  constructor
  · rintro ⟨known, hknown, hdigest⟩
    obtain ⟨index, hget⟩ := List.mem_iff_getElem?.mp hknown
    rw [List.getElem?_take, Option.ite_none_right_eq_some] at hget
    obtain ⟨hlt, -⟩ := List.getElem?_eq_some_iff.mp hget.2
    exact ⟨index, known, hget.2, hdigest, (lt_fetched_iff hhonest hlt).mp hget.1⟩
  · rintro ⟨index, known, hget, hdigest, hreads⟩
    obtain ⟨hlt, -⟩ := List.getElem?_eq_some_iff.mp hget
    refine ⟨known, List.mem_iff_getElem?.mpr ⟨index, ?_⟩, hdigest⟩
    rw [List.getElem?_take, if_pos ((lt_fetched_iff hhonest hlt).mpr hreads),
      hget]

/-- An opened ledger knows all entries exactly when every one of them has the
digest of an entry that the answers let the rebuild read; where no two entries
have one digest, exactly when they let it read the whole log. -/
theorem opened_ledger_knows_iff {calls : OpeningCalls} {ledger : Ledger}
    (hhonest : calls.Honest unmarshalText log)
    (hopened : newLedger sha256Hex unmarshalText calls = .ok ledger) :
    (Knows sha256Hex ledger log ↔
      ∀ entry ∈ log, ∃ index known, log[index]? = some known ∧
        sha256Hex known.data = sha256Hex entry.data ∧ calls.Reads index) ∧
    ((log.map fun entry => sha256Hex entry.data).Nodup →
      (Knows sha256Hex ledger log ↔
        ∀ index < log.length, calls.Reads index)) := by
  have hknows : Knows sha256Hex ledger log ↔
      ∀ entry ∈ log, ∃ index known, log[index]? = some known ∧
        sha256Hex known.data = sha256Hex entry.data ∧ calls.Reads index :=
    forall₂_congr fun entry _ => isSome_verifyDigest_iff hhonest hopened
  refine ⟨hknows, fun hdistinct => hknows.trans ⟨?_, ?_⟩⟩
  · intro hread index hlt
    obtain ⟨found, known, hget, hdigest, hreads⟩ :=
      hread _ (List.getElem_mem hlt)
    obtain ⟨hfound, rfl⟩ := List.getElem?_eq_some_iff.mp hget
    have hsame : found = index := by
      apply (List.getElem?_inj (by simpa using hfound) hdistinct).mp
      simpa [hfound, hlt] using hdigest
    rwa [← hsame]
  · intro hread entry hentry
    obtain ⟨index, hlt, rfl⟩ := List.getElem_of_mem hentry
    exact ⟨index, _, List.getElem?_eq_getElem hlt, rfl, hread index hlt⟩

end Honest

/-! ## A deadline during the rebuild -/

/-- `SHA256Hex`. -/
def sha256Hex (data : Bytes) : String := Ingest.hexString (Sha256.sha256 data)

/-- A log of two entries. -/
def sampleLog : List Entry := [⟨[1], .worker⟩, ⟨[2], .worker⟩]

/-- A `Fetch` on a log that does not grow. -/
def sampleFetch (log : List Entry) (waitEvents : List WaitEvent) :
    FetchCalls where
  waitEvents := waitEvents
  integratedSize := .ok log.length
  readEntryBundle := fun bundleIndex partialSize =>
    if partialSize =
        partialTileSize entryBundleWidth 0 bundleIndex log.length then
      .ok (marshalBundle ((bundle entryBundleWidth log bundleIndex
        partialSize).map Entry.data))
    else .error (.message "file does not exist")

/-- An opening in which the deadline passes when `reached` entries are
fetched. -/
def sampleOpening (log : List Entry) (reached : ℕ) : OpeningCalls where
  prepared := .ok ()
  integratedSize := .ok log.length
  fetchCalls := fun index => sampleFetch log
    (if index < reached then [.tick (.ok log.length)]
    else [.done (.message "context deadline exceeded")])

variable {log : List Entry}

theorem unmarshalBundle_bundle
    (hsizes : ∀ entry ∈ log, entry.data.length < 65536)
    (bundleIndex partialSize : ℕ) :
    unmarshalBundle (marshalBundle ((bundle entryBundleWidth log bundleIndex
      partialSize).map Entry.data)) =
        .ok ((bundle entryBundleWidth log bundleIndex partialSize).map
          Entry.data) := by
  apply unmarshalBundle_marshalBundle
  rintro data hdata
  obtain ⟨entry, hentry, rfl⟩ := List.mem_map.mp hdata
  exact hsizes entry (List.mem_of_mem_drop (List.mem_of_mem_take hentry))

theorem honest_sampleOpening (reached : ℕ)
    (hsizes : ∀ entry ∈ log, entry.data.length < 65536) :
    (sampleOpening log reached).Honest unmarshalBundle log := by
  intro index bundleIndex partialSize bundleData hread
  simp only [sampleOpening, sampleFetch] at hread
  split at hread
  · rw [← Except.ok.inj hread]
    exact unmarshalBundle_bundle hsizes bundleIndex partialSize
  · cases hread

theorem reads_sampleOpening_iff {reached index : ℕ} (hlt : index < log.length) :
    (sampleOpening log reached).Reads index ↔ index < reached := by
  constructor
  · rintro ⟨-, hanswered⟩
    by_contra hlate
    obtain ⟨hwait, -⟩ := hanswered index le_rfl
    rw [← waitForIntegration_eq_ok_iff] at hwait
    simp only [sampleOpening, sampleFetch, if_neg hlate] at hwait
    cases hwait
  · intro hreached
    refine ⟨⟨log.length, rfl, hlt⟩, fun earlier hle => ⟨?_, ?_⟩⟩
    · have hearly : earlier < reached := Nat.lt_of_le_of_lt hle hreached
      simp only [sampleOpening, sampleFetch, if_pos hearly]
      exact ⟨[], log.length, [], rfl, Nat.lt_of_le_of_lt hle hlt, by simp⟩
    · exact ⟨log.length, _, rfl, Nat.lt_of_le_of_lt hle hlt, if_pos rfl⟩

theorem sampleLog_known :
    ∃ ledger, newLedger sha256Hex unmarshalBundle
        (sampleOpening sampleLog 2) = .ok ledger ∧
      Knows sha256Hex ledger sampleLog := by
  refine ⟨_, rfl, ?_⟩
  have hhonest : (sampleOpening sampleLog 2).Honest unmarshalBundle
      sampleLog := honest_sampleOpening 2 (by decide)
  apply ((opened_ledger_knows_iff hhonest rfl).2 (by decide +kernel)).mpr
  exact fun index hlt => (reads_sampleOpening_iff hlt).mpr hlt

/-- The deadline passes after the first entry, `NewLedger` returns no error,
and the second entry is not found. -/
theorem sampleLog_not_known :
    ∃ ledger, newLedger sha256Hex unmarshalBundle
        (sampleOpening sampleLog 1) = .ok ledger ∧
      (sampleOpening sampleLog 1).Honest unmarshalBundle sampleLog ∧
      (sampleOpening sampleLog 1).integratedSize = .ok sampleLog.length ∧
      ¬ Knows sha256Hex ledger sampleLog := by
  have hhonest : (sampleOpening sampleLog 1).Honest unmarshalBundle
      sampleLog := honest_sampleOpening 1 (by decide)
  refine ⟨_, rfl, hhonest, rfl, fun hknows => ?_⟩
  have hfound := hknows ⟨[2], .worker⟩ (by simp [sampleLog])
  obtain ⟨index, known, hget, hdigest, hreads⟩ :=
    (isSome_verifyDigest_iff hhonest rfl).mp hfound
  obtain ⟨hlt, -⟩ := List.getElem?_eq_some_iff.mp hget
  obtain rfl : index = 0 :=
    Nat.lt_one_iff.mp ((reads_sampleOpening_iff hlt).mp hreads)
  have hne : sha256Hex [1] ≠ sha256Hex [2] := by decide +kernel
  obtain rfl := Option.some.inj hget
  exact hne hdigest

end ComplyTime.Rebuild
