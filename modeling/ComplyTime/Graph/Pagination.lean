import ComplyTime.Graph.EvidenceQuery
import ComplyTime.Graph.Queries

/-!
# Pages of evidence

`GetEvidence` clamps the requested page size and asks the writer for one page.
A client that starts without a cursor and sends back the cursor of each page
reads the evidence of a subject that matches its filter in order of the log
indices, each item once.  Evidence that is sealed while the client reads has a
larger index, so it does not disturb what was there when the client began.  A
filter by time is the exception: it compares times of two types, and the client
reads nothing.
-/

namespace ComplyTime.Graph

open Cypher RemoteStore

/-! ## `GetEvidence` -/

structure GetEvidenceParams where
  type : Option String
  since : Option Time
  before : Option Time
  cursor : Option String
  limit : Option Int64

structure EvidenceListResponse where
  evidence : List EvidenceItem
  nextCursor : Option String
  subjectId : String

/-- The page size asked for, at least 1 and at most 200. -/
def requestedLimit : Option Int64 → Int64
  | none => 50
  | some limit =>
    let limit := if 200 < limit.toInt then 200 else limit
    if limit.toInt < 1 then 1 else limit

def GetEvidenceParams.filter (params : GetEvidenceParams) :
    EvidenceFilter where
  artifactType := params.type
  since := params.since
  before := params.before
  cursor := params.cursor
  limit := some (requestedLimit params.limit)

def getEvidence (graph : EvidenceGraph) (id : String)
    (params : GetEvidenceParams) : Served EvidenceListResponse := do
  let result ← (evidence graph id params.filter).mapError serverError
  return ⟨result.evidence, result.nextCursor, result.subjectID⟩

/-- One request of a client that follows the cursors. -/
def requestPage (graph : EvidenceGraph) (id : String)
    (params : GetEvidenceParams) (cursor : Option String) :
    Served (Keyset.Page EvidenceItem String) :=
  (getEvidence graph id { params with cursor := cursor }).map
    fun response => ⟨response.evidence, response.nextCursor⟩

theorem requestedLimit_bounds (limit : Option Int64) :
    1 ≤ (requestedLimit limit).toInt ∧ (requestedLimit limit).toInt ≤ 200 := by
  cases limit with
  | none => decide
  | some limit =>
    rw [requestedLimit]
    by_cases hlarge : 200 < limit.toInt
    · simp only [if_pos hlarge]
      decide
    · simp only [if_neg hlarge]
      split
      · decide
      · omega

/-! ## What is asked for -/

/-- The evidence the filter of the request selects. -/
structure Asked (params : GetEvidenceParams) (item : EvidenceItem) : Prop where
  type : ∀ type ∈ params.type, item.artifactType = type
  since : ∀ since ∈ params.since, since ≤ item.sealed
  before : ∀ before ∈ params.before, item.sealed < before

/-- The request does not filter by time. -/
def GetEvidenceParams.Untimed (params : GetEvidenceParams) : Prop :=
  params.since = none ∧ params.before = none

/-- The item is evidence that targets the subject and has a publisher. -/
def IsEvidence (graph : EvidenceGraph) (subjectID : String)
    (item : EvidenceItem) : Prop :=
  ∃ row ∈ subjectRows graph subjectID, ReadsAs graph row item

/-- The subject is one node, and its evidence is as `UpsertEvidence` writes it,
with one publisher for each node and distinct log indices. -/
structure Paginable (graph : EvidenceGraph) (subjectID : String) : Prop where
  recorded : ∀ row ∈ subjectRows graph subjectID, ∃ item, ReadsAs graph row item
  oneSubject : ∀ left ∈ subjectRows graph subjectID,
    ∀ right ∈ subjectRows graph subjectID, left.subject = right.subject
  onePublisher : ∀ left ∈ subjectRows graph subjectID,
    ∀ right ∈ subjectRows graph subjectID, left.evidence = right.evidence →
      left.publisher = right.publisher
  distinct : ∀ left ∈ subjectRows graph subjectID,
    ∀ right ∈ subjectRows graph subjectID,
      integerProperty graph left.evidence "logIndex" =
        integerProperty graph right.evidence "logIndex" →
      left.evidence = right.evidence

/-- Between the requests evidence is only added, and what is added has a larger
index than what was there at the first request. -/
structure AddsLater (graphs : ℕ → EvidenceGraph) (subjectID : String) :
    Prop where
  keeps : ∀ count item, IsEvidence (graphs count) subjectID item →
    IsEvidence (graphs (count + 1)) subjectID item
  larger : ∀ count old item, IsEvidence (graphs 0) subjectID old →
    IsEvidence (graphs count) subjectID item →
    ¬ IsEvidence (graphs 0) subjectID item →
      old.logIndex.toInt < item.logIndex.toInt

variable {item : EvidenceItem}

section Listing

variable {graph : EvidenceGraph} {subjectID : String}
  {items : List EvidenceItem}

/-- Rows with one log index are one row. -/
theorem Paginable.row_eq (hpaginable : Paginable graph subjectID)
    {left right : EvidenceRow} (hleft : left ∈ subjectRows graph subjectID)
    (hright : right ∈ subjectRows graph subjectID)
    {first second : EvidenceItem} (hfirst : ReadsAs graph left first)
    (hsecond : ReadsAs graph right second)
    (hsame : first.logIndex = second.logIndex) : left = right := by
  have hevidence : left.evidence = right.evidence := by
    apply hpaginable.distinct left hleft right hright
    rw [hfirst.integerProperty_eq, hsecond.integerProperty_eq, hsame]
  have hsubject := hpaginable.oneSubject left hleft right hright
  have hpublisher := hpaginable.onePublisher left hleft right hright hevidence
  cases left
  cases right
  simp_all

theorem Paginable.exists_listsRows (hpaginable : Paginable graph subjectID) :
    ∃ items, ListsRows graph subjectID items := by
  let byIndex := fun left right : EvidenceItem =>
    left.logIndex.toInt ≤ right.logIndex.toInt
  let items := (subjectRows graph subjectID).map (rowItem graph)
  have hreads : ∀ row ∈ subjectRows graph subjectID,
      ReadsAs graph row (rowItem graph row) := by
    intro row hrow
    obtain ⟨item, hitem⟩ := hpaginable.recorded row hrow
    rw [hitem.rowItem_eq]
    exact hitem
  have hmem : ∀ item, item ∈ items.insertionSort byIndex ↔
      ∃ row ∈ subjectRows graph subjectID, rowItem graph row = item := by
    intro item
    rw [(List.perm_insertionSort byIndex items).mem_iff, List.mem_map]
  have hindices : ((items.insertionSort byIndex).map
      fun item => item.logIndex.toInt).Nodup := by
    apply ((List.perm_insertionSort byIndex items).map _).nodup_iff.mpr
    rw [List.map_map]
    apply List.Nodup.map_on _ ((nodup_evidenceRows graph).filter _)
    intro left hleft right hright hsame
    exact hpaginable.row_eq hleft hright (hreads left hleft)
      (hreads right hright) (Int64.toInt_inj.mp hsame)
  refine ⟨items.insertionSort byIndex, ?_, ?_, ?_, ?_⟩
  · intro row hrow
    exact ⟨rowItem graph row, (hmem _).mpr ⟨row, hrow, rfl⟩, hreads row hrow⟩
  · intro item hitem
    obtain ⟨row, hrow, rfl⟩ := (hmem item).mp hitem
    exact ⟨row, hrow, hreads row hrow⟩
  · intro left hleft right hright item hfirst hsecond
    exact hpaginable.row_eq hleft hright hfirst hsecond rfl
  · have hordered := List.pairwise_insertionSort byIndex items
    have hdistinct := List.pairwise_map.mp hindices
    exact hordered.imp₂ (fun _ _ hle hne => lt_of_le_of_ne hle hne) hdistinct

theorem ListsRows.mem_iff (hlists : ListsRows graph subjectID items) :
    item ∈ items ↔ IsEvidence graph subjectID item := by
  constructor
  · exact hlists.complete item
  · rintro ⟨row, hrow, hreads⟩
    obtain ⟨other, hother, hreads'⟩ := hlists.reads row hrow
    rw [← hreads.rowItem_eq, hreads'.rowItem_eq]
    exact hother

theorem ListsRows.unique {other : List EvidenceItem}
    (hlists : ListsRows graph subjectID items)
    (hother : ListsRows graph subjectID other) : items = other := by
  have hperm : items.Perm other := by
    apply (List.perm_ext_iff_of_nodup (nodup_items hlists)
      (nodup_items hother)).mpr
    intro item
    rw [hlists.mem_iff, hother.mem_iff]
  apply hperm.eq_of_pairwise _ hlists.ordered hother.ordered
  intro left right _ _ hless hgreater
  exact absurd hless (lt_asymm hgreater)

end Listing

/-! ## Following the cursors -/

section Following

variable {graph : EvidenceGraph} {subjectID : String}
  {items : List EvidenceItem} {params : GetEvidenceParams}

/-- The items the filter of the request selects. -/
def matchingItems (params : GetEvidenceParams) (items : List EvidenceItem) :
    List EvidenceItem :=
  items.filter (itemMatches { params with cursor := none }.filter)

theorem mem_matchingItems (huntimed : params.Untimed) :
    item ∈ matchingItems params items ↔ item ∈ items ∧ Asked params item := by
  obtain ⟨hsince, hbefore⟩ := huntimed
  rw [matchingItems, List.mem_filter]
  have hclause : itemMatches { params with cursor := none }.filter item =
      true ↔ Asked params item := by
    simp only [itemMatches, GetEvidenceParams.filter, cursorIndex, hsince,
      hbefore, Bool.and_eq_true, Option.bind_none, Option.map_none,
      Option.all_none, Option.all_eq_true, decide_eq_true_eq, and_true]
    constructor
    · intro htype
      exact ⟨htype, by simp [hsince], by simp [hbefore]⟩
    · exact Asked.type
  rw [hclause]

theorem matchingItems_of_timed (htimed : ¬ params.Untimed) :
    matchingItems params items = [] := by
  apply List.filter_eq_nil_iff.mpr
  intro item _ hmatches
  simp only [itemMatches, GetEvidenceParams.filter, Bool.and_eq_true,
    Option.all_eq_true] at hmatches
  obtain ⟨⟨⟨-, hsince⟩, hbefore⟩, -⟩ := hmatches
  refine htimed ⟨?_, ?_⟩
  · exact Option.eq_none_iff_forall_not_mem.mpr fun since hmem =>
      absurd (hsince since hmem) (by simp [sealedSince, Temporal.compare])
  · exact Option.eq_none_iff_forall_not_mem.mpr fun before hmem =>
      absurd (hbefore before hmem) (by simp [sealedBefore, Temporal.compare])

/-- The place of an item in the order of the pages. -/
def place (item : EvidenceItem) : ℤ := item.logIndex.toInt

/-- The cursor of a page that ends with the item. -/
def cursorAt (item : EvidenceItem) : String := encodeCursor item.logIndex

theorem filter_cursorAt (params : GetEvidenceParams)
    (items : List EvidenceItem) (last : Option EvidenceItem) :
    items.filter (itemMatches { params with
      cursor := last.map cursorAt }.filter) =
    Keyset.after place last (matchingItems params items) := by
  rw [Keyset.after, matchingItems, List.filter_filter]
  apply List.filter_congr
  intro item _
  cases last with
  | none => simp
  | some last =>
    have hcursor : cursorIndex (some (cursorAt last)) = some last.logIndex :=
      cursorIndex_encodeCursor last.logIndex
    have hnone : cursorIndex none = none := rfl
    simp only [itemMatches, GetEvidenceParams.filter, Option.map_some,
      hcursor, hnone, Option.all_some, Option.all_none, Bool.and_true, place]
    exact Bool.and_comm _ _

theorem requestPage_eq (hlists : ListsRows graph subjectID items)
    (params : GetEvidenceParams) (last : Option EvidenceItem) :
    requestPage graph subjectID params (last.map cursorAt) =
      .ok (Keyset.pageOf (requestedLimit params.limit).toInt.toNat cursorAt
        (Keyset.after place last (matchingItems params items))) := by
  have hbounds := requestedLimit_bounds params.limit
  let asked : GetEvidenceParams := { params with cursor := last.map cursorAt }
  have hlimit : pageLimit asked.filter = requestedLimit params.limit := by
    have hpos : 0 < (requestedLimit params.limit).toInt := by omega
    exact if_pos hpos
  have hoverflow : ¬ (pageLimit asked.filter + 1).toInt < 0 := by
    rw [hlimit, Int64.toInt_add, Int64.toInt_one,
      Int.bmod_eq_of_le (by omega) (by omega)]
    omega
  have hevidence := evidence_of_rows hlists asked.filter
  unfold evidenceOf at hevidence
  rw [if_neg hoverflow, hlimit, filter_cursorAt] at hevidence
  rw [requestPage, getEvidence, hevidence]
  rfl

theorem requestPage_of_timed (hpaginable : Paginable graph subjectID)
    (htimed : ¬ params.Untimed) :
    requestPage graph subjectID params none = .ok ⟨[], none⟩ := by
  obtain ⟨items, hlists⟩ := hpaginable.exists_listsRows
  have hpage := requestPage_eq hlists params none
  rw [matchingItems_of_timed htimed] at hpage
  rw [Option.map_none] at hpage
  rw [hpage]
  simp [Keyset.after, Keyset.pageOf]

end Following

/-! ## Exactness -/

/-- What the client has after `count` requests: pages of at most 200 items,
none empty unless there is only one, with `matching` in its place, in order
and without repetition, and nothing else but matching evidence. -/
structure ReadsExactly (graph : EvidenceGraph) (subjectID : String)
    (params : GetEvidenceParams) (matching : List EvidenceItem) (count : ℕ)
    (visit : Keyset.Visit EvidenceItem String) : Prop where
  bounded : ∀ page ∈ visit.pages, page.length ≤ 200
  inhabited : visit.pages = [[]] ∨ ∀ page ∈ visit.pages, 1 ≤ page.length
  ordered : visit.pages.flatten.Pairwise fun left right =>
    left.logIndex.toInt < right.logIndex.toInt
  delivered : ∀ item ∈ visit.pages.flatten,
    IsEvidence graph subjectID item ∧ Asked params item
  inPlace : visit.pages.flatten <+: matching ∨ matching <+: visit.pages.flatten
  covers : visit.resume = none ∨ matching.length ≤ count →
    matching <+: visit.pages.flatten

section Exactness

variable {graphs : ℕ → EvidenceGraph} {subjectID : String}
  {items : ℕ → List EvidenceItem} {params : GetEvidenceParams}

theorem grows_matchingItems
    (hlists : ∀ count, ListsRows (graphs count) subjectID (items count))
    (hadds : AddsLater graphs subjectID) (params : GetEvidenceParams) :
    Keyset.Grows place fun count => matchingItems params (items count) := by
  have hordered : ∀ count, (matchingItems params (items count)).Pairwise
      fun left right => place left < place right :=
    fun count => (hlists count).ordered.filter _
  have hkeeps : ∀ count, items count ⊆ items (count + 1) := by
    intro count item hitem
    exact (hlists (count + 1)).mem_iff.mpr
      (hadds.keeps count item ((hlists count).mem_iff.mp hitem))
  have hstays : ∀ count, items 0 ⊆ items count := by
    intro count
    induction count with
    | zero => exact List.Subset.refl _
    | succ count ih => exact List.Subset.trans ih (hkeeps count)
  refine ⟨hordered, ?_, ?_⟩
  · intro count
    exact List.filter_subset _ (hkeeps count)
  · intro count
    apply Keyset.prefix_of_larger (hordered 0) (hordered count)
    · exact List.filter_subset _ (hstays count)
    · intro item hitem hnew earlier hearlier
      obtain ⟨hitem, hmatches⟩ := List.mem_filter.mp hitem
      apply hadds.larger count earlier item
      · exact (hlists 0).mem_iff.mp (List.mem_filter.mp hearlier).1
      · exact (hlists count).mem_iff.mp hitem
      · intro hpresent
        exact hnew (List.mem_filter.mpr
          ⟨(hlists 0).mem_iff.mpr hpresent, hmatches⟩)

theorem readsExactly_of_reached {count : ℕ}
    {visit : Keyset.Visit EvidenceItem String} (huntimed : params.Untimed)
    (hlists : ∀ count, ListsRows (graphs count) subjectID (items count))
    (hreached : Keyset.Reached (requestedLimit params.limit).toInt.toNat place
      cursorAt (fun count => matchingItems params (items count)) count visit) :
    ReadsExactly (graphs count) subjectID params
      (matchingItems params (items 0)) count visit := by
  have hbounds := requestedLimit_bounds params.limit
  have htracks := hreached.tracks
  refine ⟨?_, ?_, htracks.ordered, ?_, htracks.comparable, ?_⟩
  · intro page hpage
    have hle := htracks.bounded page hpage
    omega
  · apply htracks.inhabited.imp_right
    intro hne page hpage
    exact List.length_pos_iff.mpr (hne page hpage)
  · intro item hitem
    obtain ⟨hmem, hasked⟩ :=
      (mem_matchingItems huntimed).mp (htracks.delivered hitem)
    exact ⟨(hlists count).mem_iff.mp hmem, hasked⟩
  · exact hreached.covers (by omega)

end Exactness

def sampleRecord (logIndex : Int64) : EvidenceRecord :=
  ⟨logIndex, "sha256:abc", "sha256:def", "ControlCatalog", "sealed",
    "my-app-v1", "https://idp", "arch", 1⟩

def sampleItem (logIndex : Int64) : EvidenceItem :=
  ⟨logIndex, "sha256:abc", "ControlCatalog", "sealed", 1,
    ⟨"https://idp", "arch"⟩⟩

def firstSample : EvidenceGraph :=
  upsertEvidence (sampleRecord 3) (upsertPublisher "https://idp" "arch"
    (upsertSubject "my-app-v1" Graph.empty))

def laterSample : EvidenceGraph := upsertEvidence (sampleRecord 7) firstSample

/-- One entry at the first request, two from then on. -/
def sampleGraphs : ℕ → EvidenceGraph
  | 0 => firstSample
  | _ + 1 => laterSample

theorem subjectRows_firstSample :
    subjectRows firstSample "my-app-v1" = [⟨0, 2, 1⟩] := by
  decide +kernel

theorem subjectRows_laterSample :
    subjectRows laterSample "my-app-v1" = [⟨0, 3, 1⟩, ⟨0, 2, 1⟩] := by
  decide +kernel

theorem readsAs_firstSample :
    ReadsAs firstSample ⟨0, 2, 1⟩ (sampleItem 3) :=
  ⟨by decide +kernel, by decide +kernel⟩

theorem readsAs_laterSample :
    ReadsAs laterSample ⟨0, 2, 1⟩ (sampleItem 3) ∧
      ReadsAs laterSample ⟨0, 3, 1⟩ (sampleItem 7) :=
  ⟨⟨by decide +kernel, by decide +kernel⟩, by decide +kernel, by decide +kernel⟩

theorem isEvidence_firstSample :
    IsEvidence firstSample "my-app-v1" item ↔ item = sampleItem 3 := by
  rw [IsEvidence, subjectRows_firstSample]
  constructor
  · rintro ⟨row, hrow, hreads⟩
    rw [List.mem_singleton.mp hrow] at hreads
    rw [← hreads.rowItem_eq, readsAs_firstSample.rowItem_eq]
  · rintro rfl
    exact ⟨_, List.mem_singleton_self _, readsAs_firstSample⟩

theorem isEvidence_laterSample :
    IsEvidence laterSample "my-app-v1" item ↔
      item = sampleItem 3 ∨ item = sampleItem 7 := by
  rw [IsEvidence, subjectRows_laterSample]
  constructor
  · rintro ⟨row, hrow, hreads⟩
    rcases List.mem_pair.mp hrow with rfl | rfl
    · right
      rw [← hreads.rowItem_eq, readsAs_laterSample.2.rowItem_eq]
    · left
      rw [← hreads.rowItem_eq, readsAs_laterSample.1.rowItem_eq]
  · rintro (rfl | rfl)
    · exact ⟨⟨0, 2, 1⟩, by simp, readsAs_laterSample.1⟩
    · exact ⟨⟨0, 3, 1⟩, by simp, readsAs_laterSample.2⟩

theorem paginable_sampleGraphs (count : ℕ) :
    Paginable (sampleGraphs count) "my-app-v1" := by
  cases count with
  | zero =>
    change Paginable firstSample "my-app-v1"
    refine ⟨?_, ?_, ?_, ?_⟩ <;> rw [subjectRows_firstSample]
    · simpa using ⟨_, readsAs_firstSample⟩
    · decide
    · decide
    · decide +kernel
  | succ count =>
    change Paginable laterSample "my-app-v1"
    refine ⟨?_, ?_, ?_, ?_⟩ <;> rw [subjectRows_laterSample]
    · simpa using
        ⟨⟨_, readsAs_laterSample.2⟩, ⟨_, readsAs_laterSample.1⟩⟩
    · decide
    · decide
    · decide +kernel

theorem addsLater_sampleGraphs : AddsLater sampleGraphs "my-app-v1" := by
  constructor
  · intro count item hitem
    cases count with
    | zero =>
      exact isEvidence_laterSample.mpr
        (.inl (isEvidence_firstSample.mp hitem))
    | succ count => exact hitem
  · intro count old item hold hitem hnew
    obtain rfl := isEvidence_firstSample.mp hold
    cases count with
    | zero => exact absurd hitem hnew
    | succ count =>
      rcases isEvidence_laterSample.mp hitem with rfl | rfl
      · exact absurd (isEvidence_firstSample.mpr rfl) hnew
      · decide

/-- Pages of one item, without a filter. -/
def onePerPage : GetEvidenceParams := ⟨none, none, none, none, some 0⟩

/-- Everything since the epoch. -/
def sinceEpoch : GetEvidenceParams := ⟨none, some 0, none, none, none⟩

end ComplyTime.Graph
