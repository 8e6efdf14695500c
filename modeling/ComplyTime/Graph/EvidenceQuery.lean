import ComplyTime.Graph.Handling

/-!
# What the evidence query returns

The rows of the query are the pairs of an evidence node that targets the
subject and a publisher of it.  When the log indices of these rows are distinct
and every node is described in full, the query is determined by the items the
rows stand for: it returns the page of the items in order of their log index.
-/

namespace ComplyTime.Graph

open Cypher Keyed RemoteStore

/-! ## The query over a list of items -/

def itemMatches (filter : EvidenceFilter) (item : EvidenceItem) : Bool :=
  (filter.artifactType.all fun artifactType =>
    decide (item.artifactType = artifactType)) &&
  (filter.since.all fun since => sealedSince item.sealed since) &&
  (filter.before.all fun before => sealedBefore item.sealed before) &&
  ((cursorIndex filter.cursor).all fun cursor =>
    decide (cursor.toInt < item.logIndex.toInt))

/-- The page of the matching items, which are in order. -/
def evidenceOf (items : List EvidenceItem) (subjectID : String)
    (filter : EvidenceFilter) : Outcome EvidenceResult :=
  let limit := pageLimit filter
  if (limit + 1).toInt < 0 then
    .error (.error (.message
      "Limit on number of returned elements must be non-negative."))
  else
    let page := Keyset.pageOf limit.toInt.toNat
      (fun item => encodeCursor item.logIndex)
      (items.filter (itemMatches filter))
    .ok ⟨subjectID, page.items, page.next⟩

/-- The item stands for a row of the subject. -/
structure IsItem (graph : Materialized) (subjectID : String)
    (item : EvidenceItem) : Prop where
  targets : graph.link (.evidence item.logIndex) .targets (.subject subjectID)
  published : graph.link (.evidence item.logIndex) .publishedBy
    (.publisher item.publisher)
  described : ∃ properties,
    graph.node (.evidence item.logIndex) = some properties ∧
    properties "digest" = some (.text item.digest) ∧
    properties "artifactType" = some (.text item.artifactType) ∧
    properties "status" = some (.text item.status) ∧
    properties "sealed" = some (.localDateTime item.sealed)

/-- The items are those of the subject's rows, in order of distinct log
indices, and no row is without an item. -/
structure Lists (graph : Materialized) (subjectID : String)
    (items : List EvidenceItem) : Prop where
  mem_iff : ∀ item, item ∈ items ↔ IsItem graph subjectID item
  ordered : items.Pairwise fun left right =>
    left.logIndex.toInt < right.logIndex.toInt
  complete : ∀ logIndex publisher,
    graph.link (.evidence logIndex) .targets (.subject subjectID) →
    graph.link (.evidence logIndex) .publishedBy (.publisher publisher) →
      ∃ item ∈ items, item.logIndex = logIndex ∧ item.publisher = publisher

theorem pageLimit_pos (filter : EvidenceFilter) :
    0 < (pageLimit filter).toInt := by
  unfold pageLimit
  split
  · decide
  · split
    · assumption
    · decide

theorem toNat_limit_succ {limit : Int64} (hpos : 0 < limit.toInt)
    (hlimit : ¬ (limit + 1).toInt < 0) :
    (limit + 1).toInt.toNat = limit.toInt.toNat + 1 := by
  have hbound := limit.toInt_lt
  rw [Int64.toInt_add, Int64.toInt_one] at hlimit ⊢
  by_cases hmax : limit.toInt = 2 ^ 63 - 1
  · rw [hmax] at hlimit
    exact absurd (by decide) hlimit
  · rw [Int.bmod_eq_of_le (by omega) (by omega)]
    omega

/-! ## Rows -/

section Rows

variable {graph : EvidenceGraph} {materialized : Materialized}
  {subjectID : String}

theorem exists_subject {index : ℕ} (hkeys : schema.Keys graph)
    (hfits : graph.fitsAt (anyOf .subject) index = true) :
    ∃ subjectID, schema.At graph (.subject subjectID) index := by
  obtain ⟨key, hat, hlabel⟩ := exists_key hkeys hfits
  cases key with
  | subject subjectID => exact ⟨subjectID, hat⟩
  | _ => cases hlabel

theorem exists_evidence {index : ℕ} (hkeys : schema.Keys graph)
    (hfits : graph.fitsAt (anyOf .evidence) index = true) :
    ∃ logIndex, schema.At graph (.evidence logIndex) index := by
  obtain ⟨key, hat, hlabel⟩ := exists_key hkeys hfits
  cases key with
  | evidence logIndex => exact ⟨logIndex, hat⟩
  | _ => cases hlabel

/-- A row binds the nodes of a subject, of evidence that targets it and of a
publisher of that evidence. -/
structure RowOf (graph : EvidenceGraph) (materialized : Materialized)
    (row : EvidenceRow) (subjectID : String) (logIndex : Int64)
    (publisher : PublisherIdentity) : Prop where
  subjectAt : schema.At graph (.subject subjectID) row.subject
  evidenceAt : schema.At graph (.evidence logIndex) row.evidence
  publisherAt : schema.At graph (.publisher publisher) row.publisher
  targets : materialized.link (.evidence logIndex) .targets (.subject subjectID)
  published : materialized.link (.evidence logIndex) .publishedBy
    (.publisher publisher)

theorem mem_evidenceRows {row : EvidenceRow}
    (hrefines : schema.Refines graph materialized) :
    row ∈ evidenceRows graph ↔ ∃ subjectID logIndex publisher,
      RowOf graph materialized row subjectID logIndex publisher := by
  obtain ⟨subject, evidence, publisher⟩ := row
  simp only [evidenceRows, List.mem_map, Prod.exists, EvidenceRow.mk.injEq,
    Table.matchOutgoing, Table.matchIncoming, Table.matchNode, mem_rows_extend,
    mem_outgoing, mem_incoming, mem_select]
  constructor
  · rintro ⟨_, _, _, _, ⟨⟨⟨_, hsubject⟩, htargets, hevidence⟩, hpublished,
      hpublisher⟩, rfl, rfl, rfl⟩
    obtain ⟨subjectID, hsubject⟩ := exists_subject hrefines.keys hsubject
    obtain ⟨logIndex, hevidence⟩ := exists_evidence hrefines.keys hevidence
    obtain ⟨identity, hpublisher⟩ := exists_publisher hrefines.keys hpublisher
    refine ⟨subjectID, logIndex, identity, hsubject, hevidence, hpublisher,
      ?_, ?_⟩
    · rw [← hrefines.view_eq]
      exact ⟨_, _, hevidence, hsubject, htargets⟩
    · rw [← hrefines.view_eq]
      exact ⟨_, _, hevidence, hpublisher, hpublished⟩
  · rintro ⟨subjectID, logIndex, identity, hrow⟩
    have htargets := hrow.targets
    have hpublished := hrow.published
    rw [← hrefines.view_eq] at htargets hpublished
    obtain ⟨near, far, hnear, hfar, hmem⟩ := htargets
    obtain rfl := hrefines.keys.unique hrow.evidenceAt hnear
    obtain rfl := hrefines.keys.unique hrow.subjectAt hfar
    obtain ⟨near, far, hnear, hfar, hmem'⟩ := hpublished
    obtain rfl := hrefines.keys.unique hrow.evidenceAt hnear
    obtain rfl := hrefines.keys.unique hrow.publisherAt hfar
    exact ⟨(), _, _, _, ⟨⟨⟨List.mem_singleton_self _,
      fitsAt_anyOf hrow.subjectAt⟩, hmem, fitsAt_anyOf hrow.evidenceAt⟩, hmem',
      fitsAt_anyOf hrow.publisherAt⟩, rfl, rfl, rfl⟩

theorem nodup_evidenceRows (graph : EvidenceGraph) :
    (evidenceRows graph).Nodup :=
  nodup_path_rows graph EvidenceRow.mk.inj

end Rows

/-! ## Items -/

/-- The rows of the subject. -/
def subjectRows (graph : EvidenceGraph) (subjectID : String) :
    List EvidenceRow :=
  (evidenceRows graph).filter fun row =>
    decide (property graph row.subject "id" = some (.text subjectID))

/-- The row reads as the item, and its evidence was sealed at an instant. -/
structure ReadsAs (graph : EvidenceGraph) (row : EvidenceRow)
    (item : EvidenceItem) : Prop where
  decodes : evidenceItem graph row = .ok item
  sealedAt : timeProperty graph row.evidence "sealed" = some item.sealed

/-- The items are those of the subject's rows, one for each row, in order of
distinct log indices. -/
structure ListsRows (graph : EvidenceGraph) (subjectID : String)
    (items : List EvidenceItem) : Prop where
  reads : ∀ row ∈ subjectRows graph subjectID,
    ∃ item ∈ items, ReadsAs graph row item
  complete : ∀ item ∈ items,
    ∃ row ∈ subjectRows graph subjectID, ReadsAs graph row item
  single : ∀ left ∈ subjectRows graph subjectID,
    ∀ right ∈ subjectRows graph subjectID, ∀ item,
      ReadsAs graph left item → ReadsAs graph right item → left = right
  ordered : items.Pairwise fun left right =>
    left.logIndex.toInt < right.logIndex.toInt

section Items

variable {graph : EvidenceGraph} {subjectID : String}
  {items : List EvidenceItem} {row : EvidenceRow} {item : EvidenceItem}

variable {value : Option PropertyValue}

theorem assertString_eq_ok {content : String}
    (hvalue : assertString value = .ok content) :
    value = some (.text content) := by
  unfold assertString at hvalue
  split at hvalue
  · rw [Except.ok.inj hvalue]
  · cases hvalue

theorem assertInt64_eq_ok {number : Int64}
    (hvalue : assertInt64 value = .ok number) :
    value = some (.integer number) := by
  unfold assertInt64 at hvalue
  split at hvalue
  · rw [Except.ok.inj hvalue]
  · cases hvalue

/-- The properties a row that reads as an item has. -/
theorem evidenceItem_eq_ok (hitem : evidenceItem graph row = .ok item) :
    property graph row.evidence "logIndex" = some (.integer item.logIndex) ∧
    property graph row.evidence "digest" = some (.text item.digest) ∧
    property graph row.evidence "artifactType" =
      some (.text item.artifactType) ∧
    property graph row.evidence "status" = some (.text item.status) ∧
    publisherOf graph row.publisher = .ok item.publisher := by
  obtain ⟨logIndex, hindex, hitem⟩ := bind_eq_ok hitem
  obtain ⟨digest, hdigest, hitem⟩ := bind_eq_ok hitem
  obtain ⟨artifactType, htype, hitem⟩ := bind_eq_ok hitem
  obtain ⟨status, hstatus, hitem⟩ := bind_eq_ok hitem
  obtain ⟨publisher, hpublisher, hitem⟩ := bind_eq_ok hitem
  obtain rfl := Except.ok.inj hitem
  exact ⟨assertInt64_eq_ok hindex, assertString_eq_ok hdigest,
    assertString_eq_ok htype, assertString_eq_ok hstatus, hpublisher⟩

section

variable (hreads : ReadsAs graph row item)

include hreads

theorem ReadsAs.integerProperty_eq :
    integerProperty graph row.evidence "logIndex" = some item.logIndex := by
  rw [integerProperty, (evidenceItem_eq_ok hreads.decodes).1]

theorem ReadsAs.orderIndex_eq :
    orderIndex graph row = (item.logIndex.toInt : WithTop ℤ) := by
  rw [orderIndex, hreads.integerProperty_eq]
  rfl

theorem ReadsAs.whereClause_eq
    (hid : property graph row.subject "id" = some (.text subjectID))
    (filter : EvidenceFilter) :
    whereClause graph subjectID filter row = itemMatches filter item := by
  have htype := (evidenceItem_eq_ok hreads.decodes).2.2.1
  simp [whereClause, itemMatches, hid, htype, hreads.sealedAt,
    hreads.integerProperty_eq]

end

theorem mem_subjectRows :
    row ∈ subjectRows graph subjectID ↔ row ∈ evidenceRows graph ∧
      property graph row.subject "id" = some (.text subjectID) := by
  rw [subjectRows, List.mem_filter, decide_eq_true_eq]

/-- The item of a row, if it has one. -/
def rowItem (graph : EvidenceGraph) (row : EvidenceRow) : EvidenceItem :=
  (evidenceItem graph row).toOption.getD ⟨0, "", "", "", 0, ⟨"", ""⟩⟩

theorem ReadsAs.rowItem_eq (hreads : ReadsAs graph row item) :
    rowItem graph row = item := by
  simp [rowItem, hreads.decodes, Except.toOption]

/-- The rows the filter selects. -/
def selectedRows (graph : EvidenceGraph) (subjectID : String)
    (filter : EvidenceFilter) : List EvidenceRow :=
  (evidenceRows graph).filter (whereClause graph subjectID filter)

section

variable {filter : EvidenceFilter} (hlists : ListsRows graph subjectID items)

include hlists

theorem mem_selectedRows (hmem : row ∈ selectedRows graph subjectID filter) :
    row ∈ subjectRows graph subjectID ∧
      ReadsAs graph row (rowItem graph row) ∧
      rowItem graph row ∈ items.filter (itemMatches filter) := by
  obtain ⟨hrows, hwhere⟩ := List.mem_filter.mp hmem
  have hid : property graph row.subject "id" = some (.text subjectID) := by
    have hclause := hwhere
    simp only [whereClause, Bool.and_eq_true, decide_eq_true_eq] at hclause
    exact hclause.1.1.1.1
  have hsubject := mem_subjectRows.mpr ⟨hrows, hid⟩
  obtain ⟨item, hitem, hreads⟩ := hlists.reads row hsubject
  obtain rfl := hreads.rowItem_eq
  refine ⟨hsubject, hreads, List.mem_filter.mpr ⟨hitem, ?_⟩⟩
  rw [← hreads.whereClause_eq hid]
  exact hwhere

theorem exists_selectedRow (hmem : item ∈ items.filter (itemMatches filter)) :
    ∃ row ∈ selectedRows graph subjectID filter, rowItem graph row = item := by
  obtain ⟨hitem, hmatches⟩ := List.mem_filter.mp hmem
  obtain ⟨row, hrow, hreads⟩ := hlists.complete item hitem
  obtain ⟨hrows, hid⟩ := mem_subjectRows.mp hrow
  refine ⟨row, List.mem_filter.mpr ⟨hrows, ?_⟩, hreads.rowItem_eq⟩
  rw [hreads.whereClause_eq hid]
  exact hmatches

theorem nodup_rowItems :
    ((selectedRows graph subjectID filter).map (rowItem graph)).Nodup := by
  apply List.Nodup.map_on _ ((nodup_evidenceRows graph).filter _)
  intro left hleft right hright hsame
  obtain ⟨hleft, hleftReads, -⟩ := mem_selectedRows hlists hleft
  obtain ⟨hright, hrightReads, -⟩ := mem_selectedRows hlists hright
  rw [hsame] at hleftReads
  exact hlists.single left hleft right hright _ hleftReads hrightReads

end

theorem nodup_items (hlists : ListsRows graph subjectID items) :
    items.Nodup := by
  apply hlists.ordered.imp
  rintro left right hless rfl
  exact lt_irrefl _ hless

theorem item_eq_of_logIndex {left right : EvidenceItem}
    (hordered : items.Pairwise fun left right =>
      left.logIndex.toInt < right.logIndex.toInt)
    (hleft : left ∈ items) (hright : right ∈ items)
    (hsame : left.logIndex = right.logIndex) : left = right := by
  have hnodup : (items.map EvidenceItem.logIndex).Nodup := by
    apply List.pairwise_map.mpr
    apply hordered.imp
    intro first second hless heq
    rw [heq] at hless
    exact absurd hless (lt_irrefl _)
  exact List.inj_on_of_nodup_map hnodup hleft hright hsame

theorem map_rowItem_insertionSort (filter : EvidenceFilter)
    (hlists : ListsRows graph subjectID items) :
    ((selectedRows graph subjectID filter).insertionSort
      fun left right => orderIndex graph left ≤ orderIndex graph right).map
        (rowItem graph) = items.filter (itemMatches filter) := by
  let order := fun left right => orderIndex graph left ≤ orderIndex graph right
  have hsorted := List.perm_insertionSort order
    (selectedRows graph subjectID filter)
  have hperm : ((selectedRows graph subjectID filter).map
      (rowItem graph)).Perm (items.filter (itemMatches filter)) := by
    apply (List.perm_ext_iff_of_nodup (nodup_rowItems hlists)
      ((nodup_items hlists).filter _)).mpr
    intro item
    rw [List.mem_map]
    constructor
    · rintro ⟨row, hrow, rfl⟩
      exact (mem_selectedRows hlists hrow).2.2
    · intro hitem
      exact exists_selectedRow hlists hitem
  have hmembers := (hsorted.map (rowItem graph)).trans hperm
  have hordered : (((selectedRows graph subjectID filter).insertionSort
      order).map (rowItem graph)).Pairwise fun left right =>
        left.logIndex.toInt ≤ right.logIndex.toInt := by
    apply List.pairwise_map.mpr
    apply (List.pairwise_insertionSort order _).imp_of_mem
    intro left right hleft hright hle
    obtain ⟨-, hleft, -⟩ := mem_selectedRows hlists (hsorted.mem_iff.mp hleft)
    obtain ⟨-, hright, -⟩ := mem_selectedRows hlists (hsorted.mem_iff.mp hright)
    change orderIndex graph left ≤ orderIndex graph right at hle
    rw [hleft.orderIndex_eq, hright.orderIndex_eq] at hle
    exact WithTop.coe_le_coe.mp hle
  apply hmembers.eq_of_pairwise _ hordered
  · exact (hlists.ordered.imp le_of_lt).filter _
  · intro left right hleft hright hle hge
    apply item_eq_of_logIndex hlists.ordered
    · exact (List.mem_filter.mp (hmembers.mem_iff.mp hleft)).1
    · exact (List.mem_filter.mp hright).1
    · exact Int64.toInt_inj.mp (le_antisymm hle hge)

theorem mapM_eq_ok {α β ε : Type} {step : α → Except ε β} {value : α → β}
    {list : List α} (hstep : ∀ item ∈ list, step item = .ok (value item)) :
    list.mapM step = .ok (list.map value) := by
  induction list with
  | nil => rfl
  | cons item list ih =>
    rw [List.mapM_cons, hstep item List.mem_cons_self,
      ih (List.forall_mem_of_forall_mem_cons hstep)]
    rfl

theorem evidence_of_rows (hlists : ListsRows graph subjectID items)
    (filter : EvidenceFilter) :
    evidence graph subjectID filter = evidenceOf items subjectID filter := by
  unfold evidence evidenceOf
  by_cases hoverflow : (pageLimit filter + 1).toInt < 0
  · rw [if_pos hoverflow, if_pos hoverflow]
  rw [if_neg hoverflow, if_neg hoverflow]
  have hitems : ∀ row ∈ ((selectedRows graph subjectID filter).insertionSort
      fun left right => orderIndex graph left ≤ orderIndex graph right).take
        (pageLimit filter + 1).toInt.toNat,
      evidenceItem graph row = .ok (rowItem graph row) := by
    intro row hrow
    have hselected := (List.perm_insertionSort _ _).mem_iff.mp
      (List.mem_of_mem_take hrow)
    exact (mem_selectedRows hlists hselected).2.1.decodes
  have hpage := mapM_eq_ok hitems
  rw [List.map_take, map_rowItem_insertionSort filter hlists,
    toNat_limit_succ (pageLimit_pos filter) hoverflow] at hpage
  have hlimit : 0 < (pageLimit filter).toInt.toNat :=
    Int.lt_toNat.mpr (pageLimit_pos filter)
  unfold selectedRows at hpage
  rw [toNat_limit_succ (pageLimit_pos filter) hoverflow]
  simp only [hpage]
  change Except.ok (EvidenceResult.mk _ _ _) = _
  rw [Keyset.pageOf_take _ _ _ hlimit]

end Items

/-! ## Items of a materialized graph -/

section Refining

variable {graph : EvidenceGraph} {materialized : Materialized}
  {subjectID : String} {items : List EvidenceItem} {row : EvidenceRow}
  {logIndex : Int64} {publisher : PublisherIdentity}

theorem RowOf.exists_item (hrefines : schema.Refines graph materialized)
    (hlists : Lists materialized subjectID items)
    (hrow : RowOf graph materialized row subjectID logIndex publisher) :
    ∃ item ∈ items, item.logIndex = logIndex ∧ item.publisher = publisher ∧
      ReadsAs graph row item := by
  obtain ⟨item, hmem, rfl, rfl⟩ :=
    hlists.complete logIndex publisher hrow.targets hrow.published
  obtain ⟨properties, hnode, hdigest, htype, hstatus, hsealed⟩ :=
    ((hlists.mem_iff item).mp hmem).described
  have hread : ∀ name, property graph row.evidence name = properties name := by
    intro name
    rw [property_eq hrefines hrow.evidenceAt, hnode, Option.bind_some]
  have hindex : properties "logIndex" = some (.integer item.logIndex) := by
    rw [← hread]
    exact property_of_at hrow.evidenceAt (by simp [NodeKey.pattern])
  refine ⟨item, hmem, rfl, rfl, ?_, ?_⟩
  · simp only [evidenceItem, hindex, hread, hdigest, htype, hstatus, hsealed,
      publisherOf_at hrow.publisherAt, assertInt64, assertString, toTime]
    rfl
  · rw [timeProperty, hread, hsealed]

theorem exists_rowOf (hrefines : schema.Refines graph materialized)
    (hrow : row ∈ subjectRows graph subjectID) :
    ∃ logIndex publisher,
      RowOf graph materialized row subjectID logIndex publisher := by
  obtain ⟨hrows, hid⟩ := mem_subjectRows.mp hrow
  obtain ⟨other, logIndex, publisher, hrow⟩ :=
    (mem_evidenceRows hrefines).mp hrows
  have hother : property graph row.subject "id" = some (.text other) :=
    property_of_at hrow.subjectAt (by simp [NodeKey.pattern])
  rw [hid] at hother
  obtain rfl := PropertyValue.text.inj (Option.some.inj hother)
  exact ⟨logIndex, publisher, hrow⟩

theorem RowOf.of_readsAs {item : EvidenceItem}
    (hrow : RowOf graph materialized row subjectID logIndex publisher)
    (hreads : ReadsAs graph row item) :
    RowOf graph materialized row subjectID item.logIndex item.publisher := by
  obtain ⟨hindex, -, -, -, hpublisher⟩ := evidenceItem_eq_ok hreads.decodes
  have hlog : property graph row.evidence "logIndex" =
      some (.integer logIndex) :=
    property_of_at hrow.evidenceAt (by simp [NodeKey.pattern])
  rw [hlog] at hindex
  rw [publisherOf_at hrow.publisherAt] at hpublisher
  obtain rfl := PropertyValue.integer.inj (Option.some.inj hindex)
  obtain rfl := Except.ok.inj hpublisher
  exact hrow

theorem Lists.rows (hrefines : schema.Refines graph materialized)
    (hlists : Lists materialized subjectID items) :
    ListsRows graph subjectID items := by
  refine ⟨?_, ?_, ?_, hlists.ordered⟩
  · intro row hrow
    obtain ⟨_, _, hrow⟩ := exists_rowOf hrefines hrow
    obtain ⟨item, hitem, -, -, hreads⟩ := hrow.exists_item hrefines hlists
    exact ⟨item, hitem, hreads⟩
  · intro item hitem
    have hisItem := (hlists.mem_iff item).mp hitem
    have htargets := hisItem.targets
    have hpublished := hisItem.published
    rw [← hrefines.view_eq] at htargets hpublished
    obtain ⟨evidence, subject, hevidence, hsubject, _⟩ := htargets
    obtain ⟨_, publisher, _, hpublisher, _⟩ := hpublished
    have hrow : RowOf graph materialized ⟨subject, evidence, publisher⟩
        subjectID item.logIndex item.publisher :=
      ⟨hsubject, hevidence, hpublisher, hisItem.targets, hisItem.published⟩
    obtain ⟨other, hother, hindex, _, hreads⟩ :=
      hrow.exists_item hrefines hlists
    obtain rfl := item_eq_of_logIndex hlists.ordered hother hitem hindex
    refine ⟨_, mem_subjectRows.mpr ⟨(mem_evidenceRows hrefines).mpr
      ⟨_, _, _, hrow⟩, ?_⟩, hreads⟩
    exact property_of_at hsubject (by simp [NodeKey.pattern])
  · intro left hleft right hright item hleftReads hrightReads
    obtain ⟨_, _, hleft⟩ := exists_rowOf hrefines hleft
    obtain ⟨_, _, hright⟩ := exists_rowOf hrefines hright
    have hleft := hleft.of_readsAs hleftReads
    have hright := hright.of_readsAs hrightReads
    have hsubject := hrefines.keys.unique hleft.subjectAt hright.subjectAt
    have hevidence := hrefines.keys.unique hleft.evidenceAt hright.evidenceAt
    have hpublisher := hrefines.keys.unique hleft.publisherAt hright.publisherAt
    cases left
    cases right
    simp_all

/-- The query is the query over the items of the subject. -/
theorem evidence_eq (hrefines : schema.Refines graph materialized)
    (hlists : Lists materialized subjectID items) (filter : EvidenceFilter) :
    evidence graph subjectID filter = evidenceOf items subjectID filter :=
  evidence_of_rows (hlists.rows hrefines) filter

end Refining

/-! ## Following the cursors -/

section Pages

variable {graph : EvidenceGraph} {materialized : Materialized}
  {subjectID : String} {items : List EvidenceItem}

/-- The query without a filter, from a cursor on. -/
def unfiltered (cursor : Option String) : EvidenceFilter :=
  { EvidenceFilter.none with cursor := cursor }

def fetchPage (graph : EvidenceGraph) (subjectID : String)
    (cursor : Option String) : Outcome (Keyset.Page EvidenceItem String) :=
  (evidence graph subjectID (unfiltered cursor)).map fun result =>
    ⟨result.evidence, result.nextCursor⟩

@[simp]
theorem cursorIndex_encodeCursor (logIndex : Int64) :
    cursorIndex (some (encodeCursor logIndex)) = some logIndex := by
  simp [cursorIndex, encodeCursor, Base64.decodeString_encodeToString,
    Decimal.parseInt_formatInt]

/-- The items a cursor leaves to be read. -/
def remaining (items : List EvidenceItem) (cursor : Option String) :
    List EvidenceItem :=
  items.filter (itemMatches (unfiltered cursor))

theorem remaining_none (items : List EvidenceItem) :
    remaining items none = items := by
  apply List.filter_eq_self.mpr
  intro item _
  rfl

theorem remaining_encodeCursor (items : List EvidenceItem)
    (logIndex : Int64) :
    remaining items (some (encodeCursor logIndex)) = items.filter fun item =>
      decide (logIndex.toInt < item.logIndex.toInt) := by
  apply List.filter_congr
  intro item _
  simp [itemMatches, unfiltered, EvidenceFilter.none]

variable {cursor : Option String}

theorem itemMatches_of_lt {item other : EvidenceItem}
    (hitem : itemMatches (unfiltered cursor) item = true)
    (hlater : item.logIndex.toInt < other.logIndex.toInt) :
    itemMatches (unfiltered cursor) other = true := by
  have hclause : ∀ entry, itemMatches (unfiltered cursor) entry =
      (cursorIndex cursor).all fun index =>
        decide (index.toInt < entry.logIndex.toInt) := fun _ => rfl
  rw [hclause] at hitem ⊢
  cases hcursor : cursorIndex cursor with
  | none => rfl
  | some index =>
    rw [hcursor, Option.all_some, decide_eq_true_eq] at hitem
    rw [Option.all_some, decide_eq_true_eq]
    exact hitem.trans hlater

theorem remaining_resumes {before after : List EvidenceItem}
    {item : EvidenceItem} (hlists : Lists materialized subjectID items)
    (hsplit : remaining items cursor = before ++ item :: after) :
    remaining items (some (encodeCursor item.logIndex)) = after := by
  have hordered : (before ++ item :: after).Pairwise fun left right =>
      left.logIndex.toInt < right.logIndex.toInt := by
    rw [← hsplit]
    exact hlists.ordered.filter _
  have hitem : itemMatches (unfiltered cursor) item = true := by
    have hmem : item ∈ remaining items cursor := by
      rw [hsplit]
      simp
    exact (List.mem_filter.mp hmem).2
  calc remaining items (some (encodeCursor item.logIndex))
      = items.filter fun other =>
          decide (item.logIndex.toInt < other.logIndex.toInt) :=
        remaining_encodeCursor items item.logIndex
    _ = (remaining items cursor).filter fun other =>
          decide (item.logIndex.toInt < other.logIndex.toInt) := by
        rw [remaining, List.filter_filter]
        apply List.filter_congr
        intro other _
        by_cases hlater : item.logIndex.toInt < other.logIndex.toInt
        · simp [hlater, itemMatches_of_lt hitem hlater]
        · simp [hlater]
    _ = after := by
        rw [hsplit]
        exact Keyset.filter_after hordered

theorem fetchPage_eq (hrefines : schema.Refines graph materialized)
    (hlists : Lists materialized subjectID items) (cursor : Option String) :
    fetchPage graph subjectID cursor = .ok (Keyset.pageOf 50
      (fun item => encodeCursor item.logIndex) (remaining items cursor)) := by
  rw [fetchPage, evidence_eq hrefines hlists, evidenceOf]
  rfl

theorem collects_items (hrefines : schema.Refines graph materialized)
    (hlists : Lists materialized subjectID items) :
    Keyset.Collects (fetchPage graph subjectID) none items := by
  have hcollects := Keyset.collects_of_pageOf (by decide)
    (fetchPage_eq hrefines hlists)
    (fun _ _ _ _ hsplit => remaining_resumes hlists hsplit) none
  rwa [remaining_none] at hcollects

end Pages

end ComplyTime.Graph
