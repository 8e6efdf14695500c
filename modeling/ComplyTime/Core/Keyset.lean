import Mathlib.Data.List.Basic
import Mathlib.Data.List.Perm.Subperm
import Mathlib.Order.Lattice
import Mathlib.Tactic.Common

/-!
# Keyset pagination

A page holds at most `limit` items in increasing order of an index, and names
the index of its last item as the cursor of the next page when more items
follow.  The next page starts strictly after that index.  Following the cursors
from the first page on collects every item exactly once, provided no two items
share an index.
-/

namespace ComplyTime.Keyset

variable {Item Index Cursor Err : Type*}

structure Page (Item Cursor : Type*) where
  items : List Item
  next : Option Cursor

/-- The page at the head of the remaining items. -/
def pageOf (limit : ℕ) (cursorOf : Item → Cursor) (remaining : List Item) :
    Page Item Cursor :=
  if limit < remaining.length then
    ⟨remaining.take limit, (remaining[limit - 1]?).map cursorOf⟩
  else ⟨remaining, none⟩

theorem pageOf_take (limit : ℕ) (cursorOf : Item → Cursor)
    (remaining : List Item) (hlimit : 0 < limit) :
    pageOf limit cursorOf (remaining.take (limit + 1)) =
      pageOf limit cursorOf remaining := by
  unfold pageOf
  by_cases hmore : limit < remaining.length
  · have htaken : limit < (remaining.take (limit + 1)).length := by
      rw [List.length_take]
      omega
    rw [if_pos hmore, if_pos htaken, List.take_take, Nat.min_eq_left (by omega),
      List.getElem?_take_of_lt (by omega)]
  · have hall : remaining.take (limit + 1) = remaining :=
      List.take_of_length_le (by omega)
    rw [hall]

/-- What a client holds after following the cursors up to a page without one. -/
inductive Collects (fetch : Option Cursor → Except Err (Page Item Cursor)) :
    Option Cursor → List Item → Prop
  | last {cursor : Option Cursor} {items : List Item} :
      fetch cursor = .ok ⟨items, none⟩ → Collects fetch cursor items
  | more {cursor : Option Cursor} {items rest : List Item} {next : Cursor} :
      fetch cursor = .ok ⟨items, some next⟩ →
        Collects fetch (some next) rest → Collects fetch cursor (items ++ rest)

variable {fetch : Option Cursor → Except Err (Page Item Cursor)}

variable {cursor : Option Cursor}

theorem Collects.unique {left right : List Item}
    (hleft : Collects fetch cursor left)
    (hright : Collects fetch cursor right) : left = right := by
  induction hleft generalizing right with
  | last hpage =>
    cases hright with
    | last hpage' =>
      rw [hpage] at hpage'
      injection hpage' with hsame
      injection hsame
    | more hpage' _ =>
      rw [hpage] at hpage'
      injection hpage' with hsame
      injection hsame with _ hnext
      cases hnext
  | more hpage _ ih =>
    cases hright with
    | last hpage' =>
      rw [hpage] at hpage'
      injection hpage' with hsame
      injection hsame with _ hnext
      cases hnext
    | more hpage' hrest =>
      rw [hpage] at hpage'
      injection hpage' with hsame
      injection hsame with hitems hnext
      obtain rfl := Option.some.inj hnext
      rw [hitems, ih hrest]

/-- In a list sorted by a strictly increasing index, the items after a given
one are those with a larger index. -/
theorem filter_after [LinearOrder Index] {index : Item → Index}
    {before after : List Item} {item : Item}
    (hsorted : (before ++ item :: after).Pairwise
      fun left right => index left < index right) :
    (before ++ item :: after).filter
      (fun other => decide (index item < index other)) = after := by
  obtain ⟨_, htail, hcross⟩ := List.pairwise_append.mp hsorted
  obtain ⟨hlater, _⟩ := List.pairwise_cons.mp htail
  have hbefore : before.filter
      (fun other => decide (index item < index other)) = [] := by
    rw [List.filter_eq_nil_iff]
    intro other hmem
    have hless := hcross other hmem item List.mem_cons_self
    simpa using hless.le
  have hafter : after.filter
      (fun other => decide (index item < index other)) = after := by
    rw [List.filter_eq_self]
    intro other hmem
    simpa using hlater other hmem
  rw [List.filter_append, hbefore, List.nil_append, List.filter_cons_of_neg
    (by simp), hafter]

/-- Cursors that resume right after the item they name lead through all
items. -/
theorem collects_of_pageOf {limit : ℕ} (hlimit : 0 < limit)
    {cursorOf : Item → Cursor} {remaining : Option Cursor → List Item}
    (hfetch : ∀ cursor,
      fetch cursor = .ok (pageOf limit cursorOf (remaining cursor)))
    (hresume : ∀ cursor before item after,
      remaining cursor = before ++ item :: after →
        remaining (some (cursorOf item)) = after)
    (cursor : Option Cursor) : Collects fetch cursor (remaining cursor) := by
  generalize hlength : (remaining cursor).length = length
  induction length using Nat.strongRecOn generalizing cursor with
  | ind length ih =>
    have hpage := hfetch cursor
    unfold pageOf at hpage
    split at hpage
    · rename_i hmore
      have hlt : limit - 1 < (remaining cursor).length := by omega
      rw [List.getElem?_eq_getElem hlt, Option.map_some] at hpage
      have hsplit : remaining cursor = (remaining cursor).take (limit - 1) ++
          (remaining cursor)[limit - 1] :: (remaining cursor).drop limit := by
        have hdrop := List.drop_eq_getElem_cons hlt
        rw [Nat.sub_add_cancel hlimit] at hdrop
        rw [← hdrop, List.take_append_drop]
      have hrest := hresume cursor _ _ _ hsplit
      have hcollect := ih _ (by
        rw [hrest, List.length_drop]
        omega) _ rfl
      rw [hrest] at hcollect
      have hall := Collects.more hpage hcollect
      rwa [List.take_append_drop] at hall
    · exact .last hpage

/-! ## Pages of a list that grows

The items may be different ones at each request.  What the client has read
stays in order as long as the cursors do, and covers the items of the first
request when the items added later come after them. -/

/-- What a client has read, page by page, and the cursor it goes on from, or
`none` once a page came without one. -/
structure Visit (Item Cursor : Type*) where
  pages : List (List Item)
  resume : Option (Option Cursor)

/-- The first requests of a client that follows the cursors; `fetch count`
answers the request with this number. -/
def follow (fetch : ℕ → Option Cursor → Except Err (Page Item Cursor)) :
    ℕ → Except Err (Visit Item Cursor)
  | 0 => .ok ⟨[], some none⟩
  | count + 1 =>
    match follow fetch count with
    | .error err => .error err
    | .ok ⟨pages, none⟩ => .ok ⟨pages, none⟩
    | .ok ⟨pages, some cursor⟩ =>
      match fetch count cursor with
      | .error err => .error err
      | .ok page => .ok ⟨pages ++ [page.items], page.next.map some⟩

section Growing

variable [LinearOrder Index] {index : Item → Index} {cursorOf : Item → Cursor}
  {limit : ℕ} {items : ℕ → List Item}
  {serve : ℕ → Option Cursor → Except Err (Page Item Cursor)}

/-- The items after the last one read. -/
def after (index : Item → Index) (last : Option Item) (list : List Item) :
    List Item :=
  list.filter fun other => last.all fun item => decide (index item < index other)

/-- Each request is answered with the page after the item its cursor names. -/
def Serves (limit : ℕ) (index : Item → Index) (cursorOf : Item → Cursor)
    (items : ℕ → List Item)
    (serve : ℕ → Option Cursor → Except Err (Page Item Cursor)) : Prop :=
  ∀ count last, serve count (last.map cursorOf) =
    .ok (pageOf limit cursorOf (after index last (items count)))

/-- Items are only added, and those of the first request keep their place at
the head of the list. -/
structure Grows (index : Item → Index) (items : ℕ → List Item) : Prop where
  ordered : ∀ count, (items count).Pairwise
    fun left right => index left < index right
  persists : ∀ count, items count ⊆ items (count + 1)
  starts : ∀ count, items 0 <+: items count

/-- What holds of the pages read in the first `count` requests. -/
structure Tracks (limit : ℕ) (index : Item → Index) (items : ℕ → List Item)
    (count : ℕ) (pages : List (List Item)) : Prop where
  ordered : pages.flatten.Pairwise fun left right => index left < index right
  delivered : pages.flatten ⊆ items count
  comparable : pages.flatten <+: items 0 ∨ items 0 <+: pages.flatten
  bounded : ∀ page ∈ pages, page.length ≤ limit
  inhabited : pages = [[]] ∨ ∀ page ∈ pages, page ≠ []

/-- There is more to read: every page so far is full, and an item follows. -/
structure Continues (limit : ℕ) (index : Item → Index)
    (cursorOf : Item → Cursor) (items : ℕ → List Item) (count : ℕ)
    (pages : List (List Item)) (cursor : Option Cursor) : Prop where
  cursor_eq : cursor = pages.flatten.getLast?.map cursorOf
  length_eq : pages.length = count
  full : ∀ page ∈ pages, page.length = limit
  more : pages ≠ [] → after index pages.flatten.getLast? (items count) ≠ []

/-- The state of a client after `count` requests. -/
structure Reached (limit : ℕ) (index : Item → Index)
    (cursorOf : Item → Cursor) (items : ℕ → List Item) (count : ℕ)
    (visit : Visit Item Cursor) : Prop where
  tracks : Tracks limit index items count visit.pages
  continues : ∀ cursor, visit.resume = some cursor →
    Continues limit index cursorOf items count visit.pages cursor
  finished : visit.resume = none → items 0 <+: visit.pages.flatten

theorem after_subset (last : Option Item) (list : List Item) :
    after index last list ⊆ list :=
  List.filter_subset_self _

theorem pairwise_after {list : List Item} (last : Option Item)
    (hordered : list.Pairwise fun left right => index left < index right) :
    (after index last list).Pairwise
      fun left right => index left < index right :=
  hordered.filter _

theorem index_le_getLast {list : List Item} {last : Item}
    (hordered : list.Pairwise fun left right => index left < index right)
    (hlast : list.getLast? = some last) {item : Item} (hitem : item ∈ list) :
    index item ≤ index last := by
  obtain ⟨before, rfl⟩ := List.getLast?_eq_some_iff.mp hlast
  rcases List.mem_append.mp hitem with hbefore | hsame
  · have hcross := (List.pairwise_append.mp hordered).2.2
    exact (hcross item hbefore last (List.mem_singleton_self _)).le
  · rw [List.mem_singleton.mp hsame]

theorem pairwise_append_after {read list : List Item}
    (hread : read.Pairwise fun left right => index left < index right)
    (hlist : list.Pairwise fun left right => index left < index right) :
    (read ++ after index read.getLast? list).Pairwise
      fun left right => index left < index right := by
  apply List.pairwise_append.mpr
  refine ⟨hread, pairwise_after _ hlist, ?_⟩
  intro item hitem other hother
  cases hlast : read.getLast? with
  | none =>
    rw [List.getLast?_eq_none_iff.mp hlast] at hitem
    exact absurd hitem List.not_mem_nil
  | some last =>
    have hle := index_le_getLast hread hlast hitem
    have hless := (List.mem_filter.mp hother).2
    rw [hlast, Option.all_some, decide_eq_true_eq] at hless
    exact hle.trans_lt hless

theorem append_after {read list : List Item} (hread : read <+: list)
    (hlist : list.Pairwise fun left right => index left < index right) :
    read ++ after index read.getLast? list = list := by
  obtain ⟨rest, rfl⟩ := hread
  cases hlast : read.getLast? with
  | none =>
    rw [List.getLast?_eq_none_iff.mp hlast]
    simp [after]
  | some last =>
    obtain ⟨before, rfl⟩ := List.getLast?_eq_some_iff.mp hlast
    have hsplit : before ++ [last] ++ rest = before ++ last :: rest := by
      rw [List.append_assoc, List.singleton_append]
    rw [hsplit] at hlist
    have hrest : after index (some last) (before ++ [last] ++ rest) = rest := by
      rw [hsplit]
      exact filter_after hlist
    rw [hrest]

/-- An ordered list begins with those of its items that come before all
others. -/
theorem prefix_of_larger {old list : List Item}
    (hold : old.Pairwise fun left right => index left < index right)
    (hlist : list.Pairwise fun left right => index left < index right)
    (hsubset : old ⊆ list)
    (hlarger : ∀ item ∈ list, item ∉ old →
      ∀ earlier ∈ old, index earlier < index item) : old <+: list := by
  induction old generalizing list with
  | nil => exact List.nil_prefix
  | cons head old ih =>
    obtain ⟨hless, hold⟩ := List.pairwise_cons.mp hold
    cases list with
    | nil => exact absurd (hsubset List.mem_cons_self) List.not_mem_nil
    | cons first rest =>
      obtain ⟨hfirst, hrest⟩ := List.pairwise_cons.mp hlist
      have hsame : head = first := by
        by_contra hne
        have hhead : head ∈ rest :=
          List.mem_of_ne_of_mem hne (hsubset List.mem_cons_self)
        have hbefore : index head < index first := by
          by_cases hmem : first ∈ old
          · exact hless first hmem
          · have hnew : first ∉ head :: old := by
              simp [hmem, Ne.symm hne]
            exact hlarger first List.mem_cons_self hnew head
              List.mem_cons_self
        exact lt_asymm hbefore (hfirst head hhead)
      subst hsame
      apply (List.cons_prefix_cons).mpr
      refine ⟨rfl, ih hold hrest ?_ ?_⟩
      · intro item hitem
        have hne : item ≠ head := by
          rintro rfl
          exact lt_irrefl _ (hless item hitem)
        exact List.mem_of_ne_of_mem hne
          (hsubset (List.mem_cons_of_mem _ hitem))
      · intro item hitem hnew earlier hearlier
        have hne : item ≠ head := by
          rintro rfl
          exact lt_irrefl _ (hfirst item hitem)
        exact hlarger item (List.mem_cons_of_mem _ hitem) (by simp [hne, hnew])
          earlier (List.mem_cons_of_mem _ hearlier)

theorem items_pageOf_prefix (limit : ℕ) (cursorOf : Item → Cursor)
    (remaining : List Item) :
    (pageOf limit cursorOf remaining).items <+: remaining := by
  unfold pageOf
  split
  · exact List.take_prefix _ _
  · exact List.prefix_refl _

theorem length_items_pageOf (limit : ℕ) (cursorOf : Item → Cursor)
    (remaining : List Item) :
    (pageOf limit cursorOf remaining).items.length ≤ limit := by
  unfold pageOf
  split
  · exact List.length_take_le _ _
  · exact Nat.le_of_not_lt ‹_›

variable {remaining : List Item} {count : ℕ} {pages : List (List Item)}
  {visit : Visit Item Cursor}

section

variable (hlimit : 0 < limit)

include hlimit

theorem items_pageOf_ne_nil (hremaining : remaining ≠ []) :
    (pageOf limit cursorOf remaining).items ≠ [] := by
  unfold pageOf
  split
  · intro hnil
    rcases List.take_eq_nil_iff.mp hnil with hzero | hnone
    · omega
    · exact hremaining hnone
  · exact hremaining

theorem items_pageOf_of_next_none
    (hnext : (pageOf limit cursorOf remaining).next = none) :
    (pageOf limit cursorOf remaining).items = remaining := by
  unfold pageOf at hnext ⊢
  split at hnext
  · have hlt : limit - 1 < remaining.length := by omega
    rw [List.getElem?_eq_getElem hlt] at hnext
    cases hnext
  · rename_i hall
    rw [if_neg hall]

/-- A page with a cursor is full, its cursor names its last item, and an item
lies behind it. -/
theorem pageOf_of_next_some {next : Cursor}
    (hnext : (pageOf limit cursorOf remaining).next = some next) :
    ∃ last other rest,
      (pageOf limit cursorOf remaining).items.length = limit ∧
      (pageOf limit cursorOf remaining).items.getLast? = some last ∧
      next = cursorOf last ∧
      remaining = (pageOf limit cursorOf remaining).items ++ other :: rest := by
  unfold pageOf at hnext ⊢
  split at hnext
  · rename_i hmore
    have hlt : limit - 1 < remaining.length := by omega
    rw [List.getElem?_eq_getElem hlt, Option.map_some] at hnext
    rw [if_pos hmore]
    refine ⟨remaining[limit - 1], remaining[limit],
      remaining.drop (limit + 1), ?_, ?_, (Option.some.inj hnext).symm, ?_⟩
    · exact List.length_take_of_le (Nat.le_of_lt hmore)
    · rw [List.getLast?_eq_getElem?, List.length_take_of_le (Nat.le_of_lt hmore),
        List.getElem?_take_of_lt (by omega), List.getElem?_eq_getElem hlt]
    · change remaining = remaining.take limit ++ _
      rw [← List.drop_eq_getElem_cons hmore, List.take_append_drop]
  · cases hnext

/-- Only the first page may be empty, and then it is the only one. -/
theorem Continues.inhabited_step (hcontinues :
      Continues limit index cursorOf items count pages cursor) :
    pages ++ [(pageOf limit cursorOf
        (after index pages.flatten.getLast? (items count))).items] = [[]] ∨
      ∀ page ∈ pages ++ [(pageOf limit cursorOf
        (after index pages.flatten.getLast? (items count))).items],
          page ≠ [] := by
  generalize hitems : (pageOf limit cursorOf
    (after index pages.flatten.getLast? (items count))).items = last
  by_cases hfirst : pages = []
  · subst hfirst
    by_cases hnil : last = []
    · left
      rw [hnil]
      rfl
    · right
      intro page hpage
      rw [List.mem_singleton.mp hpage]
      exact hnil
  · right
    intro page hpage
    rcases List.mem_append.mp hpage with hold | hnew
    · have hfull := hcontinues.full page hold
      exact List.ne_nil_of_length_pos (by omega)
    · rw [List.mem_singleton.mp hnew, ← hitems]
      exact items_pageOf_ne_nil hlimit (hcontinues.more hfirst)

theorem Tracks.step (hgrows : Grows index items)
    (htracks : Tracks limit index items count pages) (hcontinues :
      Continues limit index cursorOf items count pages cursor) :
    Tracks limit index items (count + 1) (pages ++ [(pageOf limit cursorOf
      (after index pages.flatten.getLast? (items count))).items]) := by
  have hordered := hgrows.ordered count
  generalize hremaining :
    after index pages.flatten.getLast? (items count) = remaining
  have hhead := items_pageOf_prefix limit cursorOf remaining
  have hflatten : (pages ++ [(pageOf limit cursorOf remaining).items]).flatten =
      pages.flatten ++ (pageOf limit cursorOf remaining).items := by
    simp
  have hprefix : pages.flatten ++ (pageOf limit cursorOf remaining).items <+:
      pages.flatten ++ remaining :=
    (List.prefix_append_right_inj _).mpr hhead
  refine ⟨?_, ?_, ?_, ?_, ?_⟩
  · rw [hflatten]
    have hall := pairwise_append_after htracks.ordered hordered
    rw [hremaining] at hall
    exact hall.sublist hprefix.sublist
  · rw [hflatten]
    apply List.Subset.trans _ (hgrows.persists count)
    apply List.append_subset.mpr
    refine ⟨htracks.delivered, List.Subset.trans hhead.subset ?_⟩
    rw [← hremaining]
    exact after_subset _ _
  · rw [hflatten]
    rcases htracks.comparable with hread | hstart
    · -- Up to here the client has read a part of the first items.
      have hlist := append_after (hread.trans (hgrows.starts count)) hordered
      rw [hremaining] at hlist
      rw [hlist] at hprefix
      exact List.prefix_or_prefix_of_prefix hprefix (hgrows.starts count)
    · exact .inr (hstart.trans (List.prefix_append _ _))
  · intro page hpage
    rcases List.mem_append.mp hpage with hold | hnew
    · exact htracks.bounded page hold
    · rw [List.mem_singleton.mp hnew]
      exact length_items_pageOf _ _ _
  · rw [← hremaining]
    exact hcontinues.inhabited_step hlimit

/-- A page with a cursor leaves more to read. -/
theorem Continues.step {next : Cursor} (hgrows : Grows index items)
    (hcontinues : Continues limit index cursorOf items count pages cursor)
    (hnext : (pageOf limit cursorOf
      (after index pages.flatten.getLast? (items count))).next = some next) :
    Continues limit index cursorOf items (count + 1)
      (pages ++ [(pageOf limit cursorOf
        (after index pages.flatten.getLast? (items count))).items])
      (some next) := by
  generalize hremaining :
    after index pages.flatten.getLast? (items count) = remaining at hnext ⊢
  obtain ⟨last, other, rest, hlength, hlast, rfl, hrest⟩ :=
    pageOf_of_next_some hlimit hnext
  have hflatten : (pages ++ [(pageOf limit cursorOf
      remaining).items]).flatten.getLast? = some last := by
    rw [List.flatten_append, List.flatten_singleton, List.getLast?_append,
      hlast]
    rfl
  refine ⟨?_, ?_, ?_, ?_⟩
  · rw [hflatten]
    rfl
  · rw [List.length_append, hcontinues.length_eq]
    rfl
  · intro page hpage
    rcases List.mem_append.mp hpage with hold | hnew
    · exact hcontinues.full page hold
    · rw [List.mem_singleton.mp hnew]
      exact hlength
  · intro _
    have hmem : other ∈ remaining := by
      rw [hrest]
      simp
    have hordered := pairwise_after pages.flatten.getLast?
      (hgrows.ordered count)
    rw [hremaining, hrest] at hordered
    have hless : index last < index other :=
      (List.pairwise_append.mp hordered).2.2 last
        (List.mem_of_getLast? hlast) other List.mem_cons_self
    rw [hflatten]
    apply List.ne_nil_of_mem (a := other)
    apply List.mem_filter.mpr
    constructor
    · rw [← hremaining] at hmem
      exact hgrows.persists count (after_subset _ _ hmem)
    · simpa using hless

/-- After any number of requests the client has read the first items in order,
or all of them. -/
theorem follow_reached (hgrows : Grows index items)
    (hserves : Serves limit index cursorOf items serve) (count : ℕ) :
    ∃ visit, follow serve count = .ok visit ∧
      Reached limit index cursorOf items count visit := by
  induction count with
  | zero =>
    refine ⟨⟨[], some none⟩, rfl, ?_, ?_, ?_⟩
    · exact ⟨List.Pairwise.nil, List.nil_subset _, .inl List.nil_prefix,
        by simp, by simp⟩
    · intro cursor hcursor
      obtain rfl := Option.some.inj hcursor
      exact ⟨rfl, rfl, by simp, by simp⟩
    · intro hresume
      cases hresume
  | succ count ih =>
    obtain ⟨⟨pages, resume⟩, hfollow, hreached⟩ := ih
    rw [follow, hfollow]
    cases resume with
    | none =>
      have htracks := hreached.tracks
      refine ⟨⟨pages, none⟩, rfl, ⟨htracks.ordered, ?_, htracks.comparable,
        htracks.bounded, htracks.inhabited⟩, ?_, hreached.finished⟩
      · exact List.Subset.trans htracks.delivered (hgrows.persists count)
      · intro cursor hcursor
        cases hcursor
    | some cursor =>
      have hcontinues := hreached.continues cursor rfl
      have hpage := hserves count pages.flatten.getLast?
      rw [← hcontinues.cursor_eq] at hpage
      simp only [hpage]
      refine ⟨_, rfl, hreached.tracks.step hlimit hgrows hcontinues, ?_, ?_⟩
      · intro next hnext
        obtain ⟨next, hpageNext, rfl⟩ := Option.map_eq_some_iff.mp hnext
        exact hcontinues.step hlimit hgrows hpageNext
      · intro hresume
        have hnone := Option.map_eq_none_iff.mp hresume
        have hitems := items_pageOf_of_next_none hlimit hnone
        simp only [List.flatten_append, List.flatten_singleton, hitems]
        rcases hreached.tracks.comparable with hread | hstart
        · have hprefix := hread.trans (hgrows.starts count)
          rw [append_after hprefix (hgrows.ordered count)]
          exact hgrows.starts count
        · exact hstart.trans (List.prefix_append _ _)

end

theorem Tracks.nodup (htracks : Tracks limit index items count pages) :
    pages.flatten.Nodup := by
  apply htracks.ordered.imp
  rintro left right hless rfl
  exact lt_irrefl _ hless

theorem Continues.count_le (hlimit : 0 < limit)
    (hcontinues : Continues limit index cursorOf items count pages cursor) :
    count ≤ pages.flatten.length := by
  have hlengths : pages.flatten.length = pages.length * limit := by
    have hall : pages.map List.length = List.replicate pages.length limit := by
      apply List.map_eq_replicate_iff.mpr
      exact hcontinues.full
    rw [List.length_flatten, hall, List.sum_replicate_nat]
  rw [hlengths, hcontinues.length_eq]
  exact Nat.le_mul_of_pos_right _ hlimit

/-- The first items have been read once the pages end, and at the latest after
as many requests as there are first items. -/
theorem Reached.covers (hlimit : 0 < limit)
    (hreached : Reached limit index cursorOf items count visit)
    (hdone : visit.resume = none ∨ (items 0).length ≤ count) :
    items 0 <+: visit.pages.flatten := by
  cases hresume : visit.resume with
  | none => exact hreached.finished hresume
  | some cursor =>
    have hcount := (hreached.continues cursor hresume).count_le hlimit
    have hlength : (items 0).length ≤ visit.pages.flatten.length := by
      rcases hdone with hnone | hle
      · rw [hresume] at hnone
        cases hnone
      · exact Nat.le_trans hle hcount
    rcases hreached.tracks.comparable with hread | hstart
    · have hall := hread.eq_of_length_le hlength
      exact hall ▸ List.prefix_refl _
    · exact hstart

theorem Reached.ends_of_stable (hlimit : 0 < limit)
    (hreached : Reached limit index cursorOf items count visit) (settled : ℕ)
    (hstable : items count = items settled)
    (hlong : (items settled).length < count) : visit.resume = none := by
  have hdelivered := hreached.tracks.delivered
  rw [hstable] at hdelivered
  have hlength :=
    (List.subperm_of_subset hreached.tracks.nodup hdelivered).length_le
  cases hresume : visit.resume with
  | none => rfl
  | some cursor =>
    have hcount := (hreached.continues cursor hresume).count_le hlimit
    omega

theorem Reached.flatten_eq
    (hreached : Reached limit index cursorOf items count visit)
    (hconstant : items count = items 0) (hends : visit.resume = none) :
    visit.pages.flatten = items 0 := by
  have hdelivered := hreached.tracks.delivered
  rw [hconstant] at hdelivered
  have hlength :=
    (List.subperm_of_subset hreached.tracks.nodup hdelivered).length_le
  exact ((hreached.finished hends).eq_of_length_le hlength).symm

end Growing

end ComplyTime.Keyset
