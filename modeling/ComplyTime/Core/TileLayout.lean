import Mathlib.Algebra.Group.Nat.Defs
import Mathlib.Data.List.Basic
import Mathlib.Tactic.Common

/-!
# Tiles of an append-only log

A log of a given size is stored in tiles of a fixed width.  On level zero they
are bundles of the entries themselves; a tile of a higher level covers `width`
tiles of the level below.  The last tile of a level may be partial, and is then
named together with its size.  The lemmas say that the bundle and the offset
computed for a position select the entry at that position.

A tile is named by its level and its index, the index in groups of three
decimal digits, so that the number of segments of its path grows with it.
-/

namespace ComplyTime.TileLayout

variable {Item : Type*} (width : ℕ)

/-- The size of the tile with this index, or 0 if it is full. -/
def partialTileSize (level index size : ℕ) : ℕ :=
  let sizeAtLevel := size / width ^ level
  if index < sizeAtLevel / width then 0 else sizeAtLevel % width

/-- The entries in the bundle with this index; a partial size of 0 stands for
the full bundle. -/
def bundle (log : List Item) (index partialSize : ℕ) : List Item :=
  (log.drop (width * index)).take
    (if partialSize = 0 then width else partialSize)

variable {width}

/-- Whatever stands in a bundle at the offset of a position is the entry at
that position. -/
theorem getElem?_of_bundle {log : List Item} {position partialSize : ℕ}
    {item : Item}
    (hitem : (bundle width log (position / width) partialSize)[
      position % width]? = some item) : log[position]? = some item := by
  rw [bundle, List.getElem?_take, List.getElem?_drop, Nat.div_add_mod] at hitem
  exact (Option.ite_none_right_eq_some.mp hitem).2

theorem mod_lt_of_partialTileSize {position size : ℕ}
    (hposition : position < size)
    (hsize : partialTileSize width 0 (position / width) size ≠ 0) :
    position % width < partialTileSize width 0 (position / width) size := by
  simp only [partialTileSize, Nat.pow_zero, Nat.div_one] at hsize ⊢
  split at hsize
  · exact absurd rfl hsize
  · rename_i hlast
    rw [if_neg hlast]
    have hle : position / width ≤ size / width :=
      Nat.div_le_div_right (Nat.le_of_lt hposition)
    have hsame : position / width = size / width := by omega
    have hfirst := Nat.div_add_mod position width
    have hsecond := Nat.div_add_mod size width
    rw [hsame] at hfirst
    omega

/-- The bundle of the right size holds the entry at the offset. -/
theorem getElem?_bundle (hwidth : 0 < width) {log : List Item}
    {position size : ℕ} (hposition : position < size) :
    (bundle width log (position / width)
      (partialTileSize width 0 (position / width) size))[position % width]? =
        log[position]? := by
  rw [bundle, List.getElem?_take, List.getElem?_drop, Nat.div_add_mod]
  apply if_pos
  split
  · exact Nat.mod_lt position hwidth
  · rename_i hsize
    exact mod_lt_of_partialTileSize hposition hsize

/-! ## Names of tiles -/

/-- Tiles hold the hashes of a level, or entries. -/
inductive Kind
  | hashes (level : ℕ)
  | entries
  deriving DecidableEq, Repr

def Kind.level : Kind → ℕ
  | .hashes level => level
  | .entries => 0

def Kind.text : Kind → String
  | .hashes level => toString level
  | .entries => "entries"

/-- A tile of a log of the given size: it covers something. -/
structure Tile (width size : ℕ) where
  kind : Kind
  index : ℕ
  covers : width * index < size / width ^ kind.level

def Tile.partialSize {size : ℕ} (tile : Tile width size) : ℕ :=
  partialTileSize width tile.kind.level tile.index size

/-- `%03d` of a number below 1000. -/
def threeDigits (number : ℕ) : String :=
  String.ofList [Nat.digitChar (number / 100), Nat.digitChar (number / 10 % 10),
    Nat.digitChar (number % 10)]

/-- The higher groups of an index, in front of what follows. -/
def higherGroups (number : ℕ) (names : List String) : List String :=
  if number = 0 then names
  else higherGroups (number / 1000)
    (("x" ++ threeDigits (number % 1000)) :: names)

/-- The segments of the path of a tile; a partial size of 0 stands for the full
tile. -/
def tileNames (kind : Kind) (index partialSize : ℕ) : List String :=
  "tile" :: kind.text :: higherGroups (index / 1000)
    (if partialSize = 0 then [threeDigits (index % 1000)]
    else [threeDigits (index % 1000) ++ ".p", toString partialSize])

def Tile.names {size : ℕ} (tile : Tile width size) : List String :=
  tileNames tile.kind tile.index tile.partialSize

example : tileNames (.hashes 0) 1234067 8 =
    ["tile", "0", "x001", "x234", "067.p", "8"] := by decide +kernel

theorem length_le_higherGroups (number : ℕ) (names : List String) :
    names.length ≤ (higherGroups number names).length := by
  fun_induction higherGroups number names with
  | case1 names => exact Nat.le_refl _
  | case2 number names hpos ih => exact Nat.le_trans (Nat.le_succ _) ih

/-- One group for a number below 1000, and more for a larger one. -/
theorem length_higherGroups (number : ℕ) (names : List String) :
    (number = 0 ∧ (higherGroups number names).length = names.length) ∨
    ((1 ≤ number ∧ number < 1000) ∧
      (higherGroups number names).length = names.length + 1) ∨
    (1000 ≤ number ∧
      names.length + 2 ≤ (higherGroups number names).length) := by
  by_cases hzero : number = 0
  · left
    rw [higherGroups, if_pos hzero]
    exact ⟨hzero, rfl⟩
  · by_cases hsmall : number < 1000
    · right
      left
      rw [higherGroups, if_neg hzero, Nat.div_eq_of_lt hsmall, higherGroups,
        if_pos rfl]
      exact ⟨⟨Nat.one_le_iff_ne_zero.mpr hzero, hsmall⟩, rfl⟩
    · right
      right
      rw [higherGroups, if_neg hzero, higherGroups, if_neg (by omega)]
      exact ⟨Nat.le_of_not_lt hsmall,
        length_le_higherGroups (number / 1000 / 1000)
          (("x" ++ threeDigits (number / 1000 % 1000)) ::
            ("x" ++ threeDigits (number % 1000)) :: names)⟩

variable {number : ℕ} {index partialSize : ℕ}

theorem mem_higherGroups {names : List String} {name : String}
    (hmem : name ∈ higherGroups number names) :
    name ∈ names ∨ ∃ group < 1000, name = "x" ++ threeDigits group := by
  fun_induction higherGroups number names with
  | case1 names => exact .inl hmem
  | case2 number names hpos ih =>
    rcases ih hmem with hfirst | hgroup
    · rcases List.mem_cons.mp hfirst with rfl | hmem
      · exact .inr ⟨number % 1000, Nat.mod_lt _ (by decide), rfl⟩
      · exact .inl hmem
    · exact .inr hgroup

theorem getLast?_higherGroups (number : ℕ) {names : List String}
    (hnames : names ≠ []) :
    (higherGroups number names).getLast? = names.getLast? := by
  fun_induction higherGroups number names with
  | case1 names => rfl
  | case2 number names hpos ih =>
    rw [ih (List.cons_ne_nil _ _), List.getLast?_cons_of_ne_nil hnames]

theorem getLast?_tileNames (kind : Kind) (index partialSize : ℕ) :
    (tileNames kind index partialSize).getLast? =
      some (if partialSize = 0 then threeDigits (index % 1000)
        else toString partialSize) := by
  have hlast : ∀ {names : List String} {last : String},
      names.getLast? = some last →
      ("tile" :: kind.text :: higherGroups (index / 1000) names).getLast? =
        some last := by
    intro names last hnames
    have hne : names ≠ [] := by
      rintro rfl
      cases hnames
    rw [List.getLast?_cons, List.getLast?_cons, getLast?_higherGroups _ hne,
      hnames]
    rfl
  rw [tileNames]
  split
  · exact hlast rfl
  · exact hlast rfl

theorem mem_tileNames {kind : Kind} {name : String}
    (hmem : name ∈ tileNames kind index partialSize) :
    name = "tile" ∨ name = kind.text ∨ name = toString partialSize ∨
      ∃ group < 1000, name = "x" ++ threeDigits group ∨
        name = threeDigits group ∨ name = threeDigits group ++ ".p" := by
  have hlast : index % 1000 < 1000 := Nat.mod_lt _ (by decide)
  simp only [tileNames, List.mem_cons] at hmem
  rcases hmem with htile | hkind | hmem
  · exact .inl htile
  · exact .inr (.inl hkind)
  · rcases mem_higherGroups hmem with hmem | ⟨group, hgroup, hname⟩
    · split at hmem
      · have hname := List.mem_singleton.mp hmem
        exact .inr (.inr (.inr ⟨_, hlast, .inr (.inl hname)⟩))
      · rcases List.mem_cons.mp hmem with hname | hmem
        · exact .inr (.inr (.inr ⟨_, hlast, .inr (.inr hname)⟩))
        · exact .inr (.inr (.inl (List.mem_singleton.mp hmem)))
    · exact .inr (.inr (.inr ⟨group, hgroup, .inl hname⟩))

theorem isDigit_of_mem_threeDigits (hlt : number < 1000) {character : Char}
    (hmem : character ∈ (threeDigits number).toList) :
    character.isDigit = true := by
  simp only [threeDigits, String.toList_ofList, List.mem_cons,
    List.not_mem_nil, or_false] at hmem
  rcases hmem with rfl | rfl | rfl
  · rw [Nat.isDigit_digitChar, decide_eq_true_eq]
    omega
  · rw [Nat.isDigit_digitChar, decide_eq_true_eq]
    omega
  · rw [Nat.isDigit_digitChar, decide_eq_true_eq]
    omega

theorem isDigit_of_mem_toString {character : Char}
    (hmem : character ∈ (toString number).toList) :
    character.isDigit = true := by
  have hlist : (toString number).toList = Nat.toDigits 10 number := by simp
  rw [hlist] at hmem
  exact Nat.isDigit_of_mem_toDigits (by decide) (by decide) hmem

theorem three_le_length_tileNames (kind : Kind) (index partialSize : ℕ) :
    3 ≤ (tileNames kind index partialSize).length := by
  have hgroups : ∀ names : List String, 1 ≤ names.length →
      1 ≤ (higherGroups (index / 1000) names).length :=
    fun names hnames => Nat.le_trans hnames (length_le_higherGroups _ _)
  rw [tileNames, List.length_cons, List.length_cons]
  apply Nat.succ_le_succ
  apply Nat.succ_le_succ
  apply hgroups
  split <;> simp

theorem length_tileNames_eq_four_iff {kind : Kind} :
    (tileNames kind index partialSize).length = 4 ↔
      (partialSize = 0 ∧ 1000 ≤ index ∧ index < 1000000) ∨
      (partialSize ≠ 0 ∧ index < 1000) := by
  rw [tileNames, List.length_cons, List.length_cons]
  split
  · rename_i hfull
    have hlength := length_higherGroups (index / 1000)
      [threeDigits (index % 1000)]
    rw [List.length_singleton] at hlength
    omega
  · rename_i hsize
    have hlength := length_higherGroups (index / 1000)
      [threeDigits (index % 1000) ++ ".p", toString partialSize]
    rw [List.length_cons, List.length_singleton] at hlength
    omega

end ComplyTime.TileLayout
