import Mathlib.Algebra.Order.Ring.Nat
import Whereabouts.Grid
import Whereabouts.Zone.Region.Members

/-!
# The cells of a grid

When a grid has at most 2 ^ 32 zones every cell has a number of its own, below the number of zones.
Columns and rows follow the order of the coordinates, so a box selects the zone of each point in it.
-/

namespace Whereabouts

/-- Within a radius of a point, counted along each axis. -/
def Point.Near (p center : Point) (radius : UInt32) : Prop :=
  (p.x.toInt - center.x.toInt).natAbs ≤ radius.toNat ∧
    (p.y.toInt - center.y.toInt).natAbs ≤ radius.toNat

lemma Point.near_self (p : Point) (radius : UInt32) : p.Near p radius := by
  simp [Near]

lemma ZoneId.toNat_inj {a b : ZoneId} : a.index.toNat = b.index.toNat ↔ a = b := by
  rw [UInt32.toNat_inj, ZoneId.mk.injEq]

namespace Grid

/-- The zone of a point that 32 bits may not hold. -/
def zoneOver (g : Grid) (x y : Int) : ZoneId :=
  .ofCell (g.column x) (g.row y) g.columns

lemma zoneAt_eq (g : Grid) (p : Point) : g.zoneAt p = g.zoneOver p.x.toInt p.y.toInt := rfl

/-- The size of a grid and of its zones, which is all that its geometry depends on. -/
def shape (g : Grid) : UInt32 × UInt32 × UInt32 :=
  (g.columns, g.rows, g.zoneSize)

lemma zoneAt_congr {g g' : Grid} (h : g.shape = g'.shape) (p : Point) :
    g.zoneAt p = g'.zoneAt p := by
  simp only [shape, Prod.mk.injEq] at h
  simp only [zoneAt, column, row, h]

lemma around_congr {g g' : Grid} (h : g.shape = g'.shape) (center : Point) (radius : UInt32) :
    g.around center radius = g'.around center radius := by
  simp only [shape, Prod.mk.injEq] at h
  simp only [around, fillAround, fillBox, column, row, h]

lemma size_zones_congr {g g' : Grid} (h : g.shape = g'.shape) : g.zones.size = g'.zones.size := by
  simp only [shape, Prod.mk.injEq] at h
  rw [g.size_zones, g'.size_zones, h.1, h.2.1]

lemma contains_congr {g g' : Grid} (h : g.shape = g'.shape) (z : ZoneId) :
    g.contains z = g'.contains z := by
  simp only [contains, size_zones_congr h]

lemma contains_iff {g : Grid} {z : ZoneId} : g.contains z ↔ ∃ zone, g.zone? z = some zone := by
  simp only [contains, decide_eq_true_eq, zone?]
  constructor
  · intro h
    exact ⟨_, Array.getElem?_eq_getElem h⟩
  · rintro ⟨zone, h⟩
    exact (Array.getElem?_eq_some_iff.mp h).1

/-- Every zone has a number that fits 32 bits. -/
def Numbered (g : Grid) : Prop :=
  g.columns.toNat * g.rows.toNat ≤ 2 ^ 32

lemma numbered_congr {g g' : Grid} (h : g.shape = g'.shape) : g.Numbered ↔ g'.Numbered := by
  simp only [shape, Prod.mk.injEq] at h
  simp only [Numbered, h]

lemma numbered_ofLayout {l : Layout} (h : l.check = .ok ()) : (ofLayout l).Numbered := by
  unfold Layout.check at h
  split at h
  · cases h
  · split at h
    · cases h
    · split at h
      · next hle =>
        apply Nat.le_trans hle
        decide
      · cases h

/-- Each place in the array of zones is a zone number. -/
lemma exists_zone?_eq {g : Grid} (hg : g.Numbered) {i : Nat} {zone : Zone}
    (h : g.zones[i]? = some zone) : ∃ z : ZoneId, z.index.toNat = i ∧ g.zone? z = some zone := by
  have hi := (Array.getElem?_eq_some_iff.mp h).1
  rw [g.size_zones] at hi
  have hlt : i < UInt32.size := Nat.lt_of_lt_of_le hi hg
  have hindex : (UInt32.ofNat i).toNat = i := UInt32.toNat_ofNat_of_lt' hlt
  exact ⟨⟨UInt32.ofNat i⟩, hindex, by rw [zone?, hindex, h]⟩

lemma toNat_column (g : Grid) (x : Int) :
    (g.column x).toNat = min (x.toNat / g.zoneSize.toNat) (g.columns.toNat - 1) := by
  have hlt := g.columns.toNat_lt
  apply UInt32.toNat_ofNat_of_lt'
  simp only [UInt32.size]
  omega

lemma toNat_row (g : Grid) (y : Int) :
    (g.row y).toNat = min (y.toNat / g.zoneSize.toNat) (g.rows.toNat - 1) := by
  have hlt := g.rows.toNat_lt
  apply UInt32.toNat_ofNat_of_lt'
  simp only [UInt32.size]
  omega

lemma column_lt (g : Grid) (x : Int) : (g.column x).toNat < g.columns.toNat := by
  have hpos := g.columns_pos
  rw [toNat_column]
  omega

lemma row_lt (g : Grid) (y : Int) : (g.row y).toNat < g.rows.toNat := by
  have hpos := g.rows_pos
  rw [toNat_row]
  omega

lemma column_mono (g : Grid) {a b : Int} (h : a ≤ b) :
    (g.column a).toNat ≤ (g.column b).toNat := by
  have hdiv : a.toNat / g.zoneSize.toNat ≤ b.toNat / g.zoneSize.toNat :=
    Nat.div_le_div_right (Int.toNat_le_toNat h)
  rw [toNat_column, toNat_column]
  omega

lemma row_mono (g : Grid) {a b : Int} (h : a ≤ b) : (g.row a).toNat ≤ (g.row b).toNat := by
  have hdiv : a.toNat / g.zoneSize.toNat ≤ b.toNat / g.zoneSize.toNat :=
    Nat.div_le_div_right (Int.toNat_le_toNat h)
  rw [toNat_row, toNat_row]
  omega

lemma cell_lt {columns rows x y : Nat} (hx : x < columns) (hy : y < rows) :
    y * columns + x < columns * rows := by
  calc y * columns + x < y * columns + columns := by omega
    _ = (y + 1) * columns := (Nat.succ_mul y columns).symm
    _ ≤ rows * columns := Nat.mul_le_mul_right columns hy
    _ = columns * rows := Nat.mul_comm rows columns

lemma toNat_ofCell {g : Grid} (hg : g.Numbered) {x y : UInt32} (hx : x.toNat < g.columns.toNat)
    (hy : y.toNat < g.rows.toNat) :
    (ZoneId.ofCell x y g.columns).index.toNat = y.toNat * g.columns.toNat + x.toNat := by
  have hlt := Nat.lt_of_lt_of_le (cell_lt hx hy) hg
  have hmul : y.toNat * g.columns.toNat < 2 ^ 32 := Nat.lt_of_le_of_lt (Nat.le_add_right _ _) hlt
  rw [ZoneId.ofCell, UInt32.toNat_add, UInt32.toNat_mul, Nat.mod_eq_of_lt hmul,
    Nat.mod_eq_of_lt hlt]

lemma contains_ofCell {g : Grid} (hg : g.Numbered) {x y : UInt32} (hx : x.toNat < g.columns.toNat)
    (hy : y.toNat < g.rows.toNat) : g.contains (.ofCell x y g.columns) := by
  simp only [contains, decide_eq_true_eq, toNat_ofCell hg hx hy, g.size_zones]
  exact cell_lt hx hy

lemma contains_zoneAt {g : Grid} (hg : g.Numbered) (p : Point) : g.contains (g.zoneAt p) :=
  contains_ofCell hg (g.column_lt _) (g.row_lt _)

lemma mem_span {a b u : UInt32} : u ∈ span a b ↔ a.toNat ≤ u.toNat ∧ u.toNat ≤ b.toNat := by
  have hb := b.toNat_lt
  rw [span, List.mem_map]
  constructor
  · rintro ⟨n, hn, rfl⟩
    rw [List.mem_range'_1] at hn
    rw [UInt32.toNat_ofNat_of_lt' (by simp only [UInt32.size]; omega)]
    omega
  · rintro ⟨ha, hu⟩
    refine ⟨u.toNat, ?_, UInt32.ofNat_toNat⟩
    rw [List.mem_range'_1]
    omega

/-- The two loops insert the zones of all columns and rows between those of the corners. -/
lemma mem_fillBox {g : Grid} {region : Region} {left top right bottom : Int} {z : ZoneId} :
    z ∈ g.fillBox region left top right bottom ↔ z ∈ region ∨
      ∃ x y, ((g.column left).toNat ≤ x.toNat ∧ x.toNat ≤ (g.column right).toNat) ∧
        ((g.row top).toNat ≤ y.toNat ∧ y.toNat ≤ (g.row bottom).toNat) ∧
        z = .ofCell x y g.columns := by
  have hlist : g.fillBox region left top right bottom =
      ((span (g.row top) (g.row bottom)).flatMap fun y =>
        (span (g.column left) (g.column right)).map fun x =>
          .ofCell x y g.columns).foldl Region.insert region := by
    rw [List.foldl_flatMap]
    simp only [List.foldl_map]
    rfl
  rw [hlist, Region.mem_foldl_insert, List.mem_flatMap]
  simp only [List.mem_map, mem_span]
  refine or_congr_right ?_
  constructor
  · rintro ⟨y, hy, x, hx, rfl⟩
    exact ⟨x, y, hx, hy, rfl⟩
  · rintro ⟨x, y, hx, hy, rfl⟩
    exact ⟨y, hy, x, hx, rfl⟩

/-- To fill a region is to unite it with what fills an empty one. -/
lemma fillBox_eq_union (g : Grid) (region : Region) (left top right bottom : Int) :
    g.fillBox region left top right bottom =
      region.union (g.fillBox .empty left top right bottom) := by
  apply Region.ext
  intro z
  rw [mem_fillBox, Region.mem_union, mem_fillBox, or_iff_right (Region.not_mem_empty z)]

/-- The zones of a box are on the grid. -/
lemma contains_of_mem_fillBox {g : Grid} (hg : g.Numbered) {left top right bottom : Int}
    {z : ZoneId} (hz : z ∈ g.fillBox .empty left top right bottom) : g.contains z := by
  rw [mem_fillBox, or_iff_right (Region.not_mem_empty z)] at hz
  obtain ⟨x, y, hx, hy, rfl⟩ := hz
  have hcolumn := g.column_lt right
  have hrow := g.row_lt bottom
  exact contains_ofCell hg (by omega) (by omega)

/-- A box selects the zone of each point in it. -/
theorem zoneOver_mem_fillBox (g : Grid) (region : Region) {left top right bottom x y : Int}
    (hx : left ≤ x ∧ x ≤ right) (hy : top ≤ y ∧ y ≤ bottom) :
    g.zoneOver x y ∈ g.fillBox region left top right bottom :=
  mem_fillBox.mpr (.inr ⟨_, _, ⟨g.column_mono hx.1, g.column_mono hx.2⟩,
    ⟨g.row_mono hy.1, g.row_mono hy.2⟩, rfl⟩)

lemma contains_of_mem_around {g : Grid} (hg : g.Numbered) {center : Point} {radius : UInt32}
    {z : ZoneId} (hz : z ∈ g.around center radius) : g.contains z :=
  contains_of_mem_fillBox hg hz

theorem zoneAt_mem_around (g : Grid) {p center : Point} {radius : UInt32}
    (h : p.Near center radius) : g.zoneAt p ∈ g.around center radius := by
  obtain ⟨hx, hy⟩ := h
  rw [zoneAt_eq]
  apply zoneOver_mem_fillBox
  · omega
  · omega

end Grid

end Whereabouts
