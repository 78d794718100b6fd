import Mathlib.Algebra.Order.Floor.Div
import Mathlib.Data.Int.Lemmas
import Mathlib.Data.Rat.Floor
import Whereabouts.Proofs.Bounds

/-!
# Zones tile the map

A layout passes its check when both sides of the map and the side of a zone are positive and the
zones are not too many. The grid of such a layout has a zone for each of its cells, numbers and
cells go into each other and back, and each point of the map is in the square of its zone and of no
other one. A point off the map has the zone of the nearest point on it.
-/

namespace Whereabouts

/-- Rounding up, in exact arithmetic, is adding before the division. -/
lemma ceil_div_eq (a : Nat) {b : Nat} (hb : 0 < b) : ⌈(a : ℚ) / b⌉₊ = (a + b - 1) / b := by
  have hpos : (0 : ℚ) < b := Nat.cast_pos.mpr hb
  apply eq_of_forall_ge_iff
  intro n
  rw [Nat.ceil_le, div_le_iff₀ hpos, ← Nat.ceilDiv_eq_add_pred_div, ceilDiv_le_iff_le_mul hb,
    Nat.mul_comm b n]
  exact_mod_cast Iff.rfl

namespace Layout

/-- How many zones it takes to cover the width of the map. -/
def across (l : Layout) : Nat :=
  ⌈(l.width.toNat : ℚ) / l.zoneSize.toNat⌉₊

/-- How many zones it takes to cover the height of the map. -/
def down (l : Layout) : Nat :=
  ⌈(l.height.toNat : ℚ) / l.zoneSize.toNat⌉₊

/-- Neither the map nor its zones are empty. -/
def Positive (l : Layout) : Prop :=
  0 < l.width.toNat ∧ 0 < l.height.toNat ∧ 0 < l.zoneSize.toNat

/-- The point is on the map. -/
def Has (l : Layout) (p : Point) : Prop :=
  (0 ≤ p.x.toInt ∧ p.x.toInt < l.width.toNat) ∧ 0 ≤ p.y.toInt ∧ p.y.toInt < l.height.toNat

end Layout

/-- The square of the distance of two points. -/
def Point.distSq (p q : Point) : Int :=
  (p.x.toInt - q.x.toInt) ^ 2 + (p.y.toInt - q.y.toInt) ^ 2

/-- The point `q` of the map is as near to `p` as any. -/
def Layout.Nearest (l : Layout) (p q : Point) : Prop :=
  l.Has q ∧ ∀ q', l.Has q' → p.distSq q ≤ p.distSq q'

/-- The point is in the square that the zone stands for. -/
def Grid.Covers (g : Grid) (z : ZoneId) (p : Point) : Prop :=
  ∃ x y : UInt32, z.cell? g.columns = some (x, y) ∧
    (((x.toNat * g.zoneSize.toNat : Nat) : Int) ≤ p.x.toInt ∧
      p.x.toInt < ((x.toNat + 1) * g.zoneSize.toNat : Nat)) ∧
    ((y.toNat * g.zoneSize.toNat : Nat) : Int) ≤ p.y.toInt ∧
      p.y.toInt < ((y.toNat + 1) * g.zoneSize.toNat : Nat)

namespace Layout

variable {l : Layout}

lemma ne_zero_of_pos {n : UInt32} (h : 0 < n.toNat) : n ≠ 0 := by
  rintro rfl
  exact absurd h (by decide)

lemma pos_of_ne_zero {n : UInt32} (h : n ≠ 0) : 0 < n.toNat := by
  apply Nat.pos_of_ne_zero
  intro hzero
  exact h (UInt32.toNat_inj.mp hzero)

/-- Neither rounding up to at least one zone nor zones of at least a pixel change anything. -/
lemma toNat_cover_eq {length zoneSize : UInt32} (hlength : 0 < length.toNat)
    (hzone : 0 < zoneSize.toNat) :
    (cover length zoneSize).toNat = ⌈(length.toNat : ℚ) / zoneSize.toNat⌉₊ := by
  have hside : side zoneSize = zoneSize := if_neg (ne_zero_of_pos hzone)
  have hone : 1 ≤ (length.toNat + zoneSize.toNat - 1) / zoneSize.toNat := by
    rw [Nat.le_div_iff_mul_le hzone]
    omega
  rw [toNat_cover, hside, ceil_div_eq _ hzone]
  omega

lemma Positive.toNat_columns (h : l.Positive) : l.columns.toNat = l.across :=
  toNat_cover_eq h.1 h.2.2

lemma Positive.toNat_rows (h : l.Positive) : l.rows.toNat = l.down :=
  toNat_cover_eq h.2.1 h.2.2

lemma Positive.check_eq (h : l.Positive) :
    l.check = if l.across * l.down ≤ 2 ^ 20 then .ok ()
      else .error (.tooManyZones l.columns l.rows l.zoneSize) := by
  have hempty : ¬(l.width = 0 ∨ l.height = 0) :=
    not_or.mpr ⟨ne_zero_of_pos h.1, ne_zero_of_pos h.2.1⟩
  have hmax : maxZones = 2 ^ 20 := by decide
  rw [check, if_neg hempty, if_neg (ne_zero_of_pos h.2.2), h.toNat_columns, h.toNat_rows, hmax]

lemma positive_of_check (h : l.check = .ok ()) : l.Positive := by
  unfold check at h
  split at h
  · cases h
  · next hempty =>
    split at h
    · cases h
    · next hzone =>
      rw [not_or] at hempty
      exact ⟨pos_of_ne_zero hempty.1, pos_of_ne_zero hempty.2, pos_of_ne_zero hzone⟩

theorem check_eq_ok_iff (l : Layout) :
    l.check = .ok () ↔ l.Positive ∧ l.across * l.down ≤ 2 ^ 20 := by
  constructor
  · intro h
    have hpos := positive_of_check h
    refine ⟨hpos, ?_⟩
    by_contra hgt
    rw [hpos.check_eq, if_neg hgt] at h
    cases h
  · rintro ⟨hpos, hle⟩
    rw [hpos.check_eq, if_pos hle]

end Layout

namespace ZoneId

variable {z : ZoneId} {columns x y : UInt32}

lemma cell?_eq_some_iff (hpos : 0 < columns.toNat) :
    z.cell? columns = some (x, y) ↔
      x.toNat = z.index.toNat % columns.toNat ∧ y.toNat = z.index.toNat / columns.toNat := by
  have hne : columns ≠ 0 := Layout.ne_zero_of_pos hpos
  rw [cell?, if_neg hne, Option.some.injEq, Prod.mk.injEq, ← UInt32.toNat_inj, ← UInt32.toNat_inj,
    UInt32.toNat_mod, UInt32.toNat_div, eq_comm, eq_comm (a := z.index.toNat / columns.toNat)]

/-- The number of a cell that was computed from a number is that number. -/
lemma ofCell_of_cell? (hpos : 0 < columns.toNat) (h : z.cell? columns = some (x, y)) :
    ofCell x y columns = z := by
  obtain ⟨hx, hy⟩ := (cell?_eq_some_iff hpos).mp h
  have hlt := z.index.toNat_lt
  have hsum : y.toNat * columns.toNat + x.toNat = z.index.toNat := by
    rw [hx, hy]
    exact Nat.div_add_mod' _ _
  apply ZoneId.toNat_inj.mp
  rw [ofCell, UInt32.toNat_add, UInt32.toNat_mul]
  omega

end ZoneId

namespace Grid

variable {g : Grid} {l : Layout} {z : ZoneId} {p q : Point}

/-- The cell of a number that was computed from a cell is that cell. -/
lemma cell?_ofCell (hg : g.Numbered) {x y : UInt32} (hx : x.toNat < g.columns.toNat)
    (hy : y.toNat < g.rows.toNat) : (ZoneId.ofCell x y g.columns).cell? g.columns = some (x, y) := by
  rw [ZoneId.cell?_eq_some_iff g.columns_pos, toNat_ofCell hg hx hy]
  constructor
  · rw [Nat.mul_add_mod', Nat.mod_eq_of_lt hx]
  · rw [Nat.mul_comm, Nat.mul_add_div g.columns_pos, Nat.div_eq_of_lt hx, Nat.add_zero]

lemma cell?_zoneAt (hg : g.Numbered) (p : Point) :
    (g.zoneAt p).cell? g.columns = some (g.column p.x.toInt, g.row p.y.toInt) :=
  cell?_ofCell hg (g.column_lt _) (g.row_lt _)

/-- Coordinates fall into the strip of the nearest coordinate on the map. -/
lemma min_div_eq (x : Int) {length size : Nat} (hlength : 0 < length) (hsize : 0 < size) :
    min (x.toNat / size) (⌈(length : ℚ) / size⌉₊ - 1) = min x.toNat (length - 1) / size := by
  have hmono : Monotone (· / size) := fun a b h => Nat.div_le_div_right h
  have hlast : ⌈(length : ℚ) / size⌉₊ - 1 = (length - 1) / size := by
    have hsum : length + size - 1 = length - 1 + size := by omega
    rw [ceil_div_eq _ hsize, hsum, Nat.add_div_right _ hsize, Nat.add_sub_cancel]
  rw [hlast]
  exact hmono.map_min.symm

lemma strip_iff {v : Int} (hv : 0 ≤ v) {size k : Nat} (hsize : 0 < size) :
    (((k * size : Nat) : Int) ≤ v ∧ v < ((k + 1) * size : Nat)) ↔ v.toNat / size = k := by
  rw [Nat.div_eq_iff hsize, Nat.succ_mul]
  omega

/-- The grid has the size of the layout, and its zones are not too many. -/
structure CutFor (g : Grid) (l : Layout) : Prop where
  positive : l.Positive
  columns_eq : g.columns.toNat = l.across
  rows_eq : g.rows.toNat = l.down
  zoneSize_eq : g.zoneSize = l.zoneSize
  numbered : g.Numbered

lemma cutFor_of_shape (hl : l.check = .ok ()) (hg : g.shape = (ofLayout l).shape) :
    g.CutFor l := by
  have hpos := Layout.positive_of_check hl
  have hnumbered : g.Numbered := (numbered_congr hg).mpr (numbered_ofLayout hl)
  simp only [shape, ofLayout, Prod.mk.injEq] at hg
  obtain ⟨hcolumns, hrows, hsize⟩ := hg
  refine ⟨hpos, ?_, ?_, ?_, hnumbered⟩
  · rw [hcolumns, hpos.toNat_columns]
  · rw [hrows, hpos.toNat_rows]
  · rw [hsize, Layout.side, if_neg (Layout.ne_zero_of_pos hpos.2.2)]

namespace CutFor

lemma toNat_column (h : g.CutFor l) (x : Int) :
    (g.column x).toNat = min x.toNat (l.width.toNat - 1) / l.zoneSize.toNat := by
  rw [Grid.toNat_column, h.columns_eq, h.zoneSize_eq]
  exact min_div_eq x h.positive.1 h.positive.2.2

lemma toNat_row (h : g.CutFor l) (y : Int) :
    (g.row y).toNat = min y.toNat (l.height.toNat - 1) / l.zoneSize.toNat := by
  rw [Grid.toNat_row, h.rows_eq, h.zoneSize_eq]
  exact min_div_eq y h.positive.2.1 h.positive.2.2

/-- A point of the map is in the square of its zone and of no other. -/
theorem covers_iff (h : g.CutFor l) (hp : l.Has p) : g.Covers z p ↔ z = g.zoneAt p := by
  obtain ⟨hx, hy⟩ := hp
  have hsize := h.positive.2.2
  have hcolumn : (g.column p.x.toInt).toNat = p.x.toInt.toNat / l.zoneSize.toNat := by
    rw [h.toNat_column, Nat.min_eq_left (by omega)]
  have hrow : (g.row p.y.toInt).toNat = p.y.toInt.toNat / l.zoneSize.toNat := by
    rw [h.toNat_row, Nat.min_eq_left (by omega)]
  unfold Covers
  rw [h.zoneSize_eq]
  constructor
  · rintro ⟨x, y, hcell, hxs, hys⟩
    rw [strip_iff hx.1 hsize, ← hcolumn, UInt32.toNat_inj] at hxs
    rw [strip_iff hy.1 hsize, ← hrow, UInt32.toNat_inj] at hys
    subst hxs hys
    exact (ZoneId.ofCell_of_cell? g.columns_pos hcell).symm
  · rintro rfl
    refine ⟨_, _, cell?_zoneAt h.numbered p, ?_, ?_⟩
    · exact (strip_iff hx.1 hsize).mpr hcolumn.symm
    · exact (strip_iff hy.1 hsize).mpr hrow.symm

end CutFor

end Grid

namespace Layout

variable {l : Layout} {p q : Point}

/-- The nearest coordinate on the map. -/
def clamp (v : Int32) (length : Nat) : Int32 :=
  .ofInt (max 0 (min v.toInt (length - 1)))

/-- The nearest point on the map. -/
def nearest (l : Layout) (p : Point) : Point where
  x := clamp p.x l.width.toNat
  y := clamp p.y l.height.toNat

lemma toInt_clamp (v : Int32) (length : Nat) :
    (clamp v length).toInt = max 0 (min v.toInt (length - 1)) := by
  have hge := v.le_toInt
  have hlt := v.toInt_lt
  apply Int32.toInt_ofInt_of_le
  · omega
  · omega

lemma min_toNat_clamp (v : Int32) (length : Nat) :
    min (clamp v length).toInt.toNat (length - 1) = min v.toInt.toNat (length - 1) := by
  rw [toInt_clamp]
  omega

lemma Positive.has_nearest (h : l.Positive) (p : Point) : l.Has (l.nearest p) := by
  obtain ⟨hw, hh, -⟩ := h
  unfold Has nearest
  rw [toInt_clamp, toInt_clamp]
  omega

lemma sq_clamp_le (v : Int32) {length : Nat} {u : Int} (hu : 0 ≤ u ∧ u < length) :
    (v.toInt - (clamp v length).toInt) ^ 2 ≤ (v.toInt - u) ^ 2 := by
  rw [toInt_clamp, ← Int.natAbs_le_iff_sq_le]
  omega

lemma eq_clamp_of_sq_le (v : Int32) {length : Nat} {u : Int32}
    (hu : 0 ≤ u.toInt ∧ u.toInt < length)
    (hle : (v.toInt - u.toInt) ^ 2 ≤ (v.toInt - (clamp v length).toInt) ^ 2) :
    u = clamp v length := by
  apply Int32.toInt_inj.mp
  rw [toInt_clamp, ← Int.natAbs_le_iff_sq_le] at hle
  rw [toInt_clamp]
  omega

/-- There is one nearest point on the map. -/
lemma Positive.nearest_iff (h : l.Positive) : l.Nearest p q ↔ q = l.nearest p := by
  constructor
  · rintro ⟨hq, hleast⟩
    have hle := hleast _ (h.has_nearest p)
    have hx := sq_clamp_le p.x hq.1
    have hy := sq_clamp_le p.y hq.2
    simp only [Point.distSq, nearest] at hle
    have hqx := eq_clamp_of_sq_le p.x hq.1 (by omega)
    have hqy := eq_clamp_of_sq_le p.y hq.2 (by omega)
    obtain ⟨x, y⟩ := q
    exact congrArg₂ Point.mk hqx hqy
  · rintro rfl
    refine ⟨h.has_nearest p, ?_⟩
    intro q' hq'
    exact Int.add_le_add (sq_clamp_le p.x hq'.1) (sq_clamp_le p.y hq'.2)

end Layout

/-- The zones of a grid tile the map of a layout. -/
structure Grid.Tiles (g : Grid) (l : Layout) : Prop where
  sides : g.columns.toNat = l.across ∧ g.rows.toNat = l.down
  size : g.size = l.across * l.down
  /-- Each zone has a cell, whose number is that of the zone. -/
  cell : ∀ z : ZoneId, z.index.toNat < l.across * l.down →
    ∃ x y, z.cell? g.columns = some (x, y) ∧ (x.toNat < l.across ∧ y.toNat < l.down) ∧
      ZoneId.ofCell x y g.columns = z
  /-- Each cell has a zone, whose cell it is. -/
  number : ∀ x y : UInt32, x.toNat < l.across → y.toNat < l.down →
    (ZoneId.ofCell x y g.columns).index.toNat < l.across * l.down ∧
      (ZoneId.ofCell x y g.columns).cell? g.columns = some (x, y)
  /-- The cell of a point is the one that its coordinates fall into, or the nearest one. -/
  lookup : ∀ p, ∃ x y, (g.zoneAt p).cell? g.columns = some (x, y) ∧
    (x.toNat : Int) = min (max p.x.toInt 0 / l.zoneSize.toNat) (l.across - 1) ∧
    (y.toNat : Int) = min (max p.y.toInt 0 / l.zoneSize.toNat) (l.down - 1)
  /-- A point of the map is in the square of its zone and of no other. -/
  square : ∀ p, l.Has p → ∀ z, g.Covers z p ↔ z = g.zoneAt p
  /-- Every point has the zone of the nearest point of the map. -/
  nearest : ∀ p, (∃ q, l.Nearest p q) ∧ ∀ q, l.Nearest p q → g.zoneAt p = g.zoneAt q

lemma Grid.CutFor.zoneAt_nearest {g : Grid} {l : Layout} (h : g.CutFor l) (p : Point) :
    g.zoneAt p = g.zoneAt (l.nearest p) := by
  have hcolumn : g.column p.x.toInt = g.column (l.nearest p).x.toInt := by
    apply UInt32.toNat_inj.mp
    rw [h.toNat_column, h.toNat_column, Layout.nearest, Layout.min_toNat_clamp]
  have hrow : g.row p.y.toInt = g.row (l.nearest p).y.toInt := by
    apply UInt32.toNat_inj.mp
    rw [h.toNat_row, h.toNat_row, Layout.nearest, Layout.min_toNat_clamp]
  rw [Grid.zoneAt, Grid.zoneAt, hcolumn, hrow]

theorem Grid.CutFor.tiles {g : Grid} {l : Layout} (h : g.CutFor l) : g.Tiles l where
  sides := ⟨h.columns_eq, h.rows_eq⟩
  size := by rw [Grid.size, g.size_zones, h.columns_eq, h.rows_eq]
  cell z hz := by
    have hcell := (ZoneId.cell?_eq_some_iff (z := z) (x := z.index % g.columns)
      (y := z.index / g.columns) g.columns_pos).mpr ⟨UInt32.toNat_mod _ _, UInt32.toNat_div _ _⟩
    refine ⟨_, _, hcell, ⟨?_, ?_⟩, ZoneId.ofCell_of_cell? g.columns_pos hcell⟩
    · rw [UInt32.toNat_mod, ← h.columns_eq]
      exact Nat.mod_lt _ g.columns_pos
    · rw [UInt32.toNat_div, h.columns_eq]
      exact Nat.div_lt_of_lt_mul hz
  number x y hx hy := by
    rw [← h.columns_eq] at hx
    rw [← h.rows_eq] at hy
    refine ⟨?_, Grid.cell?_ofCell h.numbered hx hy⟩
    rw [Grid.toNat_ofCell h.numbered hx hy, ← h.columns_eq, ← h.rows_eq]
    exact Grid.cell_lt hx hy
  lookup p := by
    have hexact := Grid.exact_of_numbered h.numbered
    refine ⟨_, _, Grid.cell?_zoneAt h.numbered p, ?_, ?_⟩
    · rw [hexact.column, h.zoneSize_eq, h.columns_eq]
    · rw [hexact.row, h.zoneSize_eq, h.rows_eq]
  square p hp z := h.covers_iff hp
  nearest p := by
    refine ⟨⟨_, h.positive.nearest_iff.mpr rfl⟩, ?_⟩
    intro q hq
    rw [h.positive.nearest_iff.mp hq]
    exact h.zoneAt_nearest p

/-- A layout passes its check when map and zones are not empty and the zones that cover the map are
at most 2 ^ 20, and then the zones of each grid of its size tile the map. -/
theorem zones_tile_map (l : Layout) :
    (l.check = .ok () ↔
      (0 < l.width.toNat ∧ 0 < l.height.toNat ∧ 0 < l.zoneSize.toNat) ∧
        ⌈(l.width.toNat : ℚ) / l.zoneSize.toNat⌉₊ * ⌈(l.height.toNat : ℚ) / l.zoneSize.toNat⌉₊ ≤
          2 ^ 20) ∧
    (l.check = .ok () → ∀ g : Grid, g.shape = (Grid.ofLayout l).shape → g.Tiles l) := by
  constructor
  · exact l.check_eq_ok_iff
  · intro hl g hg
    exact (Grid.cutFor_of_shape hl hg).tiles

/-- A map whose last column and last row of zones reach beyond it, and a point off the map. -/
theorem zones_tile_map_ragged :
    let l : Layout := { width := 250, height := 130, zoneSize := 100 }
    l.check = .ok () ∧ (Grid.ofLayout l).Tiles l ∧
      l.Nearest ⟨-7, 2147483647⟩ ⟨0, 129⟩ ∧
      (Grid.ofLayout l).zoneAt ⟨-7, 2147483647⟩ = (Grid.ofLayout l).zoneAt ⟨0, 129⟩ ∧
      (Grid.ofLayout l).Covers ⟨3⟩ ⟨0, 129⟩ := by
  intro l
  have hl : l.check = .ok () := by decide
  have htiles := (zones_tile_map l).2 hl (Grid.ofLayout l) rfl
  have hnearest : l.Nearest ⟨-7, 2147483647⟩ ⟨0, 129⟩ :=
    (Layout.positive_of_check hl).nearest_iff.mpr (by decide)
  have hhas : l.Has ⟨0, 129⟩ := hnearest.1
  refine ⟨hl, htiles, hnearest, (htiles.nearest _).2 _ hnearest, ?_⟩
  exact (htiles.square _ hhas ⟨3⟩).mpr (by decide)

end Whereabouts
