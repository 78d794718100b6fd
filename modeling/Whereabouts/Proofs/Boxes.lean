import Whereabouts.Proofs.Cells

/-!
# Boxes

A box is an area of the plane in exact arithmetic, so it may reach beyond the map and beyond 32
bits. For a box whose edges are the right way round a grid selects the zones of its points and no
others. For any other box it depends on the columns and rows that the edges fall into whether the
grid selects any zone at all.
-/

namespace Whereabouts

/-- An area of the plane, edges included. -/
structure Box where
  left : Int
  top : Int
  right : Int
  bottom : Int

namespace Box

/-- The point is in the box. -/
def Has (b : Box) (x y : Int) : Prop :=
  (b.left ≤ x ∧ x ≤ b.right) ∧ b.top ≤ y ∧ y ≤ b.bottom

instance (b : Box) (x y : Int) : Decidable (b.Has x y) :=
  inferInstanceAs (Decidable (_ ∧ _))

/-- The edges are the right way round, so the box has a point. -/
def Upright (b : Box) : Prop :=
  b.left ≤ b.right ∧ b.top ≤ b.bottom

end Box

/-- All that is within a radius of a point, counted along each axis. -/
def Point.square (center : Point) (radius : UInt32) : Box where
  left := center.x.toInt - radius.toNat
  top := center.y.toInt - radius.toNat
  right := center.x.toInt + radius.toNat
  bottom := center.y.toInt + radius.toNat

/-- The rectangle as it is meant, with far edges that do not wrap around. -/
def Rect.area (r : Rect) : Box where
  left := r.x.toInt
  top := r.y.toInt
  right := r.x.toInt + r.w.toInt
  bottom := r.y.toInt + r.h.toInt

lemma Point.upright_square (center : Point) (radius : UInt32) : (center.square radius).Upright := by
  simp only [Box.Upright, square]
  omega

lemma Rect.upright_area_iff (r : Rect) : r.area.Upright ↔ 0 ≤ r.w.toInt ∧ 0 ≤ r.h.toInt := by
  simp only [Box.Upright, area]
  omega

/-- Every strip between those of two coordinates is that of a coordinate in between. -/
lemma exists_strip {size count k : Nat} (hsize : 0 < size) {a b : Int} (hab : a ≤ b)
    (ha : min (a.toNat / size) (count - 1) ≤ k) (hb : k ≤ min (b.toNat / size) (count - 1)) :
    ∃ x, (a ≤ x ∧ x ≤ b) ∧ min (x.toNat / size) (count - 1) = k := by
  by_cases hfirst : min (a.toNat / size) (count - 1) = k
  · exact ⟨a, ⟨Int.le_refl a, hab⟩, hfirst⟩
  · -- The strip begins behind `a`, and its first coordinate is not behind `b`.
    have hlt : a.toNat < k * size := by
      rw [← Nat.div_lt_iff_lt_mul hsize]
      omega
    have hle : k * size ≤ b.toNat := by
      rw [← Nat.le_div_iff_mul_le hsize]
      omega
    refine ⟨(k * size : Nat), by omega, ?_⟩
    rw [Int.toNat_natCast, Nat.mul_div_cancel k hsize]
    omega

namespace Grid

/-- Fill a region with the zones of a box. -/
def fill (g : Grid) (region : Region) (b : Box) : Region :=
  g.fillBox region b.left b.top b.right b.bottom

/-- The zones that a grid selects for a box. -/
def selected (g : Grid) (b : Box) : Region :=
  g.fill .empty b

variable {g : Grid} {b : Box} {z : ZoneId}

lemma mem_selected {g : Grid} {b : Box} {z : ZoneId} : z ∈ g.selected b ↔
    ∃ x y, ((g.column b.left).toNat ≤ x.toNat ∧ x.toNat ≤ (g.column b.right).toNat) ∧
      ((g.row b.top).toNat ≤ y.toNat ∧ y.toNat ≤ (g.row b.bottom).toNat) ∧
      z = .ofCell x y g.columns := by
  rw [selected, fill, mem_fillBox, or_iff_right (Region.not_mem_empty z)]

lemma around_eq (g : Grid) (center : Point) (radius : UInt32) :
    g.around center radius = g.selected (center.square radius) := rfl

lemma overlapping_eq (g : Grid) (r : Rect) : g.overlapping r = g.selected r.area := rfl

lemma exists_column {left right : Int} (h : left ≤ right) {u : UInt32}
    (hleft : (g.column left).toNat ≤ u.toNat) (hright : u.toNat ≤ (g.column right).toNat) :
    ∃ x, (left ≤ x ∧ x ≤ right) ∧ g.column x = u := by
  rw [toNat_column] at hleft hright
  obtain ⟨x, hx, hstrip⟩ := exists_strip g.zoneSize_pos h hleft hright
  exact ⟨x, hx, UInt32.toNat_inj.mp ((g.toNat_column x).trans hstrip)⟩

lemma exists_row {top bottom : Int} (h : top ≤ bottom) {u : UInt32}
    (htop : (g.row top).toNat ≤ u.toNat) (hbottom : u.toNat ≤ (g.row bottom).toNat) :
    ∃ y, (top ≤ y ∧ y ≤ bottom) ∧ g.row y = u := by
  rw [toNat_row] at htop hbottom
  obtain ⟨y, hy, hstrip⟩ := exists_strip g.zoneSize_pos h htop hbottom
  exact ⟨y, hy, UInt32.toNat_inj.mp ((g.toNat_row y).trans hstrip)⟩

/-- What is selected for a box are the zones of its points. -/
theorem mem_selected_iff (hb : b.Upright) :
    z ∈ g.selected b ↔ ∃ x y, b.Has x y ∧ z = g.zoneOver x y := by
  constructor
  · intro hz
    obtain ⟨u, v, hu, hv, rfl⟩ := mem_selected.mp hz
    obtain ⟨x, hx, rfl⟩ := exists_column hb.1 hu.1 hu.2
    obtain ⟨y, hy, rfl⟩ := exists_row hb.2 hv.1 hv.2
    exact ⟨x, y, ⟨hx, hy⟩, rfl⟩
  · rintro ⟨x, y, ⟨hx, hy⟩, rfl⟩
    exact g.zoneOver_mem_fillBox _ hx hy

/-- The edges of the box fall into columns and rows in their order. -/
def Orders (g : Grid) (b : Box) : Prop :=
  (g.column b.left).toNat ≤ (g.column b.right).toNat ∧
    (g.row b.top).toNat ≤ (g.row b.bottom).toNat

instance (g : Grid) (b : Box) : Decidable (g.Orders b) :=
  inferInstanceAs (Decidable (_ ∧ _))

lemma orders_of_upright (g : Grid) (hb : b.Upright) : g.Orders b :=
  ⟨g.column_mono hb.1, g.row_mono hb.2⟩

theorem exists_mem_selected_iff : (∃ z, z ∈ g.selected b) ↔ g.Orders b := by
  constructor
  · rintro ⟨z, hz⟩
    obtain ⟨u, v, hu, hv, -⟩ := mem_selected.mp hz
    exact ⟨hu.1.trans hu.2, hv.1.trans hv.2⟩
  · rintro ⟨hcolumn, hrow⟩
    exact ⟨_, mem_selected.mpr ⟨_, _, ⟨Nat.le_refl _, hcolumn⟩, ⟨Nat.le_refl _, hrow⟩, rfl⟩⟩

end Grid

end Whereabouts
