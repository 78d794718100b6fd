import Whereabouts.Proofs.Boxes
import Whereabouts.Proofs.Worlds

/-!
# Filling a region

The zones of a box may be added to a region that has zones already. A grid does this with two loops,
over the rows and over the columns between those of the corners, and inserts one zone after the
other. What comes out is the region with the zones of all points of the box, those off the map and
beyond 32 bits among them, and with no other zone.
-/

namespace Whereabouts

namespace Grid

variable {g : Grid} {region : Region} {b : Box} {z : ZoneId}

lemma fillAround_eq (g : Grid) (region : Region) (center : Point) (radius : UInt32) :
    g.fillAround region center radius = g.fill region (center.square radius) := rfl

lemma fillOverlapping_eq (g : Grid) (region : Region) (r : Rect) :
    g.fillOverlapping region r = g.fill region r.area := rfl

lemma fill_eq_union (g : Grid) (region : Region) (b : Box) :
    g.fill region b = region.union (g.selected b) :=
  g.fillBox_eq_union region b.left b.top b.right b.bottom

/-- Filling a region adds the zones of the points of the box and no others. -/
theorem mem_fill_iff (hb : b.Upright) :
    z ∈ g.fill region b ↔ z ∈ region ∨ ∃ x y, b.Has x y ∧ z = g.zoneOver x y := by
  rw [fill_eq_union, Region.mem_union, mem_selected_iff hb]

lemma zoneAt_mem_fill {p : Point} (hp : b.Has p.x.toInt p.y.toInt) :
    g.zoneAt p ∈ g.fill region b :=
  g.zoneOver_mem_fillBox region hp.1 hp.2

/-- On a grid that is small enough the zone of a point has the number of its cell. -/
lemma toNat_zoneOver (hg : g.Numbered) (x y : Int) :
    (g.zoneOver x y).index.toNat =
      min (y.toNat / g.zoneSize.toNat) (g.rows.toNat - 1) * g.columns.toNat +
        min (x.toNat / g.zoneSize.toNat) (g.columns.toNat - 1) := by
  rw [zoneOver, toNat_ofCell hg (g.column_lt x) (g.row_lt y), toNat_column, toNat_row]

end Grid

lemma Point.has_square_iff {center : Point} {radius : UInt32} {x y : Int} :
    (center.square radius).Has x y ↔
      (x - center.x.toInt).natAbs ≤ radius.toNat ∧ (y - center.y.toInt).natAbs ≤ radius.toNat := by
  simp only [Box.Has, square]
  omega

/-- On a grid of a layout that passes its check, every point of the plane, also one that 32 bits do
not hold, has the zone of the nearest cell. Filling a region around a point, or within a rectangle
whose extents are not negative, adds the zones of all points of the box and no others, whatever was
in the region before. -/
theorem fill_selects_exactly {l : Layout} (hl : l.check = .ok ()) {g : Grid}
    (hg : g.shape = (Grid.ofLayout l).shape) (region : Region) :
    (∀ x y, (g.zoneOver x y).index.toNat =
      min (y.toNat / g.zoneSize.toNat) (g.rows.toNat - 1) * g.columns.toNat +
        min (x.toNat / g.zoneSize.toNat) (g.columns.toNat - 1)) ∧
    (∀ p, g.zoneAt p = g.zoneOver p.x.toInt p.y.toInt) ∧
    (∀ (center : Point) (radius : UInt32),
      let filled := g.fillAround region center radius
      filled = region.union (g.around center radius) ∧
      (∀ z, z ∈ filled ↔ z ∈ region ∨
        ∃ x y : Int, ((x - center.x.toInt).natAbs ≤ radius.toNat ∧
          (y - center.y.toInt).natAbs ≤ radius.toNat) ∧ z = g.zoneOver x y) ∧
      ∀ p : Point, p.Near center radius → g.zoneAt p ∈ filled) ∧
    ∀ r : Rect, 0 ≤ r.w.toInt → 0 ≤ r.h.toInt →
      let filled := g.fillOverlapping region r
      filled = region.union (g.overlapping r) ∧
      (∀ z, z ∈ filled ↔ z ∈ region ∨
        ∃ x y : Int, ((r.x.toInt ≤ x ∧ x ≤ r.x.toInt + r.w.toInt) ∧
          r.y.toInt ≤ y ∧ y ≤ r.y.toInt + r.h.toInt) ∧ z = g.zoneOver x y) ∧
      ∀ p : Point, r.area.Has p.x.toInt p.y.toInt → g.zoneAt p ∈ filled := by
  have hnumbered : g.Numbered := (Grid.numbered_congr hg).mpr (Grid.numbered_ofLayout hl)
  refine ⟨Grid.toNat_zoneOver hnumbered, g.zoneAt_eq, ?_, ?_⟩
  · intro center radius
    rw [Grid.fillAround_eq]
    refine ⟨g.fill_eq_union region _, ?_, ?_⟩
    · intro z
      simp only [← Point.has_square_iff]
      exact Grid.mem_fill_iff (center.upright_square radius)
    · intro p hp
      exact Grid.zoneAt_mem_fill (Point.has_square_iff.mpr hp)
  · intro r hw hh
    rw [Grid.fillOverlapping_eq]
    refine ⟨g.fill_eq_union region _, ?_, fun p => Grid.zoneAt_mem_fill⟩
    intro z
    exact Grid.mem_fill_iff (r.upright_area_iff.mpr ⟨hw, hh⟩)

/-- A strip that begins off the map, with a point in it that 32 bits do not hold. -/
theorem fill_selects_exactly_strip :
    World.plaza.check = .ok () ∧
      let g := Grid.ofLayout World.plaza
      let region := Region.empty.insert ⟨4⟩
      let strip : Rect := ⟨2147483647, -50, 2147483647, 160⟩
      (0 ≤ strip.w.toInt ∧ 0 ≤ strip.h.toInt) ∧ g.zoneOver 4294967294 110 = ⟨5⟩ ∧
        ⟨5⟩ ∈ g.fillOverlapping region strip ∧
        (g.fillOverlapping region strip).toList = [⟨2⟩, ⟨4⟩, ⟨5⟩] := by
  have hl : World.plaza.check = .ok () := by decide
  refine ⟨hl, ?_⟩
  intro g region strip
  have hw : 0 ≤ strip.w.toInt := by decide
  have hh : 0 ≤ strip.h.toInt := by decide
  have hzone : g.zoneOver 4294967294 110 = ⟨5⟩ := by decide +kernel
  have hfill := (fill_selects_exactly hl (g := g) rfl region).2.2.2 strip hw hh
  have hmem : ⟨5⟩ ∈ g.fillOverlapping region strip :=
    (hfill.2.1 ⟨5⟩).mpr (.inr ⟨4294967294, 110, by decide, hzone.symm⟩)
  exact ⟨⟨hw, hh⟩, hzone, hmem, by decide +kernel⟩

end Whereabouts
