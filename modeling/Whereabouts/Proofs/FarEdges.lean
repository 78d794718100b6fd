import Whereabouts.Proofs.Bounds

/-!
# The far edges of rectangles

A rectangle asks a point whether it is inside by its far edges, which wrap around when they leave the
plane, while a grid selects the zones of the rectangle as it is meant. As long as the far edges are
on the plane both speak of the same points. When one of them is not, the rectangle has no point at
all, so whatever it has is selected anyhow, but nothing of what is selected is kept.
-/

namespace Whereabouts

namespace Rect

/-- The far edges are on the plane. -/
def OnPlane (r : Rect) : Prop :=
  r.x.toInt + r.w.toInt < 2 ^ 31 ∧ r.y.toInt + r.h.toInt < 2 ^ 31

instance (r : Rect) : Decidable r.OnPlane :=
  inferInstanceAs (Decidable (_ ∧ _))

/-- The things of a list that are inside the rectangle. -/
def keep (r : Rect) (people : Population) (found : List Handle) : List Handle :=
  found.filter fun h => (people.get? h).any fun t => r.contains t.position

variable {r : Rect}

/-- An edge that leaves the plane comes out before the edge that it is counted from. -/
lemma le_far_edge_iff {v x w : Int32} (hw : 0 ≤ w.toInt) :
    x ≤ v ∧ v ≤ x + w ↔
      (x.toInt ≤ v.toInt ∧ v.toInt ≤ x.toInt + w.toInt) ∧ x.toInt + w.toInt < 2 ^ 31 := by
  have hx := x.le_toInt
  have hx' := x.toInt_lt
  have hv' := v.toInt_lt
  have hw' := w.toInt_lt
  rw [Int32.le_iff_toInt_le, Int32.le_iff_toInt_le, Int32.toInt_add, Int.bmod_def]
  omega

theorem contains_iff (hw : 0 ≤ r.w.toInt) (hh : 0 ≤ r.h.toInt) (p : Point) :
    r.contains p ↔ r.area.Has p.x.toInt p.y.toInt ∧ r.OnPlane := by
  have hx := le_far_edge_iff (v := p.x) (x := r.x) hw
  have hy := le_far_edge_iff (v := p.y) (x := r.y) hh
  simp only [contains, Bool.and_eq_true, decide_eq_true_eq, Box.Has, area, OnPlane]
  rw [and_assoc, hx, hy]
  exact and_and_and_comm

lemma mem_keep {people : Population} {found : List Handle} {h : Handle} {t : Thing}
    (hfound : h ∈ found) (ht : people.get? h = some t) :
    h ∈ r.keep people found ↔ r.contains t.position := by
  rw [keep, List.mem_filter, ht, Option.any_some]
  exact and_iff_right hfound

end Rect

/-- A walk over the zones of a rectangle goes to its end on every grid that is small enough. -/
lemma GameMap.within_yields {m : GameMap} (hm : m.grid.Numbered) (r : Rect) (s : Segment) :
    ∃ found, ((m.within r).narrow s).Yields found := by
  refine ⟨_, ThingWalk.yields_ahead ?_⟩
  exact ZoneWalk.inside_ofRegion hm (fun z hz => Grid.contains_of_mem_fillBox hm hz)

/-- A rectangle whose extents are not negative contains the points of its area when its far edges
are on the plane, and else none, while a grid always selects the zones of the points of its area. So
the zone of a point that the rectangle contains is selected, and those of the things found within
the rectangle that are in its area are kept exactly when its far edges are on the plane. -/
theorem contains_follows_area {l : Layout} (hl : l.check = .ok ()) {m : GameMap}
    (hm : m.grid.shape = (Grid.ofLayout l).shape) (people : Population) {r : Rect}
    (hw : 0 ≤ r.w.toInt) (hh : 0 ≤ r.h.toInt) :
    (∀ p, r.contains p ↔ r.area.Has p.x.toInt p.y.toInt ∧ r.OnPlane) ∧
    (∀ z, z ∈ m.grid.overlapping r ↔ ∃ x y, r.area.Has x y ∧ z = m.grid.zoneOver x y) ∧
    (∀ p, r.contains p → m.grid.zoneAt p ∈ m.grid.overlapping r) ∧
    ∀ s, ∃ found, ((m.within r).narrow s).Yields found ∧
      ∀ h ∈ found, ∀ t, people.get? h = some t →
        r.area.Has t.position.x.toInt t.position.y.toInt →
        (h ∈ r.keep people found ↔ r.OnPlane) := by
  have hupright : r.area.Upright := r.upright_area_iff.mpr ⟨hw, hh⟩
  have hselected : ∀ z, z ∈ m.grid.overlapping r ↔
      ∃ x y, r.area.Has x y ∧ z = m.grid.zoneOver x y := by
    intro z
    rw [Grid.overlapping_eq]
    exact Grid.mem_selected_iff hupright
  refine ⟨Rect.contains_iff hw hh, hselected, ?_, ?_⟩
  · intro p hp
    exact (hselected _).mpr ⟨_, _, ((Rect.contains_iff hw hh p).mp hp).1, m.grid.zoneAt_eq p⟩
  · intro s
    obtain ⟨found, hyields⟩ :=
      GameMap.within_yields ((Grid.numbered_congr hm).mpr (Grid.numbered_ofLayout hl)) r s
    refine ⟨found, hyields, ?_⟩
    intro h hfound t ht hhas
    rw [Rect.mem_keep hfound ht, Rect.contains_iff hw hh]
    exact and_iff_right hhas

/-- A rectangle in the far corner of the plaza. -/
theorem contains_follows_area_corner :
    let w := (World.start ⟨1⟩ "plaza" World.plaza).run World.stroll
    let r : Rect := ⟨200, 100, 100, 100⟩
    World.plaza.check = .ok () ∧ w.map.grid.shape = (Grid.ofLayout World.plaza).shape ∧
      (0 ≤ r.w.toInt ∧ 0 ≤ r.h.toInt) ∧ r.OnPlane ∧ r.contains ⟨250, 150⟩ ∧
      ∃ found, ((w.map.within r).narrow .all).Yields found ∧ ⟨0, .first⟩ ∈ r.keep w.people found := by
  intro w r
  have hl : World.plaza.check = .ok () := by decide
  have hshape : w.map.grid.shape = (Grid.ofLayout World.plaza).shape := by decide +kernel
  have hw : 0 ≤ r.w.toInt := by decide
  have hh : 0 ≤ r.h.toInt := by decide
  have hedges : r.OnPlane := by decide
  have hlive : w.people.get? ⟨0, .first⟩ =
      some ⟨.character, true, ⟨250, 150⟩, ⟨10, 20⟩, some ⟨1⟩, some ⟨0⟩⟩ := by
    decide +kernel
  have hhas : r.area.Has 250 150 := by decide
  obtain ⟨hcontains, -, -, hfilter⟩ := contains_follows_area hl hshape w.people hw hh
  obtain ⟨found, hyields, hkept⟩ := hfilter .all
  have hfirst : ((w.map.within r).narrow .all).take 1 = .ok [some ⟨0, .first⟩] := by
    decide +kernel
  have hfound : ⟨0, .first⟩ ∈ found := by
    rw [hyields 1] at hfirst
    apply List.mem_of_getElem? (i := 0)
    simpa using hfirst
  exact ⟨hl, hshape, ⟨hw, hh⟩, hedges, (hcontains _).mpr ⟨hhas, hedges⟩, found, hyields,
    (hkept _ hfound _ hlive hhas).mpr hedges⟩

/-- A rectangle that is to reach to the end of the plane contains no point, although the zone of the
point is selected and the thing that stands there is found. -/
theorem contains_loses_far_points :
    let w := (World.start ⟨1⟩ "plaza" World.plaza).run World.stroll
    let r : Rect := ⟨100, 100, 2147483647, 2147483647⟩
    (0 ≤ r.w.toInt ∧ 0 ≤ r.h.toInt) ∧ r.area.Has 250 150 ∧ r.contains ⟨250, 150⟩ = false ∧
      w.map.grid.zoneAt ⟨250, 150⟩ ∈ w.map.grid.overlapping r ∧
      ((w.map.within r).narrow .all).take 2 = .ok [some ⟨0, .first⟩, none] ∧
      (w.people.get? ⟨0, .first⟩).map Thing.position = some ⟨250, 150⟩ ∧
      r.keep w.people [⟨0, .first⟩] = [] := by
  intro w r
  have hzone : w.map.grid.zoneAt ⟨250, 150⟩ ∈ w.map.grid.overlapping r :=
    Grid.zoneOver_mem_fillBox _ _ (by decide) (by decide)
  exact ⟨by decide, by decide, by decide, hzone, by decide +kernel, by decide +kernel,
    by decide +kernel⟩

end Whereabouts
