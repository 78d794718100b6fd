import Whereabouts.Proofs.Boxes
import Whereabouts.Proofs.Queries
import Whereabouts.Proofs.Ticks

/-!
# Who is near

The queries around a point, around a thing and within a rectangle are each about a box. When
everything is recorded in the zone of its position, which is so once the tick is over, they find
what is in the box, and besides only what is in a zone that the box has a point of.
-/

namespace Whereabouts

/-- What was seen answers a query about a box and a segment. -/
structure World.Answers (w : World) (b : Box) (s : Segment) (seen : List Handle) : Prop where
  nodup : seen.Nodup
  /-- Each thing seen is a visible one of the segment, in the zone of some point of the box. -/
  close : ∀ h ∈ seen, ∃ e t, w.map.entry? h = some e ∧ w.people.get? h = some t ∧ t.visible ∧
    s.admits t.kind ∧ ∃ x y, b.Has x y ∧ e.zone = some (w.map.grid.zoneOver x y)
  /-- Each visible thing of the segment that is in the box is seen. -/
  complete : ∀ h ∈ w.map.things, ∀ t, w.people.get? h = some t → t.visible → s.admits t.kind →
    b.Has t.position.x.toInt t.position.y.toInt → h ∈ seen

namespace World

variable {w : World} {n : Nat}

/-- A visible thing on the map is listed in the zone of its position. -/
lemma InPlace.zone_eq (h : w.InPlace .settled) (hw : w.Sound n) {e : Entry} (he : e ∈ w.map.listed)
    {t : Thing} (ht : w.people.get? e.thing = some t) (hvisible : t.visible) :
    e.zone = some (w.map.grid.zoneAt t.position) := by
  rw [(hw.map.tied.shows he ht).2.1, Option.isSome_iff_exists] at hvisible
  obtain ⟨z, hz⟩ := hvisible
  obtain ⟨t', ht', hzone⟩ := h e he
  rw [ht, Option.some.injEq] at ht'
  subst ht'
  rw [hz, hzone z hz]
  rfl

/-- A walk over the zones of a box answers the query about it. -/
theorem InPlace.answers (h : w.InPlace .settled) (hw : w.Sound n) {b : Box} (hb : b.Upright)
    (s : Segment) :
    ∃ seen, ((ZoneWalk.ofRegion w.map.grid (w.map.grid.selected b)).narrow s).Yields seen ∧
      w.Answers b s seen := by
  have ho := hw.map.occupancy
  have hsome := Grid.exists_mem_selected_iff.mpr (w.map.grid.orders_of_upright hb)
  have hinside : ∀ z ∈ w.map.grid.selected b, w.map.grid.contains z :=
    fun z hz => Grid.contains_of_mem_fillBox ho.numbered hz
  obtain ⟨seen, hyields, hnodup, hseen⟩ := ho.exists_yields hsome hinside s
  refine ⟨seen, hyields, hnodup, ?_, ?_⟩
  · intro k hk
    obtain ⟨z, hz, hthere⟩ := (hseen k).mp hk
    obtain ⟨e, he, hez, hkind, rfl⟩ := ho.mem_segmentAt_iff.mp hthere
    obtain ⟨x, y, hxy, rfl⟩ := (Grid.mem_selected_iff hb).mp hz
    obtain ⟨t, ht, -⟩ := h e he
    obtain ⟨hkind', hvisible, -⟩ := hw.map.tied.shows he ht
    refine ⟨e, t, ho.indexed.get?_eq_some_iff.mpr ⟨he, rfl⟩, ht, ?_, ?_, x, y, hxy, hez⟩
    · rw [hvisible, hez]
      rfl
    · rw [hkind']
      exact hkind
  · intro k hk t ht hvisible hkind hbox
    obtain ⟨e, he, rfl⟩ := GameMap.mem_things.mp hk
    have hzone := h.zone_eq hw he ht hvisible
    rw [(hw.map.tied.shows he ht).1] at hkind
    refine (hseen e.thing).mpr ⟨w.map.grid.zoneAt t.position, ?_, ?_⟩
    · exact (Grid.mem_selected_iff hb).mpr ⟨_, _, hbox, w.map.grid.zoneAt_eq t.position⟩
    · exact ho.mem_segmentAt_iff.mpr ⟨e, he, hzone, hkind, rfl⟩

end World

/-- When everything on the map lives and is recorded in the zone of its position, a query around a
point, around a thing or within a rectangle answers about the box that is asked for, in every
segment. -/
theorem proximity_queries_answer (id : MapId) (name : String) {l : Layout} (hl : l.check = .ok ())
    {calls : List Call} (hspawns : calls.countP Call.isSpawn < 2 ^ 32)
    (hplace : ((World.start id name l).run calls).InPlace .settled) (s : Segment) :
    let w := (World.start id name l).run calls
    (∀ center radius, ∃ seen, ((w.map.near center radius).narrow s).Yields seen ∧
      w.Answers (center.square radius) s seen) ∧
    (∀ thing radius, ∃ seen, ((w.map.nearThing thing radius).narrow s).Yields seen ∧
      w.Answers (thing.position.square radius) s seen) ∧
    ∀ r : Rect, 0 ≤ r.w.toInt → 0 ≤ r.h.toInt →
      ∃ seen, ((w.map.within r).narrow s).Yields seen ∧ w.Answers r.area s seen := by
  intro w
  have hw : w.Sound _ := World.sound_run id name hl hspawns
  have hsquare : ∀ center radius, ∃ seen, ((w.map.near center radius).narrow s).Yields seen ∧
      w.Answers (center.square radius) s seen := by
    intro center radius
    rw [GameMap.near, Grid.around_eq]
    exact hplace.answers hw (center.upright_square radius) s
  refine ⟨hsquare, fun thing => hsquare thing.position, ?_⟩
  intro r hwidth hheight
  rw [GameMap.within, Grid.overlapping_eq]
  exact hplace.answers hw (r.upright_area_iff.mpr ⟨hwidth, hheight⟩) s

theorem proximity_queries_answer_stroll :
    World.plaza.check = .ok () ∧ World.stroll.countP Call.isSpawn < 2 ^ 32 ∧
      ((World.start ⟨1⟩ "plaza" World.plaza).run World.stroll).InPlace .settled ∧
      (0 : Int) ≤ (100 : Int32).toInt ∧
      ∃ seen,
        ((((World.start ⟨1⟩ "plaza" World.plaza).run World.stroll).map.within
          ⟨200, 100, 100, 100⟩).narrow .characters).Yields seen ∧ ⟨0, .first⟩ ∈ seen := by
  have hl : World.plaza.check = .ok () := by decide
  have hspawns : World.stroll.countP Call.isSpawn < 2 ^ 32 := by decide
  have hplace : ((World.start ⟨1⟩ "plaza" World.plaza).run World.stroll).InPlace .settled :=
    World.follows_stroll.inPlace (World.sound_start ⟨1⟩ "plaza" hl)
      (World.inPlace_start ⟨1⟩ "plaza" World.plaza .settled) (by decide)
  have hextent : (0 : Int) ≤ (100 : Int32).toInt := by decide
  obtain ⟨seen, hyields, hanswers⟩ := (proximity_queries_answer ⟨1⟩ "plaza" hl hspawns hplace
    .characters).2.2 ⟨200, 100, 100, 100⟩ hextent hextent
  have hon : ⟨0, .first⟩ ∈
      ((World.start ⟨1⟩ "plaza" World.plaza).run World.stroll).map.things := by
    decide +kernel
  have hlive : ((World.start ⟨1⟩ "plaza" World.plaza).run World.stroll).people.get? ⟨0, .first⟩ =
      some ⟨.character, true, ⟨250, 150⟩, ⟨10, 20⟩, some ⟨1⟩, some ⟨0⟩⟩ := by
    decide +kernel
  have hbox : (Rect.area ⟨200, 100, 100, 100⟩).Has 250 150 := by
    decide
  exact ⟨hl, hspawns, hplace, hextent, seen, hyields,
    hanswers.complete _ hon _ hlive rfl rfl hbox⟩

end Whereabouts
