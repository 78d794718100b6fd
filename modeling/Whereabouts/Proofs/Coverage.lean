import Whereabouts.Proofs.Boxes
import Whereabouts.Proofs.Sight

/-!
# Which zones queries visit

An empty region stands for the whole grid, so a query that selects no zone visits all of them. The
queries around a point and around a thing always select some. The query within a rectangle selects
none when the edges of the rectangle are so much the wrong way round that they fall into columns or
rows in the reverse order.
-/

namespace Whereabouts

/-- The calls of `next` go through the zones of a list, in order, and then come to the end. -/
inductive ZoneWalk.Visits : ZoneWalk → List ZoneId → Prop where
  | finish {w : ZoneWalk} (hhere : w.here? = none) (hnext : w.next = .ok none) : Visits w []
  | go {w w' : ZoneWalk} {z : ZoneId} {zone : Zone} {zs : List ZoneId} (hhere : w.here? = some z)
      (hzone : w.grid.zone? z = some zone) (hnext : w.next = .ok (some (zone, w')))
      (hrest : Visits w' zs) : Visits w (z :: zs)

namespace ZoneWalk

theorem visits_ahead {w : ZoneWalk} (hw : w.Inside) : w.Visits w.ahead := by
  generalize hzs : w.ahead = zs
  induction zs generalizing w with
  | nil =>
    refine .finish ?_ (next_of_ahead_nil hzs)
    rw [here?_eq, hzs]
    rfl
  | cons z zs ih =>
    obtain ⟨zone, w', hzone, hnext, -, htail, hin⟩ := hw.next hzs
    refine .go ?_ hzone hnext (ih hin htail)
    rw [here?_eq, hzs]
    rfl

end ZoneWalk

namespace Grid

variable {g : Grid}

/-- All zone numbers of a grid, row by row. -/
def numbers (g : Grid) : List ZoneId :=
  (List.range g.size).map fun i => ⟨UInt32.ofNat i⟩

lemma mem_numbers_iff (hg : g.Numbered) {z : ZoneId} : z ∈ g.numbers ↔ g.contains z := by
  simp only [numbers, List.mem_map, List.mem_range, size, contains, decide_eq_true_eq]
  constructor
  · rintro ⟨i, hi, rfl⟩
    have hlt : i < UInt32.size := by
      rw [g.size_zones] at hi
      exact Nat.lt_of_lt_of_le hi hg
    rwa [UInt32.toNat_ofNat_of_lt' hlt]
  · intro hz
    exact ⟨z.index.toNat, hz, by rw [UInt32.ofNat_toNat]⟩

/-- A walk over zones that a grid has goes through them all. -/
theorem visits_ofRegion {region : Region} (hsome : ∃ z, z ∈ region)
    (hinside : ∀ z ∈ region, g.contains z) :
    (ZoneWalk.ofRegion g region).Visits region.toList := by
  rw [← ahead_ofRegion g hsome]
  apply ZoneWalk.visits_ahead
  intro z hz
  rw [ahead_ofRegion g hsome] at hz
  exact hinside z (Region.mem_toList.mp hz)

lemma ahead_ofGrid (g : Grid) : (ZoneWalk.ofGrid g).ahead = g.numbers := by
  rw [numbers, List.range_eq_range']
  rfl

lemma inside_ofGrid (hg : g.Numbered) : (ZoneWalk.ofGrid g).Inside := by
  intro z hz
  rw [ahead_ofGrid] at hz
  exact (mem_numbers_iff hg).mp hz

theorem visits_ofGrid (hg : g.Numbered) : (ZoneWalk.ofGrid g).Visits g.numbers := by
  rw [← ahead_ofGrid]
  exact ZoneWalk.visits_ahead (inside_ofGrid hg)

lemma visits_selected (hg : g.Numbered) {b : Box} (hb : g.Orders b) :
    (ZoneWalk.ofRegion g (g.selected b)).Visits (g.selected b).toList :=
  visits_ofRegion (exists_mem_selected_iff.mpr hb) (fun _ hz => contains_of_mem_fillBox hg hz)

lemma selected_eq_empty {b : Box} (hb : ¬g.Orders b) : g.selected b = .empty := by
  apply Region.ext
  intro z
  exact iff_of_false (fun hz => hb (exists_mem_selected_iff.mp ⟨z, hz⟩)) (Region.not_mem_empty z)

end Grid

/-- A rectangle with edges in the reverse order selects nothing and is walked as the whole map. -/
lemma GameMap.within_of_not_orders {m : GameMap} {r : Rect} (hr : ¬m.grid.Orders r.area) :
    m.grid.overlapping r = .empty ∧ m.within r = m.everywhere := by
  have hempty : m.grid.overlapping r = .empty := by
    rw [Grid.overlapping_eq]
    exact Grid.selected_eq_empty hr
  refine ⟨hempty, ?_⟩
  rw [within, hempty]
  rfl

/-- The queries around a point or a thing visit the zones that they select, the query for who is in
sight those and the ones that things left the first area for, and the query within a rectangle those
that it selects as long as the edges fall into columns and rows in their order. When they do not,
the rectangle selects nothing and the query is the one for the whole map, which visits every zone.
-/
theorem queries_visit_what_they_select (id : MapId) (name : String) {l : Layout}
    (hl : l.check = .ok ()) {calls : List Call} (hspawns : calls.countP Call.isSpawn < 2 ^ 32) :
    let m := ((World.start id name l).run calls).map
    (∀ center radius, (m.near center radius).Visits (m.grid.around center radius).toList) ∧
    (∀ thing radius,
      (m.nearThing thing radius).Visits (m.grid.around thing.position radius).toList) ∧
    (∀ watcher radius, ∃ walk, ∃ region : Region, m.inSight watcher radius = .ok walk ∧
      walk.Visits region.toList ∧ ∀ z, z ∈ region ↔
        (z ∈ m.grid.around watcher.tickStart radius ∨
          ∃ y ∈ m.grid.around watcher.tickStart radius, m.grid.Departed y z) ∨
        z ∈ m.grid.around watcher.position radius) ∧
    (∀ r : Rect, m.grid.Orders r.area → (m.within r).Visits (m.grid.overlapping r).toList) ∧
    (∀ r : Rect, ¬m.grid.Orders r.area →
      m.grid.overlapping r = .empty ∧ m.within r = m.everywhere) ∧
    m.everywhere.Visits m.grid.numbers := by
  intro m
  have hm : m.Sound _ := (World.sound_run id name hl hspawns).map
  have hnumbered : m.grid.Numbered := hm.occupancy.numbered
  have haround : ∀ center radius,
      (m.near center radius).Visits (m.grid.around center radius).toList := by
    intro center radius
    rw [GameMap.near, Grid.around_eq]
    exact Grid.visits_selected hnumbered (m.grid.orders_of_upright (center.upright_square radius))
  refine ⟨haround, fun thing => haround thing.position, ?_, ?_, ?_, ?_⟩
  · intro watcher radius
    obtain ⟨region, hregion, hsome, hinside, hmem⟩ := hm.inSight_eq watcher radius
    exact ⟨_, region, hregion, Grid.visits_ofRegion hsome hinside, hmem⟩
  · intro r hr
    rw [GameMap.within, Grid.overlapping_eq]
    exact Grid.visits_selected hnumbered hr
  · intro r hr
    exact GameMap.within_of_not_orders hr
  · exact Grid.visits_ofGrid hnumbered

/-- A rectangle the wrong way round that does not leave its column. -/
theorem queries_visit_what_they_select_stroll :
    World.plaza.check = .ok () ∧ World.stroll.countP Call.isSpawn < 2 ^ 32 ∧
      ((World.start ⟨1⟩ "plaza" World.plaza).run World.stroll).map.grid.Orders
        (Rect.area ⟨250, 150, -20, 10⟩) ∧
      (((World.start ⟨1⟩ "plaza" World.plaza).run World.stroll).map.within
        ⟨250, 150, -20, 10⟩).Visits [⟨5⟩] := by
  have hl : World.plaza.check = .ok () := by decide
  have hspawns : World.stroll.countP Call.isSpawn < 2 ^ 32 := by decide
  have horders : ((World.start ⟨1⟩ "plaza" World.plaza).run World.stroll).map.grid.Orders
      (Rect.area ⟨250, 150, -20, 10⟩) := by
    decide +kernel
  have hselected : (((World.start ⟨1⟩ "plaza" World.plaza).run World.stroll).map.grid.overlapping
      ⟨250, 150, -20, 10⟩).toList = [⟨5⟩] := by
    decide +kernel
  have hvisits := (queries_visit_what_they_select ⟨1⟩ "plaza" hl hspawns).2.2.2.1 _ horders
  rw [hselected] at hvisits
  exact ⟨hl, hspawns, horders, hvisits⟩

/-- A rectangle two zones wide, the wrong way round, is walked as the whole map. -/
theorem within_reversed_visits_everything :
    let m := ((World.start ⟨1⟩ "plaza" World.plaza).run World.stroll).map
    let r : Rect := ⟨250, 150, -200, 10⟩
    m.grid.overlapping r = .empty ∧ (m.within r).Visits m.grid.numbers ∧
      ⟨0⟩ ∈ m.grid.numbers ∧
      ((m.within r).narrow .all).take 3 = .ok [some ⟨1, .first⟩, some ⟨0, .first⟩, none] := by
  intro m r
  have hr : ¬m.grid.Orders r.area := by decide +kernel
  have hnumbered : m.grid.Numbered := by
    unfold Grid.Numbered
    decide +kernel
  obtain ⟨hempty, hwhole⟩ := GameMap.within_of_not_orders hr
  refine ⟨hempty, ?_, by decide +kernel, by decide +kernel⟩
  rw [hwhole]
  exact Grid.visits_ofGrid hnumbered

end Whereabouts
