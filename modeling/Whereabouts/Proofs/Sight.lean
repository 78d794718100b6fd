import Whereabouts.Proofs.Queries

/-!
# Who is in sight

A watcher is told of everything that can move around where it was when the tick began and around
where it is now, and of what left the first area in this tick, however far it went: the zones
that things left note where to, and the query follows these notes.
-/

namespace Whereabouts

/-- Zones that are all there can be looked up one after the other, and what comes out is the region
together with the zones that things left them for. -/
lemma foldlM_leftFor {g : Grid} (zs : List ZoneId) (hzs : ∀ z ∈ zs, g.contains z)
    (region : Region) :
    ∃ region', (zs.foldlM (fun region z => do
        let zone ← g.zone z
        return region.union zone.departures) region : Except OutsideGrid Region) = .ok region' ∧
      ∀ x, x ∈ region' ↔ x ∈ region ∨ ∃ z ∈ zs, g.Departed z x := by
  induction zs generalizing region with
  | nil => exact ⟨region, rfl, by simp⟩
  | cons z zs ih =>
    obtain ⟨zone, hzone⟩ := Grid.contains_iff.mp (hzs z List.mem_cons_self)
    obtain ⟨region', hrest, hmem⟩ :=
      ih (fun y hy => hzs y (List.mem_cons_of_mem z hy)) (region.union zone.departures)
    refine ⟨region', ?_, ?_⟩
    · rw [List.foldlM_cons, Grid.zone_eq hzone]
      exact hrest
    · intro x
      have hhead : x ∈ zone.departures ↔ g.Departed z x := by
        simp [Grid.Departed, hzone]
      rw [hmem, Region.mem_union, hhead, or_assoc]
      simp only [List.mem_cons, or_and_right, exists_or, exists_eq_left]

namespace GameMap

/-- A watcher is told about these zones. All of them are on the map, and the one of the watcher is
among them. -/
lemma Sound.inSight_eq {m : GameMap} {people : Population} (hm : m.Sound people) (watcher : Thing)
    (radius : UInt32) :
    ∃ region, m.inSight watcher radius = .ok (.ofRegion m.grid region) ∧ (∃ z, z ∈ region) ∧
      (∀ z ∈ region, m.grid.contains z) ∧ ∀ z, z ∈ region ↔
        (z ∈ m.grid.around watcher.tickStart radius ∨
          ∃ y ∈ m.grid.around watcher.tickStart radius, m.grid.Departed y z) ∨
        z ∈ m.grid.around watcher.position radius := by
  have hnumbered := hm.occupancy.numbered
  obtain ⟨leftFor, hfold, hleft⟩ := foldlM_leftFor (g := m.grid)
    (m.grid.around watcher.tickStart radius).toList
    (fun z hz => Grid.contains_of_mem_around hnumbered (Region.mem_toList.mp hz))
    (m.grid.around watcher.tickStart radius)
  simp only [Region.mem_toList] at hleft
  have hmem : ∀ z, z ∈ m.grid.fillAround leftFor watcher.position radius ↔
      (z ∈ m.grid.around watcher.tickStart radius ∨
        ∃ y ∈ m.grid.around watcher.tickStart radius, m.grid.Departed y z) ∨
      z ∈ m.grid.around watcher.position radius := by
    intro z
    rw [Grid.fillAround, Grid.fillBox_eq_union, Region.mem_union, hleft]
    rfl
  refine ⟨m.grid.fillAround leftFor watcher.position radius, ?_, ?_, ?_, hmem⟩
  · unfold inSight
    dsimp only
    rw [hfold]
    rfl
  · have hhere := m.grid.zoneAt_mem_around (watcher.position.near_self radius)
    exact ⟨_, (hmem _).mpr (.inr hhere)⟩
  · intro z hz
    rcases (hmem z).mp hz with (hbefore | ⟨y, -, hleft⟩) | hnow
    · exact Grid.contains_of_mem_around hnumbered hbefore
    · exact hm.occupancy.departed_inside y z hleft
    · exact Grid.contains_of_mem_around hnumbered hnow

/-- A watcher is told of nothing twice, and of everything in the zones above. -/
lemma Sound.inSight_yields {m : GameMap} {people : Population} (hm : m.Sound people)
    (watcher : Thing) (radius : UInt32) (s : Segment) :
    ∃ walk seen, m.inSight watcher radius = .ok walk ∧ (walk.narrow s).Yields seen ∧ seen.Nodup ∧
      ∀ z, (z ∈ m.grid.around watcher.tickStart radius ∨
        (∃ y ∈ m.grid.around watcher.tickStart radius, m.grid.Departed y z) ∨
        z ∈ m.grid.around watcher.position radius) →
        ∀ t ∈ m.grid.segmentAt s z, t ∈ seen := by
  obtain ⟨region, hregion, hsome, hinside, hmem⟩ := hm.inSight_eq watcher radius
  obtain ⟨seen, hyields, hnodup, hseen⟩ := hm.occupancy.exists_yields hsome hinside s
  refine ⟨_, seen, hregion, hyields, hnodup, ?_⟩
  intro z hz t ht
  rw [← or_assoc, ← hmem] at hz
  exact (hseen t).mpr ⟨z, hz, ht⟩

/-- What the end of the tick takes out of a zone is noted there. -/
lemma Ticked.departed_or_stays {m m' : GameMap} {people : Population} {n : Nat}
    (h : m.Ticked people n m') {e : Entry} (he : e ∈ m.listed) {y z : ZoneId}
    (hy : e.zone = some y) (hz : e.due m.grid people = some z) : z = y ∨ m'.grid.Departed y z := by
  by_cases hne : z = y
  · exact .inl hne
  · exact .inr ((h.settled.departed y z).mpr ⟨e, he, hy, hz, hne⟩)

end GameMap

/-- Once the tick is over, and until the next one is, a watcher is told of each thing once at most,
of everything that could move and was in a zone around where the watcher was when the tick began,
wherever it went, and of everything that can move, is near the watcher and in the zone of its
position. What was there when the tick was over is reported until it is taken off the map. -/
theorem inSight_misses_nobody (id : MapId) (name : String) {l : Layout} (hl : l.check = .ok ())
    {calls more : List Call} (hspawns : (calls ++ more).countP Call.isSpawn < 2 ^ 32)
    (hsettle : .settle ∉ more) (hclear : .clear ∉ more) (watcher : Thing) (radius : UInt32) :
    let w := (World.start id name l).run calls
    let w' := w.step .settle
    let w'' := w'.run more
    ∃ walk seen, w''.map.inSight watcher radius = .ok walk ∧
      (walk.narrow .moving).Yields seen ∧
      seen.Nodup ∧
      (∀ e ∈ w.map.occupancy.roster.entries, e.kind.movable → .erase e.thing ∉ more →
        ∀ z ∈ w.map.grid.around watcher.tickStart radius, e.zone = some z → e.thing ∈ seen) ∧
      (∀ e ∈ w'.map.occupancy.roster.entries, e.kind.movable → .erase e.thing ∉ more →
        ∀ t, w'.people.get? e.thing = some t → e.zone = some (w'.map.grid.zoneAt t.position) →
          t.position.Near watcher.position radius → e.thing ∈ seen) ∧
      (∀ e ∈ w''.map.occupancy.roster.entries, e.kind.movable →
        ∀ t, w''.people.get? e.thing = some t → e.zone = some (w''.map.grid.zoneAt t.position) →
          t.position.Near watcher.position radius → e.thing ∈ seen) := by
  intro w w' w''
  rw [List.countP_append] at hspawns
  have hw : w.Sound _ := World.sound_run id name hl (by omega)
  have hw' : w'.Sound _ := hw.step (by omega) .settle
  have hlater : w''.map.Sound w''.people := (hw'.run hspawns).map
  have hground : w'.map.SameGround w''.map := hw'.sameGround_run hspawns hsettle hclear
  have hstays : ∀ e ∈ w'.map.listed, .erase e.thing ∉ more → e ∈ w''.map.listed := by
    intro e he herase
    exact hw'.mem_listed_run hspawns hsettle hclear he herase
  obtain ⟨k, -, hticked, -⟩ := hw.step_settle
  obtain ⟨walk, seen, hwalk, hyields, hnodup, hseen⟩ :=
    hlater.inSight_yields watcher radius .moving
  refine ⟨walk, seen, hwalk, hyields, hnodup, ?_, ?_, ?_⟩
  · intro e he hk herase y hy hzone
    have he' : e ∈ w.map.listed := Roster.mem_entries.mp he
    have hlisted : e.settled w.map.grid w.people ∈ (w.step .settle).map.listed := by
      rw [hw.listed_settle]
      exact Multiset.mem_map_of_mem _ he'
    obtain ⟨z, hz⟩ : ∃ z, e.due w.map.grid w.people = some z := by
      rw [← Option.ne_none_iff_exists']
      intro hnone
      rw [Entry.due_eq_none_iff.mp hnone] at hzone
      cases hzone
    rw [← Grid.around_congr (hground.shape.trans hw.shape_settle)] at hy
    have hmoving := hlater.occupancy.mem_moving (e := e.settled w.map.grid w.people)
      (hstays _ hlisted herase) hk hz
    refine hseen z ?_ _ hmoving
    -- Either the thing is still in the area, or its old zone notes where it went.
    rcases hticked.departed_or_stays he' hzone hz with rfl | hleft
    · exact .inl hy
    · exact .inr (.inl ⟨y, hy, (hground.departed y z).mpr hleft⟩)
  · intro e he hk herase t ht hzone hnear
    have he' : e ∈ w'.map.listed := Roster.mem_entries.mp he
    rw [← Grid.zoneAt_congr hground.shape] at hzone
    refine hseen _ (.inr (.inr (w''.map.grid.zoneAt_mem_around hnear))) _ ?_
    exact hlater.occupancy.mem_moving (hstays e he' herase) hk hzone
  · intro e he hk t ht hzone hnear
    have he' : e ∈ w''.map.listed := Roster.mem_entries.mp he
    refine hseen _ (.inr (.inr (w''.map.grid.zoneAt_mem_around hnear))) _ ?_
    exact hlater.occupancy.mem_moving he' hk hzone

theorem inSight_misses_nobody_stroll :
    World.plaza.check = .ok () ∧
      (World.stroll.take 6 ++ [Call.erase ⟨1, .first⟩]).countP Call.isSpawn < 2 ^ 32 ∧
      .settle ∉ [Call.erase ⟨1, .first⟩] ∧ .clear ∉ [Call.erase ⟨1, .first⟩] ∧
      ∃ walk seen,
        ((((World.start ⟨1⟩ "plaza" World.plaza).run (World.stroll.take 6)).step .settle).run
          [Call.erase ⟨1, .first⟩]).map.inSight (.fresh .monster true ⟨5, 5⟩) 20 = .ok walk ∧
        (walk.narrow .moving).Yields seen ∧ ⟨0, .first⟩ ∈ seen := by
  have hl : World.plaza.check = .ok () := by decide
  have hspawns :
      (World.stroll.take 6 ++ [Call.erase ⟨1, .first⟩]).countP Call.isSpawn < 2 ^ 32 := by decide
  have hsettle : .settle ∉ [Call.erase ⟨1, .first⟩] := by decide
  have hclear : .clear ∉ [Call.erase ⟨1, .first⟩] := by decide
  obtain ⟨walk, seen, hwalk, hyields, -, hbefore, -⟩ :=
    inSight_misses_nobody ⟨1⟩ "plaza" hl hspawns hsettle hclear (.fresh .monster true ⟨5, 5⟩) 20
  have hentry : (⟨⟨0, .first⟩, .character, some ⟨0⟩, some ⟨0⟩⟩ : Entry) ∈
      ((World.start ⟨1⟩ "plaza" World.plaza).run
        (World.stroll.take 6)).map.occupancy.roster.entries := by
    decide +kernel
  have haround : (⟨0⟩ : ZoneId) ∈ ((World.start ⟨1⟩ "plaza" World.plaza).run
      (World.stroll.take 6)).map.grid.around ⟨5, 5⟩ 20 := by
    rw [← Region.contains_iff]
    decide +kernel
  exact ⟨hl, hspawns, hsettle, hclear, walk, seen, hwalk, hyields,
    hbefore _ hentry rfl (by decide) ⟨0⟩ haround rfl⟩

end Whereabouts
