import Whereabouts.Proofs.Worlds

/-!
# Relocation at the end of a tick

Ending the tick moves things one after the other, and every move turns the zones over in which the
later ones still have to be found. The outcome is nevertheless that of a relocation of all entries
at once: each of them goes where it is due, which does not depend on the others. So the order in
which a map lists its things has no say in it.
-/

namespace Whereabouts

/-- The two grids are of one shape and hold the same, whatever the order within a segment: the same
things in each segment, and the same notes of where things went. -/
structure Grid.Alike (g g' : Grid) : Prop where
  shape : g.shape = g'.shape
  segments : ∀ z zone zone', g.zone? z = some zone → g'.zone? z = some zone' →
    ∀ s, (zone.segment s).toList.Perm (zone'.segment s).toList
  departures : ∀ z zone zone', g.zone? z = some zone → g'.zone? z = some zone' →
    zone.departures = zone'.departures

namespace Grid

lemma departed_iff {g : Grid} {z x : ZoneId} {zone : Zone} (hz : g.zone? z = some zone) :
    g.Departed z x ↔ x ∈ zone.departures := by
  unfold Departed
  simp [hz]

lemma alike_of_holds {g g' : Grid} (hshape : g.shape = g'.shape) {es : Multiset Entry}
    (hg : g.Holds es) (hg' : g'.Holds es) (hleft : ∀ z x, g.Departed z x ↔ g'.Departed z x) :
    g.Alike g' where
  shape := hshape
  segments z zone zone' hz hz' s := by
    apply Multiset.coe_eq_coe.mp
    rw [hg.segment hz, hg'.segment hz']
  departures z zone zone' hz hz' := by
    apply Region.ext
    intro x
    rw [← departed_iff hz, ← departed_iff hz', hleft]

end Grid

namespace Occupancy

lemma Settled.segment {people : Population} {o o' : Occupancy} {n : Nat}
    (h : Settled people o n o') {z : ZoneId} {zone : Zone} (hz : o'.grid.zone? z = some zone)
    (s : Segment) : ((zone.segment s).toList : Multiset Handle) =
      (o.roster.listed.filter fun e =>
        e.due o.grid people = some z ∧ s.admits e.kind).map Entry.thing := by
  rw [h.holds.segment hz, h.listed, Multiset.filter_map, Multiset.map_map]
  rfl

/-- Two maps that list the same in another order end the tick alike. -/
theorem Settled.alike {people : Population} {o₁ o₂ o₁' o₂' : Occupancy} {n₁ n₂ : Nat}
    (h₁ : Settled people o₁ n₁ o₁') (h₂ : Settled people o₂ n₂ o₂')
    (hshape : o₁.grid.shape = o₂.grid.shape)
    (hperm : o₁.roster.entries.toList.Perm o₂.roster.entries.toList) :
    n₁ = n₂ ∧ o₁'.roster.entries.toList.Perm o₂'.roster.entries.toList ∧
      o₁'.grid.Alike o₂'.grid := by
  have hdue : ∀ e : Entry, e.due o₁.grid people = e.due o₂.grid people :=
    Entry.due_congr hshape people
  have hlisted : o₁.roster.listed = o₂.roster.listed := Multiset.coe_eq_coe.mpr hperm
  have hperm' : o₁'.roster.entries.toList.Perm o₂'.roster.entries.toList := by
    rw [h₁.entries, h₂.entries]
    have hsettled : Entry.settled o₁.grid people = Entry.settled o₂.grid people := by
      funext e
      rw [Entry.settled, Entry.settled, hdue]
    rw [hsettled]
    exact hperm.map _
  refine ⟨?_, hperm', ?_⟩
  · rw [h₁.crossings_eq, h₂.crossings_eq]
    simp only [hdue]
    exact hperm.countP_eq _
  · have hlisted' : o₁'.roster.listed = o₂'.roster.listed := Multiset.coe_eq_coe.mpr hperm'
    have hholds : o₁'.grid.Holds o₂'.roster.listed := hlisted' ▸ h₁.holds
    refine Grid.alike_of_holds ?_ hholds h₂.holds ?_
    · rw [h₁.shape, h₂.shape, hshape]
    · intro z x
      rw [h₁.departed, h₂.departed, hlisted]
      simp only [hdue]

end Occupancy

/-- The character and the tree of the stroll enter in the other order. -/
def World.swapped : List Call :=
  [.spawn .character true ⟨10, 20⟩, .spawn .fixed true ⟨30, 40⟩, .insert ⟨1, .first⟩,
    .insert ⟨0, .first⟩]

/-- After every run of calls the end of the tick goes through, and it is a relocation of all entries
at once: each goes where it is due and stays what it is otherwise, every segment of every zone has
the things of its kinds that are due there, each zone notes the zones that something left it for in
this tick, and the value counts who went elsewhere. Ids and things stay as they are. A map that lists
the same in another order ends up with the same. -/
theorem settle_relocates_all (id : MapId) (name : String) {l : Layout} (hl : l.check = .ok ())
    {calls : List Call} (hspawns : calls.countP Call.isSpawn < 2 ^ 32) :
    let w := (World.start id name l).run calls
    let before := w.map.occupancy
    ∃ count m', Delivers (w.map.settle w.people) (count, m') ∧
      let after := m'.occupancy
      after.roster.entries.toList = before.roster.entries.toList.map
        (fun e => { e with zone := e.due before.grid w.people }) ∧
      after.grid.shape = before.grid.shape ∧
      (∀ z zone, after.grid.zone? z = some zone →
        (∀ s, (zone.segment s).toList.Perm
          ((before.roster.entries.toList.filter fun e =>
            e.due before.grid w.people = some z ∧ s.admits e.kind).map Entry.thing)) ∧
        ∀ x, x ∈ zone.departures ↔ ∃ e ∈ before.roster.entries,
          e.zone = some z ∧ e.due before.grid w.people = some x ∧ x ≠ z) ∧
      count = before.roster.entries.countP (fun e => e.due before.grid w.people ≠ e.zone) ∧
      after.ids = before.ids ∧
      w.step .settle = { w with map := m' } ∧
      ∀ (id' : MapId) (name' : String) (calls' : List Call),
        calls'.countP Call.isSpawn < 2 ^ 32 →
        let w' := (World.start id' name' l).run calls'
        w'.map.occupancy.roster.entries.toList.Perm before.roster.entries.toList →
        ∃ m'', Delivers (w'.map.settle w.people) (count, m'') ∧
          m''.occupancy.roster.entries.toList.Perm after.roster.entries.toList ∧
          m''.occupancy.grid.Alike after.grid := by
  intro w before
  have hw : w.map.Sound w.people := (World.sound_run id name hl hspawns).map
  obtain ⟨count, m', hgoes, hticked⟩ := GameMap.settle_ticks hw.occupancy w.people
  have hsettled := hticked.settled
  refine ⟨count, m', hgoes, hsettled.entries, hsettled.shape, ?_, ?_, hsettled.ids, ?_, ?_⟩
  · intro z zone hz
    constructor
    · intro s
      apply Multiset.coe_eq_coe.mp
      rw [hsettled.segment hz, Roster.listed, Multiset.filter_coe, Multiset.map_coe]
    · intro x
      rw [← Grid.departed_iff hz, hsettled.departed]
      simp only [Roster.mem_entries]
      rfl
  · rw [hsettled.crossings_eq, Array.countP_toList]
  · exact World.step_eq (World.attempt_settle hgoes)
  · intro id' name' calls' hspawns' w' hperm
    have hw' : w'.map.Sound w'.people := (World.sound_run id' name' hl hspawns').map
    obtain ⟨count', m'', hgoes', hticked'⟩ := GameMap.settle_ticks hw'.occupancy w.people
    have hshape : w'.map.grid.shape = w.map.grid.shape := by
      rw [World.shape_run id' name' hl hspawns', World.shape_run id name hl hspawns]
    obtain ⟨rfl, hsame⟩ := hticked'.settled.alike hsettled hshape hperm
    exact ⟨m'', hgoes', hsame⟩

theorem settle_relocates_all_stroll :
    World.plaza.check = .ok () ∧ (World.stroll.take 6).countP Call.isSpawn < 2 ^ 32 ∧
      World.swapped.countP Call.isSpawn < 2 ^ 32 ∧
      ((World.start ⟨2⟩ "square" World.plaza).run
          World.swapped).map.occupancy.roster.entries.toList.Perm
        ((World.start ⟨1⟩ "plaza" World.plaza).run
          (World.stroll.take 6)).map.occupancy.roster.entries.toList ∧
      ∃ m', Delivers (((World.start ⟨2⟩ "square" World.plaza).run World.swapped).map.settle
        ((World.start ⟨1⟩ "plaza" World.plaza).run (World.stroll.take 6)).people) (1, m') := by
  have hl : World.plaza.check = .ok () := by decide
  have hspawns : (World.stroll.take 6).countP Call.isSpawn < 2 ^ 32 := by decide
  have hspawns' : World.swapped.countP Call.isSpawn < 2 ^ 32 := by decide
  have hperm : ((World.start ⟨2⟩ "square" World.plaza).run
        World.swapped).map.occupancy.roster.entries.toList.Perm
      ((World.start ⟨1⟩ "plaza" World.plaza).run
        (World.stroll.take 6)).map.occupancy.roster.entries.toList := by
    decide +kernel
  obtain ⟨count, m', -, -, -, -, hcount, -, -, hother⟩ :=
    settle_relocates_all ⟨1⟩ "plaza" hl hspawns
  obtain ⟨m'', hgoes, -⟩ := hother ⟨2⟩ "square" World.swapped hspawns' hperm
  have hone : count = 1 := by
    rw [hcount]
    decide +kernel
  rw [hone] at hgoes
  exact ⟨hl, hspawns, hspawns', hperm, m'', hgoes⟩

end Whereabouts
