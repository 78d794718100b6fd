import Whereabouts.Proofs.Agreement
import Whereabouts.Proofs.Identity
import Whereabouts.Proofs.Residence

/-!
# What a thing leaves behind

A thing that ends while it is on a map leaves its entry there, its place in a zone and its public
id. Its slot is used again under another handle, and the map tells the two handles apart everywhere:
nothing that is done to the new thing reaches what the old one left, until the map is asked to take
the old one off or is cleared.
-/

namespace Whereabouts

namespace Population

variable {p p' : Population} {k : Handle}

/-- Without any map nothing comes to life under a handle that was given out. -/
lemma Aside.dead (h : p.Aside p') (hk : p.Issued k) (hdead : p.get? k = none) :
    p'.get? k = none := by
  rw [Option.eq_none_iff_forall_ne_some]
  intro t ht
  rcases h.live k t ht with ⟨t', ht', -⟩ | ⟨hnew, -, -⟩
  · rw [hdead] at ht'
    cases ht'
  · exact hnew hk

lemma Traffic.dead {id : MapId} (h : p.Traffic p' id) (hdead : p.get? k = none) :
    p'.get? k = none := by
  rw [Option.eq_none_iff_forall_ne_some]
  intro t ht
  obtain ⟨t', ht', -⟩ := h.live k t ht
  rw [hdead] at ht'
  cases ht'

end Population

/-- The thing of an entry has ended, so the entry stays where it is when the tick ends. -/
lemma Entry.settled_of_dead {people : Population} {e : Entry} (h : people.get? e.thing = none)
    (g : Grid) : e.settled g people = e := by
  have hdue : e.due g people = e.zone := by
    unfold due
    split
    · next ht => simp [h] at ht
    · rfl
  rw [settled, hdue]

namespace World

variable {w : World} {n : Nat}

/-- The map lists the entry, and the thing of the entry has ended. -/
structure Stale (w : World) (e : Entry) : Prop where
  listed : e ∈ w.map.listed
  dead : w.people.get? e.thing = none

lemma Sound.dead_step (h : w.Sound n) (hn : n < 2 ^ 32) {k : Handle} (hk : w.people.Issued k)
    (hdead : w.people.get? k = none) (c : Call) : (w.step c).people.get? k = none := by
  cases c with
  | spawn kind visible position => exact (h.people.aside_spawn hn rfl rfl).dead hk hdead
  | despawn t => exact (h.people.aside_despawn hn t).dead hk hdead
  | moveTo t position =>
    exact (w.people.aside_modify t (f := (·.moveTo position)) fun _ => rfl).dead hk hdead
  | beginTick t =>
    exact (w.people.aside_modify t (f := Thing.beginTick) fun _ => rfl).dead hk hdead
  | insert t => exact (h.traffic_step (c := .insert t) rfl).dead hdead
  | erase t => exact (h.traffic_step (c := .erase t) rfl).dead hdead
  | settle => exact (h.traffic_step (c := .settle) rfl).dead hdead
  | clear => exact (h.traffic_step (c := .clear) rfl).dead hdead

lemma stale_despawn {e : Entry} (he : e ∈ w.map.listed) :
    (w.step (.despawn e.thing)).Stale e where
  listed := he
  dead := (Population.get?_despawn w.people e.thing e.thing).trans (if_pos rfl)

lemma Sound.stale_step (h : w.Sound n) (hn : n < 2 ^ 32) {e : Entry} (hstale : w.Stale e) {c : Call}
    (hclear : c ≠ .clear) (herase : c ≠ .erase e.thing) : (w.step c).Stale e where
  listed := by
    by_cases hsettle : c = .settle
    · subst hsettle
      rw [h.listed_settle, Multiset.mem_map]
      exact ⟨e, hstale.listed, Entry.settled_of_dead hstale.dead w.map.grid⟩
    · exact h.mem_listed_step hstale.listed hsettle hclear herase
  dead := h.dead_step hn (h.map.tied.issued e hstale.listed) hstale.dead c

/-- What a thing left behind stays as it is. -/
theorem Sound.stale_run (h : w.Sound n) {calls : List Call}
    (hn : n + calls.countP Call.isSpawn < 2 ^ 32) {e : Entry} (hstale : w.Stale e)
    (hclear : .clear ∉ calls) (herase : .erase e.thing ∉ calls) : (w.run calls).Stale e := by
  refine (h.run_keeps hn (P := fun v => v.Stale e) hstale ?_).2
  intro v k c hc hv hk hstale
  have hclear' : c ≠ .clear := fun h => hclear (h ▸ hc)
  have herase' : c ≠ .erase e.thing := fun h => herase (h ▸ hc)
  exact hv.stale_step hk hstale hclear' herase'

end World

/-! Taking off what a thing left -/

namespace Grid

variable {g : Grid} {e : Entry} {es : Multiset Entry} {z : ZoneId}

lemma zone?_displace_of_ne (g : Grid) (h : e.zone ≠ some z) :
    (g.displace e).zone? z = g.zone? z := by
  unfold displace
  split
  · rfl
  · next y hy =>
    have hne : z ≠ y := fun hz => h (hz ▸ hy)
    exact (zone?_edit g y _ z).trans (if_neg hne)

lemma Holds.zone?_displace (hg : g.Holds (e ::ₘ es)) (hz : e.zone = some z) {zone : Zone}
    (hzone : g.zone? z = some zone) :
    ∃ zone', (g.displace e).zone? z = some zone' ∧ zone'.departures = zone.departures ∧
      ∀ p, (zone.part p : Multiset Handle) =
        (if p = e.kind.part then {e.thing} else 0) + (zone'.part p : Multiset Handle) := by
  obtain ⟨-, i, hdisplace, hholds⟩ := hg.erase_eq_displace hz
  have hafter : (g.displace e).zone? z = some (zone.eraseAt i) := by
    rw [hdisplace, zone?_edit, if_pos rfl, hzone, Option.map_some]
  refine ⟨_, hafter, zone.departures_eraseAt i, ?_⟩
  intro p
  rw [hg.parts z zone hzone, residents_cons, hholds.parts z _ hafter]
  simp only [hz, true_and, eq_comm (a := p)]

end Grid

namespace Named

variable {ids : IdPool} {e : Entry} {es : Multiset Entry}

lemma holder_recover (h : Named ids (e ::ₘ es)) (id : PublicId) :
    (ids.recover e).value.holder id = if e.publicId = some id then none else ids.holder id := by
  unfold IdPool.recover
  split
  · next given hid =>
    have hheld := h.holder_of_mem (Multiset.mem_cons_self e es) hid
    rw [(IdPool.release_spec h.sound hheld).2.2.1, hid]
    simp only [Option.some.injEq, eq_comm (a := id)]
  · next hid => rw [hid, if_neg nofun]

lemma isTaken_recover (h : Named ids (e ::ₘ es)) (hother : ∀ e' ∈ es, e'.thing ≠ e.thing)
    (id : PublicId) :
    (ids.recover e).value.isTaken id ↔ ids.isTaken id ∧ e.publicId ≠ some id := by
  rw [IdPool.isTaken_iff (h.recover hother).2.sound, IdPool.isTaken_iff h.sound, h.holder_recover]
  by_cases hid : e.publicId = some id
  · simp [hid]
  · simp [hid]

end Named

namespace GameMap

variable {m : GameMap} {people : Population} {e : Entry}

/-- The map has lost the entry with the place and the id that it stands for, and nothing else. -/
structure Frees (m : GameMap) (e : Entry) (m' : GameMap) : Prop where
  same : m' = { m with occupancy := m'.occupancy }
  listed : m.listed = e ::ₘ m'.listed
  here : ∀ z zone, e.zone = some z → m.grid.zone? z = some zone →
    ∃ zone', m'.grid.zone? z = some zone' ∧ zone'.departures = zone.departures ∧
      ∀ p, (zone.part p : Multiset Handle) =
        (if p = e.kind.part then {e.thing} else 0) + (zone'.part p : Multiset Handle)
  elsewhere : ∀ z, e.zone ≠ some z → m'.grid.zone? z = m.grid.zone? z
  holder : ∀ id, m'.holder id = if e.publicId = some id then none else m.holder id
  isTaken : ∀ id,
    m'.occupancy.ids.isTaken id ↔ m.occupancy.ids.isTaken id ∧ e.publicId ≠ some id

lemma Sound.frees_without (hm : m.Sound people) (he : e ∈ m.listed) :
    m.Frees e { m with occupancy := m.occupancy.without e } := by
  have ho := hm.occupancy
  have hlisted := (ho.indexed.listed_erase he rfl).2
  have hother := ho.indexed.ne_of_listed_eq hlisted
  have hholds := ho.holds
  have hnamed := ho.named
  rw [hlisted] at hholds hnamed
  constructor
  · rfl
  · exact hlisted
  · intro z zone hz hzone
    exact hholds.zone?_displace hz hzone
  · intro z hz
    exact m.occupancy.grid.zone?_displace_of_ne hz
  · exact hnamed.holder_recover
  · exact hnamed.isTaken_recover hother

/-- To take off what a thing left behind changes nothing in the population. -/
lemma Sound.erase_of_dead (hm : m.Sound people) (he : e ∈ m.listed)
    (hdead : people.get? e.thing = none) :
    Delivers (m.erase people e.thing)
      (.ok (), { m with occupancy := m.occupancy.without e }, people) := by
  have herase := (hm.erase_of_listed he).1
  rwa [Population.modify_of_dead hdead] at herase

lemma Sound.get?_clear (hm : m.Sound people) (h : Handle) :
    (m.clear people).2.2.get? h =
      if m.contains h then (people.get? h).map Thing.leave else people.get? h := by
  rw [clear_people, Population.get?_modifyAll people Thing.leave_leave]
  exact if_congr hm.contains_iff.symm rfl rfl

end GameMap

namespace World

/-- A character enters. -/
def arrival : List Call :=
  [.spawn .character true ⟨10, 20⟩, .insert ⟨0, .first⟩]

/-- A monster takes the slot over, enters the same zone and crosses into another one. -/
def takeover : List Call :=
  [.spawn .monster true ⟨30, 40⟩, .insert ⟨0, ⟨1⟩⟩, .moveTo ⟨0, ⟨1⟩⟩ ⟨250, 150⟩, .settle]

end World

/-- When a thing ends on a map, its entry, its place and its id stay as they are through all that is
done later, to the thing that uses its slot again or to any other, until its handle is taken off or
the map is cleared. To take it off frees exactly these and touches no thing, and to clear the map
lets go of those things that the map lists under their own handles. -/
theorem remnants_stay_apart (id : MapId) (name : String) {l : Layout} (hl : l.check = .ok ())
    {calls more : List Call} (hspawns : (calls ++ more).countP Call.isSpawn < 2 ^ 32)
    (hclear : .clear ∉ more) :
    let w := (World.start id name l).run calls
    ∀ e ∈ w.map.occupancy.roster.entries, .erase e.thing ∉ more →
      let w' := (w.step (.despawn e.thing)).run more
      w'.people.get? e.thing = none ∧
      w'.map.entry? e.thing = some e ∧
      (∀ z, e.zone = some z → w'.map.grid.things.count e.thing = 1 ∧
        ∃ zone, w'.map.grid.zone? z = some zone ∧ e.thing ∈ zone.part e.kind.part) ∧
      (∀ p, e.publicId = some p → w'.map.holder p = some e.thing) ∧
      (∃ m', Delivers (w'.map.erase w'.people e.thing) (.ok (), m', w'.people) ∧
        w'.map.Frees e m') ∧
      ∀ h, (w'.step .clear).people.get? h =
        if w'.map.contains h then (w'.people.get? h).map Thing.leave else w'.people.get? h := by
  intro w e he herase w'
  rw [List.countP_append] at hspawns
  have hw : w.Sound _ := World.sound_run id name hl (by omega)
  have hended := hw.step (by omega) (.despawn e.thing)
  have hstale : w'.Stale e :=
    hended.stale_run hspawns (World.stale_despawn (Roster.mem_entries.mp he)) hclear herase
  have hw' : w'.map.Sound w'.people := (hended.run hspawns).map
  have ho := hw'.occupancy
  refine ⟨hstale.dead, hw'.entry?_eq_some_iff.mpr ⟨hstale.listed, rfl⟩, ?_, ?_, ?_, ?_⟩
  · intro z hz
    refine ⟨ho.count_things_grid hstale.listed hz, ?_⟩
    obtain ⟨zone, hzone⟩ := Grid.contains_iff.mp (ho.holds.inside e hstale.listed z hz)
    refine ⟨zone, hzone, ?_⟩
    rw [← List.count_pos_iff, ho.count_part hstale.listed hzone, if_pos ⟨hz, rfl⟩]
    exact Nat.one_pos
  · intro p hp
    exact ho.named.holder_of_mem hstale.listed hp
  · exact ⟨_, hw'.erase_of_dead hstale.listed hstale.dead, hw'.frees_without hstale.listed⟩
  · exact hw'.get?_clear

theorem remnants_stay_apart_takeover :
    World.plaza.check = .ok () ∧
      (World.arrival ++ World.takeover).countP Call.isSpawn < 2 ^ 32 ∧
      .clear ∉ World.takeover ∧ .erase ⟨0, .first⟩ ∉ World.takeover ∧
      (⟨⟨0, .first⟩, .character, some ⟨0⟩, some ⟨0⟩⟩ : Entry) ∈
        ((World.start ⟨1⟩ "plaza" World.plaza).run World.arrival).map.occupancy.roster.entries ∧
      ((((World.start ⟨1⟩ "plaza" World.plaza).run World.arrival).step
        (.despawn ⟨0, .first⟩)).run World.takeover).people.get? ⟨0, ⟨1⟩⟩ =
          some ⟨.monster, true, ⟨250, 150⟩, ⟨30, 40⟩, some ⟨1⟩, some ⟨1⟩⟩ ∧
      ((((World.start ⟨1⟩ "plaza" World.plaza).run World.arrival).step
        (.despawn ⟨0, .first⟩)).run World.takeover).map.entry? ⟨0, .first⟩ =
          some ⟨⟨0, .first⟩, .character, some ⟨0⟩, some ⟨0⟩⟩ := by
  have hl : World.plaza.check = .ok () := by decide
  have hspawns : (World.arrival ++ World.takeover).countP Call.isSpawn < 2 ^ 32 := by decide
  have hclear : .clear ∉ World.takeover := by decide
  have herase : .erase ⟨0, .first⟩ ∉ World.takeover := by decide
  have hentry : (⟨⟨0, .first⟩, .character, some ⟨0⟩, some ⟨0⟩⟩ : Entry) ∈
      ((World.start ⟨1⟩ "plaza" World.plaza).run World.arrival).map.occupancy.roster.entries := by
    decide +kernel
  exact ⟨hl, hspawns, hclear, herase, hentry, by decide +kernel,
    (remnants_stay_apart ⟨1⟩ "plaza" hl hspawns hclear _ hentry herase).2.1⟩

end Whereabouts
