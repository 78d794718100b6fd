import Whereabouts.Proofs.Globes

/-!
# Where things live

A living thing remembers its map, and each map lists its things. After every run of requests the two
agree on all loaded maps at once, so nothing is on two maps, and nothing is left behind by a map
that is unloaded.
-/

namespace Whereabouts

namespace GameMap

variable {m : GameMap} {people : Population}

lemma Sound.entry?_eq_some_iff (hm : m.Sound people) {h : Handle} {e : Entry} :
    m.entry? h = some e ↔ e ∈ m.listed ∧ e.thing = h :=
  hm.occupancy.indexed.get?_eq_some_iff

/-- On a map are the living things that refer to it. -/
lemma Sound.mem_things_iff (hm : m.Sound people) {h : Handle} {t : Thing}
    (ht : people.get? h = some t) : h ∈ m.things ↔ t.map = some m.id := by
  rw [mem_things]
  constructor
  · rintro ⟨e, he, rfl⟩
    exact (hm.tied.shows he ht).2.2.1
  · intro hmap
    exact hm.tied.listed h t ht hmap

lemma Sound.contains_iff (hm : m.Sound people) {h : Handle} : m.contains h ↔ h ∈ m.things := by
  rw [contains, Option.isSome_iff_exists, mem_things]
  simp only [hm.entry?_eq_some_iff]

end GameMap

namespace Globe

variable {g : Globe} {n : Nat}

/-- A living thing refers to a map exactly if the map is loaded and contains it. -/
lemma Sound.map_eq_iff (hg : g.Sound n) {h : Handle} {t : Thing} (ht : g.people.get? h = some t)
    (id : MapId) : t.map = some id ↔ ∃ m, g.atlas.find? id = some m ∧ m.contains h := by
  have hthere : ∀ m, g.atlas.find? id = some m → (m.contains h ↔ t.map = some id) := by
    intro m hm
    have hsound := hg.maps id m hm
    rw [hsound.contains_iff, hsound.mem_things_iff ht, hg.id_eq id m hm]
  constructor
  · intro hmap
    obtain ⟨m, hm⟩ := Option.isSome_iff_exists.mp (hg.loaded h t ht id hmap)
    exact ⟨m, hm, (hthere m hm).mpr hmap⟩
  · rintro ⟨m, hm, hcontains⟩
    exact (hthere m hm).mp hcontains

/-- Unloading lets go of exactly the things that referred to the map. -/
lemma Sound.get?_unload (hg : g.Sound n) (id : MapId) (h : Handle) :
    (g.step (.unload id)).people.get? h =
      (g.people.get? h).map fun t => if t.map = some id then t.leave else t := by
  cases hm : g.atlas.find? id with
  | none =>
    rw [unload_of_not_loaded hm]
    cases ht : g.people.get? h with
    | none => rfl
    | some t =>
      have hnot : t.map ≠ some id := by
        simpa [hm] using hg.map_eq_iff ht id
      rw [Option.map_some, if_neg hnot]
  | some m =>
    rw [unload_of_find? hm, Population.get?_modifyAll g.people Thing.leave_leave]
    cases ht : g.people.get? h with
    | none => exact ite_self none
    | some t =>
      have hresident := (hg.maps id m hm).mem_things_iff ht
      rw [hg.id_eq id m hm] at hresident
      rw [Option.map_some, Option.map_some, if_congr hresident rfl rfl]
      split
      · rfl
      · rfl

lemma find?_unload (g : Globe) (id id' : MapId) :
    (g.step (.unload id)).atlas.find? id' = if id' = id then none else g.atlas.find? id' := by
  cases hm : g.atlas.find? id with
  | none =>
    rw [unload_of_not_loaded hm]
    by_cases hid : id' = id
    · rw [if_pos hid, hid, hm]
    · rw [if_neg hid]
  | some m =>
    rw [unload_of_find? hm]
    exact g.atlas.find?_take? id id'

end Globe

/-- After every run of requests a living thing refers to the loaded map that contains it, which is
one at most, and has the public id that is recorded there; on no map it has none. Unloading a map
lets go of all that was on it and of nothing else. -/
theorem maps_and_things_agree {requests : List Request}
    (hspawns : requests.countP Request.isSpawn < 2 ^ 32) :
    let g := Globe.empty.run requests
    (∀ h t, g.people.get? h = some t →
      (∀ id, t.map = some id ↔ ∃ m, g.atlas.find? id = some m ∧ m.contains h) ∧
      (∀ id id' m m', g.atlas.find? id = some m → g.atlas.find? id' = some m' →
        m.contains h → m'.contains h → id = id') ∧
      (∀ id m e, g.atlas.find? id = some m → m.entry? h = some e → t.publicId = e.publicId) ∧
      (t.map = none → t.publicId = none)) ∧
    ∀ id,
      let g' := g.step (.unload id)
      (∀ h t, g'.people.get? h = some t → t.map ≠ some id) ∧
      (∀ h, g'.people.get? h =
        (g.people.get? h).map fun t => if t.map = some id then t.leave else t) ∧
      ∀ id', g'.atlas.find? id' = if id' = id then none else g.atlas.find? id' := by
  intro g
  have hg : g.Sound _ := Globe.sound_run hspawns
  constructor
  · intro h t ht
    have hiff := hg.map_eq_iff ht
    refine ⟨hiff, ?_, ?_, hg.nameless h t ht⟩
    · intro id id' m m' hm hm' hcontains hcontains'
      have hmap := (hiff id).mpr ⟨m, hm, hcontains⟩
      rw [(hiff id').mpr ⟨m', hm', hcontains'⟩] at hmap
      exact (Option.some.inj hmap).symm
    · intro id m e hm he
      have hsound := hg.maps id m hm
      obtain ⟨hlisted, rfl⟩ := hsound.entry?_eq_some_iff.mp he
      exact (hsound.tied.shows hlisted ht).2.2.2
  · intro id g'
    have hunload : ∀ h, g'.people.get? h = _ := hg.get?_unload id
    refine ⟨?_, hunload, g.find?_unload id⟩
    intro h t ht hmap
    rw [hunload, Option.map_eq_some_iff] at ht
    obtain ⟨x, hx, rfl⟩ := ht
    split at hmap
    · cases hmap
    · next hnot => exact hnot hmap

/-- A character enters one map and a tree another one. The second map is unloaded, and the tree
enters the first one. -/
def Globe.moving : List Request :=
  [.load ⟨1⟩ "plaza" World.plaza, .load ⟨2⟩ "square" World.plaza,
    .spawn .character true ⟨10, 20⟩, .spawn .fixed true ⟨30, 40⟩, .insert ⟨1⟩ ⟨0, .first⟩,
    .insert ⟨2⟩ ⟨1, .first⟩, .unload ⟨2⟩, .insert ⟨1⟩ ⟨1, .first⟩]

theorem maps_and_things_agree_moving :
    Globe.moving.countP Request.isSpawn < 2 ^ 32 ∧
      ∃ m, (Globe.empty.run Globe.moving).atlas.find? ⟨1⟩ = some m ∧ m.contains ⟨1, .first⟩ := by
  have hspawns : Globe.moving.countP Request.isSpawn < 2 ^ 32 := by decide
  have hagree := maps_and_things_agree hspawns
  have ht : (Globe.empty.run Globe.moving).people.get? ⟨1, .first⟩ =
      some ⟨.fixed, true, ⟨30, 40⟩, ⟨30, 40⟩, some ⟨1⟩, none⟩ := by
    decide +kernel
  exact ⟨hspawns, ((hagree.1 _ _ ht).1 ⟨1⟩).mp rfl⟩

end Whereabouts
