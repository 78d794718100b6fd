import Whereabouts.Proofs.Worlds

/-!
# The books of a map agree

The roster, its index and the zones of a map are edited by four calls, in between of which things
move and end. After every run they agree: the index is exact, and every thing that is listed with a
zone is in this zone once, in the part of its kind, and nowhere else.
-/

namespace Whereabouts

lemma sum_map_eq_one {α : Type} {f : α → Nat} {l : List α} {k : Nat} (hk : k < l.length)
    (h : ∀ (i : Nat) (a : α), l[i]? = some a → f a = if i = k then 1 else 0) :
    (l.map f).sum = 1 := by
  induction l generalizing k with
  | nil => simp at hk
  | cons a l ih =>
    have hhead := h 0 a rfl
    rw [List.map_cons, List.sum_cons, hhead]
    cases k with
    | zero =>
      have hrest : (l.map f).sum = 0 := by
        rw [List.sum_eq_zero_iff_forall_eq_nat]
        intro x hx
        obtain ⟨b, hb, rfl⟩ := List.mem_map.mp hx
        obtain ⟨i, hi⟩ := List.mem_iff_getElem?.mp hb
        exact h (i + 1) b hi
      rw [hrest]
      rfl
    | succ k =>
      rw [ih (k := k) (by simpa using hk) (fun i b hb => by simpa using h (i + 1) b hb)]
      rfl

namespace Grid

/-- All that stands in the zones of a grid, zone by zone. -/
def things (g : Grid) : List Handle :=
  g.zones.toList.flatMap fun zone => zone.things.toList

end Grid

namespace Occupancy

variable {o : Occupancy} {e : Entry} {z : ZoneId} {zone : Zone}

lemma Sound.count_part (ho : o.Sound) (he : e ∈ o.roster.listed) (hz : o.grid.zone? z = some zone)
    (p : Part) :
    (zone.part p).count e.thing = if e.zone = some z ∧ e.kind.part = p then 1 else 0 := by
  obtain ⟨es, hlisted⟩ := Multiset.exists_cons_of_mem he
  have hother : e.thing ∉ residents es z p := by
    intro hmem
    obtain ⟨e', he', -, -, heq⟩ := mem_residents.mp hmem
    exact ho.indexed.ne_of_listed_eq hlisted e' he' heq
  rw [← Multiset.coe_count, ho.holds.parts z zone hz, hlisted, residents_cons, Multiset.count_add,
    Multiset.count_eq_zero_of_notMem hother, Nat.add_zero]
  split
  · exact Multiset.count_singleton_self _
  · exact Multiset.count_zero _

lemma Sound.count_things (ho : o.Sound) (he : e ∈ o.roster.listed)
    (hz : o.grid.zone? z = some zone) :
    zone.things.toList.count e.thing = if e.zone = some z then 1 else 0 := by
  rw [zone.toList_things, List.count_append, List.count_append, ho.count_part he hz,
    ho.count_part he hz, ho.count_part he hz]
  cases e.kind.part <;> simp

lemma Sound.count_things_grid (ho : o.Sound) (he : e ∈ o.roster.listed) (hz : e.zone = some z) :
    o.grid.things.count e.thing = 1 := by
  have hinside := ho.holds.inside e he z hz
  rw [Grid.things, List.count_flatMap]
  refine sum_map_eq_one (k := z.index.toNat) (by simpa [Grid.contains] using hinside) ?_
  intro i zone hzone
  rw [Array.getElem?_toList] at hzone
  obtain ⟨z', hi, hz'⟩ := Grid.exists_zone?_eq ho.numbered hzone
  have hsame : e.zone = some z' ↔ i = z.index.toNat := by
    rw [hz, Option.some.injEq, ← hi, ZoneId.toNat_inj, eq_comm]
  rw [Function.comp_apply, ho.count_things he hz']
  simp only [hsame]

/-- Whatever stands in a zone is listed there. -/
lemma Sound.listed_of_mem_things (ho : o.Sound) {t : Handle} (hz : o.grid.zone? z = some zone)
    (ht : t ∈ zone.things) : ∃ e ∈ o.roster.listed, e.zone = some z ∧ e.thing = t := by
  have hpart : ∃ p, t ∈ zone.part p := by
    rw [← Array.mem_toList_iff, zone.toList_things, List.mem_append, List.mem_append] at ht
    rcases ht with ht | ht | ht
    · exact ⟨_, ht⟩
    · exact ⟨_, ht⟩
    · exact ⟨_, ht⟩
  obtain ⟨p, hp⟩ := hpart
  rw [← Multiset.mem_coe, ho.holds.parts z zone hz] at hp
  obtain ⟨e, he, hez, -, het⟩ := mem_residents.mp hp
  exact ⟨e, he, hez, het⟩

end Occupancy

/-- After every run of calls the index leads to exactly what is listed, each thing is where its
entry says and nowhere else, each thing in a zone is listed, and the segments are in order. -/
theorem index_and_zones_agree (id : MapId) (name : String) {l : Layout} (hl : l.check = .ok ())
    {calls : List Call} (hspawns : calls.countP Call.isSpawn < 2 ^ 32) :
    let m := ((World.start id name l).run calls).map
    let roster := m.occupancy.roster
    ((∀ (t : Handle) (i : Nat),
        roster.index[t]? = some i ↔ roster.entries[i]?.map Entry.thing = some t) ∧
      roster.things.Nodup) ∧
    (∀ e ∈ roster.entries,
      (∀ z, e.zone = some z →
        m.grid.things.count e.thing = 1 ∧
          ∃ zone, m.grid.zone? z = some zone ∧ e.thing ∈ zone.part e.kind.part) ∧
      (e.zone = none → e.thing ∉ m.grid.things)) ∧
    (∀ t ∈ m.grid.things, ∃ e ∈ roster.entries, e.thing = t) ∧
    (∀ zone ∈ m.grid.zones, zone.characters ≤ zone.moving ∧ zone.moving ≤ zone.size) := by
  intro m roster
  have ho : m.occupancy.Sound := (World.sound_run id name hl hspawns).map.occupancy
  have hlisted : ∀ t ∈ m.grid.things,
      ∃ e ∈ roster.listed, (∃ z, e.zone = some z) ∧ e.thing = t := by
    intro t ht
    obtain ⟨zone, hzone, ht⟩ := List.mem_flatMap.mp ht
    obtain ⟨i, hi⟩ := List.mem_iff_getElem?.mp hzone
    rw [Array.getElem?_toList] at hi
    obtain ⟨z, -, hz⟩ := Grid.exists_zone?_eq ho.numbered hi
    obtain ⟨e, he, hez, het⟩ := ho.listed_of_mem_things hz (Array.mem_toList_iff.mp ht)
    exact ⟨e, he, ⟨z, hez⟩, het⟩
  refine ⟨⟨ho.indexed, ho.indexed.nodup⟩, ?_, ?_, ?_⟩
  · intro e he
    have he' : e ∈ roster.listed := Roster.mem_entries.mp he
    constructor
    · intro z hz
      refine ⟨ho.count_things_grid he' hz, ?_⟩
      obtain ⟨zone, hzone⟩ := Grid.contains_iff.mp (ho.holds.inside e he' z hz)
      refine ⟨zone, hzone, ?_⟩
      rw [← List.count_pos_iff, ho.count_part he' hzone, if_pos ⟨hz, rfl⟩]
      exact Nat.one_pos
    · intro hnone hmem
      obtain ⟨e', he'', ⟨z, hz⟩, het⟩ := hlisted e.thing hmem
      rw [ho.indexed.entry_unique he' he'' het.symm, hz] at hnone
      cases hnone
  · intro t ht
    obtain ⟨e, he, -, het⟩ := hlisted t ht
    exact ⟨e, Roster.mem_entries.mpr he, het⟩
  · intro zone hzone
    exact ⟨zone.characters_le, zone.moving_le⟩

theorem index_and_zones_agree_stroll :
    World.plaza.check = .ok () ∧ World.stroll.countP Call.isSpawn < 2 ^ 32 ∧
      ((World.start ⟨1⟩ "plaza" World.plaza).run World.stroll).map.grid.things.count
        ⟨0, .first⟩ = 1 := by
  have hl : World.plaza.check = .ok () := by decide
  have hspawns : World.stroll.countP Call.isSpawn < 2 ^ 32 := by decide
  have hagree := index_and_zones_agree ⟨1⟩ "plaza" hl hspawns
  have hentry : (⟨⟨0, .first⟩, .character, some ⟨5⟩, some ⟨0⟩⟩ : Entry) ∈
      ((World.start ⟨1⟩ "plaza" World.plaza).run World.stroll).map.occupancy.roster.entries := by
    decide +kernel
  exact ⟨hl, hspawns, ((hagree.2.1 _ hentry).1 ⟨5⟩ rfl).1⟩

end Whereabouts
