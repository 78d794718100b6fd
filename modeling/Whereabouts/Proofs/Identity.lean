import Whereabouts.Proofs.Worlds

/-!
# Public ids and their holders

The pool of ids and the roster tell the same story after every run: an id is taken as long as one
entry has it, and it leads to the thing of that entry. An entry keeps its id as long as it is
listed.
-/

namespace Whereabouts

namespace Roster

variable {r : Roster}

/-- At most one entry has an id that leads to the thing of each entry that has it. -/
lemma Indexed.existsUnique_publicId (hr : r.Indexed) {id : PublicId}
    (hone : ∀ e ∈ r.listed, ∀ e' ∈ r.listed, e.publicId = some id → e'.publicId = some id →
      e.thing = e'.thing) :
    (∃ e ∈ r.listed, e.publicId = some id) ↔
      ∃! i : Nat, r.entries[i]?.bind Entry.publicId = some id := by
  constructor
  · rintro ⟨e, he, hid⟩
    obtain ⟨i, hi⟩ := mem_listed.mp he
    refine ⟨i, by simp [hi, hid], ?_⟩
    intro j hj
    obtain ⟨e', hj, hid'⟩ := Option.bind_eq_some_iff.mp hj
    exact hr.eq_of_thing_eq hj hi (hone e' (mem_listed.mpr ⟨j, hj⟩) e he hid' hid)
  · rintro ⟨i, hi, -⟩
    obtain ⟨e, he, hid⟩ := Option.bind_eq_some_iff.mp hi
    exact ⟨e, mem_listed.mpr ⟨i, he⟩, hid⟩

end Roster

namespace Named

variable {ids : IdPool} {es : Multiset Entry}

lemma holder_of_mem (h : Named ids es) {e : Entry} {id : PublicId} (he : e ∈ es)
    (hid : e.publicId = some id) : ids.holder id = some e.thing :=
  (h.holder_iff id e.thing).mpr ⟨e, he, hid, rfl⟩

lemma isTaken_iff (h : Named ids es) {id : PublicId} :
    ids.isTaken id ↔ ∃ e ∈ es, e.publicId = some id := by
  rw [IdPool.isTaken_iff h.sound, Option.isSome_iff_exists]
  constructor
  · rintro ⟨t, ht⟩
    obtain ⟨e, he, hid, -⟩ := (h.holder_iff id t).mp ht
    exact ⟨e, he, hid⟩
  · rintro ⟨e, he, hid⟩
    exact ⟨e.thing, h.holder_of_mem he hid⟩

end Named

namespace World

variable {w : World} {n : Nat}

/-- An entry keeps its id until it is taken off. -/
lemma Sound.publicId_step (h : w.Sound n) {c : Call} {e : Entry} (he : e ∈ w.map.listed)
    (hclear : c ≠ .clear) (herase : c ≠ .erase e.thing) :
    ∃ e' ∈ (w.step c).map.listed, e'.thing = e.thing ∧ e'.publicId = e.publicId := by
  by_cases hsettle : c = .settle
  · subst hsettle
    refine ⟨e.settled w.map.grid w.people, ?_, rfl, rfl⟩
    rw [h.listed_settle]
    exact Multiset.mem_map_of_mem _ he
  · exact ⟨e, h.mem_listed_step he hsettle hclear herase, rfl, rfl⟩

lemma Sound.publicId_run (h : w.Sound n) {calls : List Call}
    (hn : n + calls.countP Call.isSpawn < 2 ^ 32) {e : Entry} (he : e ∈ w.map.listed)
    (hclear : .clear ∉ calls) (herase : .erase e.thing ∉ calls) :
    ∃ e' ∈ (w.run calls).map.listed, e'.thing = e.thing ∧ e'.publicId = e.publicId := by
  refine (h.run_keeps hn (P := fun v =>
    ∃ e' ∈ v.map.listed, e'.thing = e.thing ∧ e'.publicId = e.publicId) ⟨e, he, rfl, rfl⟩ ?_).2
  rintro v k c hc hv - ⟨e', he', ht, hid⟩
  have hclear' : c ≠ .clear := fun h => hclear (h ▸ hc)
  have herase' : c ≠ .erase e'.thing := by
    rintro rfl
    rw [ht] at hc
    exact herase hc
  obtain ⟨e'', he'', ht', hid'⟩ := hv.publicId_step he' hclear' herase'
  exact ⟨e'', he'', ht'.trans ht, hid'.trans hid⟩

end World

/-- After every run of calls an id is taken exactly when one entry has it, and then it leads to the
thing of that entry. The entries that have one are the visible ones that can move, and they keep it
until they are taken off or the map is cleared. -/
theorem ids_match_entries (id : MapId) (name : String) {l : Layout} (hl : l.check = .ok ())
    {calls : List Call} (hspawns : calls.countP Call.isSpawn < 2 ^ 32) :
    let w := (World.start id name l).run calls
    let entries := w.map.occupancy.roster.entries
    (∀ p : PublicId,
      (w.map.occupancy.ids.isTaken p ↔ ∃! i : Nat, entries[i]?.bind Entry.publicId = some p) ∧
      (∀ e ∈ entries, e.publicId = some p → w.map.holder p = some e.thing) ∧
      (¬w.map.occupancy.ids.isTaken p → w.map.holder p = none)) ∧
    (∀ e ∈ entries, e.publicId.isSome ↔ e.zone.isSome ∧ e.kind.movable) ∧
    w.map.occupancy.ids.taken = entries.countP (fun e => e.zone.isSome && e.kind.movable) ∧
    (∀ e ∈ entries, ∀ more : List Call, (calls ++ more).countP Call.isSpawn < 2 ^ 32 →
      .clear ∉ more → .erase e.thing ∉ more →
      ∃ e' ∈ (w.run more).map.occupancy.roster.entries,
        e'.thing = e.thing ∧ e'.publicId = e.publicId) := by
  intro w entries
  have hw : w.Sound _ := World.sound_run id name hl hspawns
  have ho := hw.map.occupancy
  have hmem : ∀ e ∈ entries, e ∈ w.map.listed := fun e he => Roster.mem_entries.mp he
  refine ⟨?_, ?_, ?_, ?_⟩
  · intro p
    refine ⟨?_, ?_, ?_⟩
    · rw [ho.named.isTaken_iff]
      apply ho.indexed.existsUnique_publicId
      intro e he e' he' hid hid'
      have hheld := ho.named.holder_of_mem he hid
      rw [ho.named.holder_of_mem he' hid'] at hheld
      exact (Option.some.inj hheld).symm
    · intro e he hid
      exact ho.named.holder_of_mem (hmem e he) hid
    · intro hfree
      rw [IdPool.isTaken_iff ho.named.sound, Option.not_isSome_iff_eq_none] at hfree
      exact hfree
  · intro e he
    exact ho.named.publicId_iff e (hmem e he)
  · have hiff : ∀ e ∈ entries.toList,
        e.publicId.isSome = true ↔ (e.zone.isSome && e.kind.movable) = true := by
      intro e he
      rw [ho.named.publicId_iff e he, Bool.and_eq_true]
    rw [ho.named.taken_eq, Roster.listed, Multiset.coe_countP, ← Array.countP_toList]
    simpa using List.countP_congr hiff
  · intro e he more hmore hclear herase
    rw [List.countP_append] at hmore
    obtain ⟨e', he', ht, hid⟩ := hw.publicId_run hmore (hmem e he) hclear herase
    exact ⟨e', Roster.mem_entries.mpr he', ht, hid⟩

theorem ids_match_entries_stroll :
    World.plaza.check = .ok () ∧ World.stroll.countP Call.isSpawn < 2 ^ 32 ∧
      ((World.start ⟨1⟩ "plaza" World.plaza).run World.stroll).map.holder ⟨0⟩ =
        some ⟨0, .first⟩ := by
  have hl : World.plaza.check = .ok () := by decide
  have hspawns : World.stroll.countP Call.isSpawn < 2 ^ 32 := by decide
  have hids := ids_match_entries ⟨1⟩ "plaza" hl hspawns
  have hentry : (⟨⟨0, .first⟩, .character, some ⟨5⟩, some ⟨0⟩⟩ : Entry) ∈
      ((World.start ⟨1⟩ "plaza" World.plaza).run World.stroll).map.occupancy.roster.entries := by
    decide +kernel
  exact ⟨hl, hspawns, (hids.1 ⟨0⟩).2.1 _ hentry rfl⟩

end Whereabouts
