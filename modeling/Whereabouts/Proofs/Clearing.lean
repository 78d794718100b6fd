import Whereabouts.Proofs.Agreement
import Whereabouts.Proofs.Identity
import Whereabouts.Proofs.Residence
import Whereabouts.Proofs.Undo

/-!
# Clearing at once and one by one

A map that is cleared forgets its zones, its roster and its ids altogether. A map that is emptied by
taking off one thing after the other edits all three at each step, in whatever order this is done.
Both ways lead to the same population, and in neither map is anything left.
-/

namespace Whereabouts

namespace Population

variable {p : Population} {f : Thing → Thing}

/-- Whether a slot is edited does not depend on the edits made before. -/
lemma modify_right_comm (p : Population) (f : Thing → Thing) (h k : Handle) :
    (p.modify h f).modify k f = (p.modify k f).modify h f := by
  refine eq_of_slots ?_ rfl rfl
  intro i
  rw [slots_modify, slots_modify, slots_modify, slots_modify, Option.map_map, Option.map_map]
  congr 1
  funext s
  by_cases hh : i = h.index.toNat ∧ s.generation = h.generation
  · by_cases hk : i = k.index.toNat ∧ s.generation = k.generation
    · simp only [Function.comp_apply, if_pos hh, if_pos hk]
    · simp only [Function.comp_apply, if_pos hh, if_neg hk]
  · by_cases hk : i = k.index.toNat ∧ s.generation = k.generation
    · simp only [Function.comp_apply, if_neg hh, if_pos hk]
    · simp only [Function.comp_apply, if_neg hh, if_neg hk]

/-- The order of the handles is no matter to an edit of them all. -/
lemma modifyAll_perm {ts ts' : List Handle} (h : ts.Perm ts') :
    p.modifyAll f ts = p.modifyAll f ts' :=
  have : RightCommutative fun (p : Population) t => p.modify t f :=
    ⟨fun p => p.modify_right_comm f⟩
  h.foldl_eq p

end Population

namespace GameMap

variable {m m' : GameMap} {people : Population}

/-- Nothing is left on a map that was `m`: nothing is listed, nothing stands in a zone, and no
public id is taken or leads anywhere. -/
structure Emptied (m m' : GameMap) : Prop where
  shape : m'.grid.shape = m.grid.shape
  entries : m'.occupancy.roster.entries = #[]
  index : m'.occupancy.roster.index.isEmpty
  zones : ∀ zone ∈ m'.grid.zones, zone.things = #[]
  ids : ∀ id, m'.occupancy.ids.isTaken id = false ∧ m'.holder id = none

/-- When a sound map has no things its books are empty. -/
lemma Sound.emptied (hm : m'.Sound people) (hshape : m'.grid.shape = m.grid.shape)
    (hnone : m'.things = []) : m.Emptied m' := by
  have hlisted : ∀ e, e ∉ m'.listed := by
    intro e he
    have ht := mem_things.mpr ⟨e, he, rfl⟩
    rw [hnone] at ht
    cases ht
  refine ⟨hshape, ?_, ?_, ?_, ?_⟩
  · exact Array.toList_eq_nil_iff.mp (List.map_eq_nil_iff.mp hnone)
  · rw [Std.HashMap.isEmpty_iff_forall_not_mem]
    intro t ht
    rw [Std.HashMap.mem_iff_isSome_getElem?, ← Option.ne_none_iff_isSome] at ht
    apply ht
    rw [hm.occupancy.indexed.index_eq_none_iff]
    exact fun e he => absurd he (hlisted e)
  · intro zone hzone
    obtain ⟨i, hi⟩ := Array.mem_iff_getElem?.mp hzone
    obtain ⟨z, -, hz⟩ := Grid.exists_zone?_eq hm.occupancy.numbered hi
    rw [Array.eq_empty_iff_forall_not_mem]
    intro t ht
    obtain ⟨e, he, -⟩ := hm.occupancy.listed_of_mem_things hz ht
    exact hlisted e he
  · intro id
    constructor
    · rw [← Bool.not_eq_true, hm.occupancy.named.isTaken_iff]
      rintro ⟨e, he, -⟩
      exact hlisted e he
    · rw [Option.eq_none_iff_forall_ne_some]
      intro t ht
      obtain ⟨e, he, -⟩ := (hm.occupancy.named.holder_iff id t).mp ht
      exact hlisted e he

/-- The entry that goes takes its thing along. -/
lemma Lost.things_perm {e : Entry} (h : m.Lost e m') : m.things.Perm (e.thing :: m'.things) := by
  apply Multiset.coe_eq_coe.mp
  have hmap := congrArg (Multiset.map Entry.thing) h.listed
  rwa [Multiset.map_cons] at hmap

end GameMap

namespace World

variable {w : World} {n : Nat}

/-- A thing that is listed is taken off when asked for, and all others stay. -/
lemma Sound.step_erase_listed (h : w.Sound n) {t : Handle} (ht : t ∈ w.map.things) :
    answered (w.map.erase w.people t) = some (.ok ()) ∧
      (w.step (.erase t)).people = w.people.modify t Thing.leave ∧
      w.map.things.Perm (t :: (w.step (.erase t)).map.things) := by
  obtain ⟨e, he, rfl⟩ := GameMap.mem_things.mp ht
  obtain ⟨herase, hlost⟩ := h.map.erase_of_listed he
  rw [World.step_eq (World.attempt_erase herase)]
  exact ⟨herase.answered, rfl, hlost.things_perm⟩

/-- Once some of the things of a map have been taken off, one after the other, it is the rest that
is on it. -/
theorem Sound.run_erase (h : w.Sound n) (hn : n < 2 ^ 32) {before rest : List Handle}
    (horder : (before ++ rest).Perm w.map.things) :
    let v := w.run (before.map .erase)
    v.Sound n ∧ rest.Perm v.map.things ∧ v.people = w.people.modifyAll Thing.leave before ∧
      v.map.grid.shape = w.map.grid.shape := by
  induction before generalizing w with
  | nil => exact ⟨h, horder, rfl, rfl⟩
  | cons t before ih =>
    have ht : t ∈ w.map.things := horder.subset List.mem_cons_self
    obtain ⟨-, hpeople, hperm⟩ := h.step_erase_listed ht
    obtain ⟨hv, hrest, hleft, hshape⟩ :=
      ih (h.step hn (.erase t)) (List.perm_cons t |>.mp (horder.trans hperm))
    refine ⟨hv, hrest, ?_, hshape.trans (h.shape_step hn _)⟩
    rw [hpeople] at hleft
    exact hleft

/-- In the crowd the monster ends, but is not taken off. -/
def closing : List Call :=
  crowd ++ [.despawn ⟨1, .first⟩]

end World

/-- After every run of calls, the things of a map can be taken off one by one in whatever order.
None of this is turned down, it leads to the same population as a map that is cleared at once, and
in either map nothing is left. What clearing gives back is what the map contained, each thing
once. -/
theorem clear_agrees_with_erasing (id : MapId) (name : String) {l : Layout}
    (hl : l.check = .ok ()) {calls : List Call} (hspawns : calls.countP Call.isSpawn < 2 ^ 32) :
    let w := (World.start id name l).run calls
    let cleared := w.step .clear
    (∀ order : List Handle, order.Nodup → (∀ t, t ∈ order ↔ w.map.contains t) →
      let after := w.run (order.map .erase)
      (∀ before t rest, order = before ++ t :: rest →
        let v := w.run (before.map .erase)
        answered (v.map.erase v.people t) = some (.ok ())) ∧
      after.people = cleared.people ∧
      w.map.Emptied after.map) ∧
    w.map.Emptied cleared.map ∧
    (w.map.clear w.people).1.Nodup ∧
    ∀ t,
      (t ∈ (w.map.clear w.people).1 ↔ w.map.contains t) ∧
      (w.map.contains t ↔ ∃ e ∈ w.map.occupancy.roster.entries, e.thing = t) := by
  intro w cleared
  have hw : w.Sound _ := World.sound_run id name hl hspawns
  have hcontains : ∀ t, w.map.contains t ↔ t ∈ w.map.things := fun t => hw.map.contains_iff
  have hnodup : w.map.things.Nodup := hw.map.occupancy.indexed.nodup
  refine ⟨?_, ?_, hnodup, ?_⟩
  · intro order honce hmem after
    have hperm : order.Perm w.map.things := by
      rw [List.perm_ext_iff_of_nodup honce hnodup]
      exact fun t => (hmem t).trans (hcontains t)
    refine ⟨?_, ?_⟩
    · rintro before t rest rfl
      obtain ⟨hv, hrest, -⟩ := hw.run_erase hspawns hperm
      exact (hv.step_erase_listed (hrest.subset List.mem_cons_self)).1
    · rw [← List.append_nil order] at hperm
      obtain ⟨hafter, hrest, hpeople, hshape⟩ := hw.run_erase hspawns hperm
      constructor
      · rw [List.append_nil] at hperm
        exact hpeople.trans (Population.modifyAll_perm hperm)
      · exact hafter.map.emptied hshape hrest.nil_eq.symm
  · exact hw.map.clear.emptied (hw.shape_step hspawns .clear) rfl
  · intro t
    refine ⟨(hcontains t).symm, ?_⟩
    rw [hcontains, GameMap.mem_things]
    simp only [Roster.mem_entries, GameMap.listed]

theorem clear_agrees_with_erasing_closing :
    World.plaza.check = .ok () ∧ World.closing.countP Call.isSpawn < 2 ^ 32 ∧
      let w := (World.start ⟨1⟩ "plaza" World.plaza).run World.closing
      let order : List Handle := [⟨2, .first⟩, ⟨1, .first⟩, ⟨0, .first⟩, ⟨3, .first⟩]
      order.Nodup ∧ (∀ t, t ∈ order ↔ w.map.contains t) ∧
        w.people.contains ⟨1, .first⟩ = false ∧
        (w.run (order.map .erase)).people = (w.step .clear).people := by
  have hl : World.plaza.check = .ok () := by decide
  have hspawns : World.closing.countP Call.isSpawn < 2 ^ 32 := by decide
  have hagree := clear_agrees_with_erasing ⟨1⟩ "plaza" hl hspawns
  have honce : [(⟨2, .first⟩ : Handle), ⟨1, .first⟩, ⟨0, .first⟩, ⟨3, .first⟩].Nodup := by decide
  have hthings : (((World.start ⟨1⟩ "plaza" World.plaza).run World.closing).map.clear
      ((World.start ⟨1⟩ "plaza" World.plaza).run World.closing).people).1 =
        [⟨0, .first⟩, ⟨1, .first⟩, ⟨2, .first⟩, ⟨3, .first⟩] := by
    decide +kernel
  have hmem : ∀ t, t ∈ [(⟨2, .first⟩ : Handle), ⟨1, .first⟩, ⟨0, .first⟩, ⟨3, .first⟩] ↔
      ((World.start ⟨1⟩ "plaza" World.plaza).run World.closing).map.contains t := by
    intro t
    have hperm : [(⟨2, .first⟩ : Handle), ⟨1, .first⟩, ⟨0, .first⟩, ⟨3, .first⟩].Perm
        [⟨0, .first⟩, ⟨1, .first⟩, ⟨2, .first⟩, ⟨3, .first⟩] := by decide
    rw [← (hagree.2.2.2 t).1, hthings, hperm.mem_iff]
  exact ⟨hl, hspawns, honce, hmem, by decide +kernel, (hagree.1 _ honce hmem).2.1⟩

end Whereabouts
