import Mathlib.Algebra.Order.Ring.Nat
import Whereabouts.Population

/-!
# Handles are given out once

A slot counts its generations up, once for each thing that ends in it. After `n` spawns no slot has
counted past `n`, so while `n` stays below 2 ^ 32 no count wraps around, and a handle that was
given out never comes out of a later spawn.
-/

namespace Whereabouts

lemma countP_cons_toNat {α : Type} (p : α → Bool) (a : α) (as : List α) :
    (a :: as).countP p = (p a).toNat + as.countP p := by
  rw [List.countP_cons, Nat.add_comm]
  cases p a <;> rfl

/-- How many things have lived in a slot, the one that lives there now among them. -/
def Slot.lived (s : Slot) : Nat :=
  s.generation.count.toNat + s.thing.isSome.toNat

namespace Population

/-- A spawn gave this handle out, whether or not its thing still lives. -/
def Issued (p : Population) (h : Handle) : Prop :=
  ∃ s, p.slots[h.index.toNat]? = some s ∧
    (h.generation.count.toNat < s.generation.count.toNat ∨
      h.generation = s.generation ∧ s.thing.isSome)

/-- What holds of a population after `n` spawns: the vacant slots are the empty ones, each listed
once, and neither the slots nor the things that lived in one of them outnumber the spawns. -/
structure Sound (p : Population) (n : Nat) : Prop where
  vacant_nodup : p.vacant.Nodup
  mem_vacant : ∀ i, i ∈ p.vacant ↔ p.slots[i.toNat]?.map (·.thing.isSome) = some false
  size_le : p.slots.size ≤ n
  lived_le : ∀ (i : Nat) (s : Slot), p.slots[i]? = some s → s.lived ≤ n
  alive_eq : p.alive = p.slots.countP (·.thing.isSome)

lemma sound_empty : empty.Sound 0 where
  vacant_nodup := List.nodup_nil
  mem_vacant i := by simp [empty]
  size_le := Nat.le_refl 0
  lived_le i s h := by simp [empty] at h
  alive_eq := rfl

lemma get?_empty (h : Handle) : empty.get? h = none := by
  simp [empty, get?]

lemma get?_eq_some_iff {p : Population} {h : Handle} {t : Thing} :
    p.get? h = some t ↔ p.slots[h.index.toNat]? = some ⟨h.generation, some t⟩ := by
  unfold get?
  cases hs : p.slots[h.index.toNat]? with
  | none => simp
  | some s =>
    obtain ⟨g, x⟩ := s
    by_cases hg : g = h.generation
    · simp [hg]
    · simp [hg]

lemma issued_of_get? {p : Population} {h : Handle} {t : Thing} (hg : p.get? h = some t) :
    p.Issued h :=
  ⟨_, get?_eq_some_iff.mp hg, .inr ⟨rfl, rfl⟩⟩

lemma index_eq_of_toNat_eq {i j : UInt32} (h : i.toNat = j.toNat) : i = j :=
  UInt32.toNat_inj.mp h

lemma generation_ne {h k : Handle} (hi : h.index.toNat = k.index.toNat) (hne : h ≠ k) :
    k.generation ≠ h.generation := by
  intro hg
  apply hne
  obtain ⟨i, g⟩ := h
  obtain ⟨j, g'⟩ := k
  rw [Handle.mk.injEq]
  exact ⟨index_eq_of_toNat_eq hi, hg.symm⟩

/-- What a spawn does to the slots: the new thing is in a slot that was empty or did not exist. -/
lemma slots_spawn {p : Population} {n : Nat} (hp : p.Sound n) (hn : n < 2 ^ 32) (t : Thing) :
    let k := (p.spawn t).1
    (∀ i, (p.spawn t).2.slots[i]? =
      if i = k.index.toNat then some ⟨k.generation, some t⟩ else p.slots[i]?) ∧
    (k.index.toNat = p.slots.size ∧ k.generation = .first ∧
        p.vacant = [] ∧ (p.spawn t).2.vacant = [] ∨
      p.slots[k.index.toNat]? = some ⟨k.generation, none⟩ ∧
        p.vacant = k.index :: (p.spawn t).2.vacant) := by
  have hsize := hp.size_le
  unfold spawn
  split
  · next hv =>
    have hindex : (UInt32.ofNat p.slots.size).toNat = p.slots.size :=
      UInt32.toNat_ofNat_of_lt' (by simp only [UInt32.size]; omega)
    refine ⟨?_, .inl ⟨hindex, rfl, hv, rfl⟩⟩
    intro i
    simp only [hindex]
    rw [Array.getElem?_push]
  · next j rest hv =>
    have hj := p.vacant_lt j (by simp [hv])
    have hempty : p.slots[j.toNat].thing = none := by
      have hm := (hp.mem_vacant j).mp (by simp [hv])
      rw [Array.getElem?_eq_getElem hj] at hm
      simpa using hm
    refine ⟨?_, .inr ⟨?_, hv⟩⟩
    · intro i
      simp only [Array.getElem?_set, eq_comm]
    · rw [Array.getElem?_eq_getElem hj]
      simp only [← hempty]

lemma not_issued_spawn {p : Population} {n : Nat} (hp : p.Sound n) (hn : n < 2 ^ 32) (t : Thing) :
    ¬p.Issued (p.spawn t).1 := by
  rintro ⟨s, hs, hlived⟩
  obtain ⟨-, ⟨hnew, -⟩ | ⟨hempty, -⟩⟩ := slots_spawn hp hn t
  · rw [hnew, Array.getElem?_eq_none (Nat.le_refl _)] at hs
    simp at hs
  · rw [hempty, Option.some.injEq] at hs
    subst hs
    rcases hlived with hlt | ⟨-, hthing⟩
    · exact absurd hlt (Nat.lt_irrefl _)
    · simp at hthing

lemma get?_spawn {p : Population} {n : Nat} (hp : p.Sound n) (hn : n < 2 ^ 32) (t : Thing)
    (h : Handle) :
    (p.spawn t).2.get? h = if h = (p.spawn t).1 then some t else p.get? h := by
  obtain ⟨hslots, hwas⟩ := slots_spawn hp hn t
  generalize (p.spawn t).1 = k at *
  apply Option.ext
  intro x
  rw [get?_eq_some_iff, hslots]
  by_cases hi : h.index.toNat = k.index.toNat
  · have hindex := index_eq_of_toNat_eq hi
    have hold : p.get? h ≠ some x := by
      intro hg
      rw [get?_eq_some_iff, hindex] at hg
      rcases hwas with ⟨hnew, -⟩ | ⟨hempty, -⟩
      · rw [hnew, Array.getElem?_eq_none (Nat.le_refl _)] at hg
        simp at hg
      · rw [hempty] at hg
        simp at hg
    rw [if_pos hi]
    by_cases hk : h = k
    · simp [hk]
    · simp [hk, generation_ne hi hk, hold]
  · have hk : h ≠ k := fun he => hi (he ▸ rfl)
    rw [if_neg hi, if_neg hk, get?_eq_some_iff]

lemma issued_spawn {p : Population} {n : Nat} (hp : p.Sound n) (hn : n < 2 ^ 32) (t : Thing)
    {h : Handle} (hh : p.Issued h) : (p.spawn t).2.Issued h := by
  obtain ⟨s, hs, hlived⟩ := hh
  obtain ⟨hslots, hwas⟩ := slots_spawn hp hn t
  generalize (p.spawn t).1 = k at *
  by_cases hi : h.index.toNat = k.index.toNat
  · refine ⟨_, by rw [hslots, if_pos hi], ?_⟩
    rw [hi] at hs
    rcases hwas with ⟨hnew, -⟩ | ⟨hempty, -⟩
    · rw [hnew, Array.getElem?_eq_none (Nat.le_refl _)] at hs
      simp at hs
    · rw [hempty, Option.some.injEq] at hs
      subst hs
      rcases hlived with hlt | ⟨-, hthing⟩
      · exact .inl hlt
      · simp at hthing
  · exact ⟨s, by rw [hslots, if_neg hi, hs], hlived⟩

lemma size_spawn_le (p : Population) (t : Thing) :
    (p.spawn t).2.slots.size ≤ p.slots.size + 1 := by
  unfold spawn
  split
  · simp
  · simp

lemma alive_spawn {p : Population} {n : Nat} (hp : p.Sound n) (t : Thing) :
    (p.spawn t).2.alive = (p.spawn t).2.slots.countP (·.thing.isSome) := by
  have halive := hp.alive_eq
  unfold spawn
  split
  · rw [Array.countP_push]
    simp [halive]
  · next j rest hv =>
    have hj := p.vacant_lt j (by simp [hv])
    have hempty := (hp.mem_vacant j).mp (by simp [hv])
    rw [Array.getElem?_eq_getElem hj, Option.map_some, Option.some.injEq] at hempty
    dsimp only
    rw [Array.countP_set, hempty]
    simp [halive]

theorem Sound.spawn {p : Population} {n : Nat} (hp : p.Sound n) (hn : n < 2 ^ 32) (t : Thing) :
    (p.spawn t).2.Sound (n + 1) := by
  obtain ⟨hslots, hwas⟩ := slots_spawn hp hn t
  have hsize := Nat.le_trans (size_spawn_le p t) (Nat.add_le_add_right hp.size_le 1)
  have halive := alive_spawn hp t
  generalize (p.spawn t).1 = k at *
  refine ⟨?_, ?_, hsize, ?_, halive⟩
  · rcases hwas with ⟨-, -, -, hv⟩ | ⟨-, hv⟩
    · rw [hv]
      exact List.nodup_nil
    · exact (List.nodup_cons.mp (hv ▸ hp.vacant_nodup)).2
  · intro i
    rw [hslots]
    by_cases hi : i.toNat = k.index.toNat
    · have hnot : i ∉ (p.spawn t).2.vacant := by
        rcases hwas with ⟨-, -, -, hv⟩ | ⟨-, hv⟩
        · simp [hv]
        · rw [index_eq_of_toNat_eq hi]
          exact (List.nodup_cons.mp (hv ▸ hp.vacant_nodup)).1
      simp [hi, hnot]
    · have hk : i ≠ k.index := fun he => hi (he ▸ rfl)
      have hv : i ∈ (p.spawn t).2.vacant ↔ i ∈ p.vacant := by
        rcases hwas with ⟨-, -, hv, hv'⟩ | ⟨-, hv⟩
        · rw [hv, hv']
        · rw [hv, List.mem_cons, or_iff_right hk]
      rw [if_neg hi, hv, hp.mem_vacant]
  · intro i s hs
    rw [hslots] at hs
    by_cases hi : i = k.index.toNat
    · rw [if_pos hi, Option.some.injEq] at hs
      subst hs
      have hle : k.generation.count.toNat ≤ n := by
        rcases hwas with ⟨-, hfirst, -⟩ | ⟨hempty, -⟩
        · rw [hfirst]
          exact Nat.zero_le n
        · simpa [Slot.lived] using hp.lived_le _ _ hempty
      simpa [Slot.lived] using hle
    · rw [if_neg hi] at hs
      exact Nat.le_trans (hp.lived_le i s hs) (Nat.le_succ n)

/-! Ending a thing -/

lemma despawn_of_dead {p : Population} {h : Handle} (hd : p.get? h = none) :
    (p.despawn h).value = (none, p) := by
  unfold despawn
  split
  · rfl
  · next hg => simp [hd] at hg

/-- The end of a thing gives the thing back. -/
lemma fst_despawn (p : Population) (h : Handle) : (p.despawn h).value.1 = p.get? h := by
  unfold despawn
  split
  · next hg => exact hg.symm
  · next hg => exact hg.symm

/-- What the end of a thing does to the slots. -/
lemma slots_despawn {p : Population} {h : Handle} {t : Thing} (hg : p.get? h = some t) (i : Nat) :
    (p.despawn h).value.2.slots[i]? =
      if i = h.index.toNat then some ⟨h.generation.next, none⟩ else p.slots[i]? := by
  unfold despawn
  split
  · next hd => simp [hd] at hg
  · simp only [Array.getElem?_set, eq_comm]

lemma vacant_despawn {p : Population} {h : Handle} {t : Thing} (hg : p.get? h = some t) :
    (p.despawn h).value.2.vacant = h.index :: p.vacant := by
  unfold despawn
  split
  · next hd => simp [hd] at hg
  · rfl

lemma get?_despawn (p : Population) (h k : Handle) :
    (p.despawn h).value.2.get? k = if k = h then none else p.get? k := by
  cases hg : p.get? h with
  | none =>
    rw [despawn_of_dead hg]
    by_cases hk : k = h
    · rw [if_pos hk, hk, hg]
    · rw [if_neg hk]
  | some t =>
    have hslot := get?_eq_some_iff.mp hg
    apply Option.ext
    intro x
    rw [get?_eq_some_iff, slots_despawn hg]
    by_cases hi : k.index.toNat = h.index.toNat
    · rw [if_pos hi]
      by_cases hk : k = h
      · simp [hk]
      · have hx : p.get? k ≠ some x := by
          intro hx
          rw [get?_eq_some_iff, hi, hslot, Option.some.injEq, Slot.mk.injEq] at hx
          exact generation_ne hi hk hx.1
        simp [hk, hx]
    · have hk : k ≠ h := fun he => hi (he ▸ rfl)
      rw [if_neg hi, if_neg hk, get?_eq_some_iff]

lemma toNat_next {p : Population} {n : Nat} (hp : p.Sound n) (hn : n < 2 ^ 32) {h : Handle}
    {t : Thing} (hg : p.get? h = some t) :
    h.generation.next.count.toNat = h.generation.count.toNat + 1 := by
  have hle := hp.lived_le _ _ (get?_eq_some_iff.mp hg)
  simp only [Slot.lived, Option.isSome_some, Bool.toNat_true] at hle
  simp only [Generation.next, UInt32.toNat_add, UInt32.toNat_one]
  omega

lemma issued_despawn {p : Population} {n : Nat} (hp : p.Sound n) (hn : n < 2 ^ 32) (h : Handle)
    {k : Handle} (hk : p.Issued k) : (p.despawn h).value.2.Issued k := by
  cases hg : p.get? h with
  | none => rwa [despawn_of_dead hg]
  | some t =>
    obtain ⟨s, hs, hlived⟩ := hk
    by_cases hi : k.index.toNat = h.index.toNat
    · refine ⟨_, by rw [slots_despawn hg, if_pos hi], .inl ?_⟩
      rw [hi, get?_eq_some_iff.mp hg, Option.some.injEq] at hs
      subst hs
      rw [toNat_next hp hn hg]
      rcases hlived with hlt | ⟨heq, -⟩
      · exact Nat.lt_succ_of_lt hlt
      · rw [heq]
        exact Nat.lt_succ_self _
    · exact ⟨s, by rw [slots_despawn hg, if_neg hi, hs], hlived⟩

theorem Sound.despawn {p : Population} {n : Nat} (hp : p.Sound n) (hn : n < 2 ^ 32) (h : Handle) :
    (p.despawn h).value.2.Sound n := by
  cases hg : p.get? h with
  | none => rwa [despawn_of_dead hg]
  | some t =>
    have hslots := slots_despawn hg
    have hslot := get?_eq_some_iff.mp hg
    have hi := index_lt_of_get? hg
    have hlive : h.index ∉ p.vacant := by
      rw [hp.mem_vacant, hslot]
      simp
    have hvacant := vacant_despawn hg
    have hfields : (p.despawn h).value.2.slots.size = p.slots.size ∧
        (p.despawn h).value.2.alive = (p.despawn h).value.2.slots.countP (·.thing.isSome) := by
      unfold Population.despawn
      split
      · next hd => simp [hd] at hg
      · refine ⟨by simp, ?_⟩
        dsimp only
        rw [Array.getElem?_eq_getElem hi, Option.some.injEq] at hslot
        rw [Array.countP_set, hslot, hp.alive_eq]
        simp
    obtain ⟨hsize, halive⟩ := hfields
    refine ⟨?_, ?_, hsize ▸ hp.size_le, ?_, halive⟩
    · rw [hvacant]
      exact List.nodup_cons.mpr ⟨hlive, hp.vacant_nodup⟩
    · intro i
      rw [hvacant, hslots, List.mem_cons]
      by_cases hk : i.toNat = h.index.toNat
      · simp [index_eq_of_toNat_eq hk]
      · have hne : i ≠ h.index := fun he => hk (he ▸ rfl)
        rw [if_neg hk, or_iff_right hne, hp.mem_vacant]
    · intro i s hs
      rw [hslots] at hs
      by_cases hk : i = h.index.toNat
      · rw [if_pos hk, Option.some.injEq] at hs
        subst hs
        have hle := hp.lived_le _ _ hslot
        simpa [Slot.lived, toNat_next hp hn hg] using hle
      · rw [if_neg hk] at hs
        exact hp.lived_le i s hs

/-! Editing a thing -/

lemma slots_modify (p : Population) (h : Handle) (f : Thing → Thing) (i : Nat) :
    (p.modify h f).slots[i]? = (p.slots[i]?).map fun s =>
      if i = h.index.toNat ∧ s.generation = h.generation then { s with thing := s.thing.map f }
      else s := by
  simp only [modify, Array.getElem?_modify, eq_comm (a := h.index.toNat)]
  by_cases hi : i = h.index.toNat
  · simp [hi]
  · simp [hi]

lemma get?_modify (p : Population) (h k : Handle) (f : Thing → Thing) :
    (p.modify h f).get? k = if k = h then (p.get? h).map f else p.get? k := by
  unfold get?
  rw [slots_modify]
  by_cases hk : k = h
  · subst hk
    cases p.slots[k.index.toNat]? with
    | none => simp
    | some s =>
      by_cases hg : s.generation = k.generation
      · simp [hg]
      · simp [hg]
  · cases p.slots[k.index.toNat]? with
    | none => simp [hk]
    | some s =>
      by_cases hs : k.index.toNat = h.index.toNat ∧ s.generation = h.generation
      · have hg := generation_ne hs.1 hk
        simp [hk, hs, hg]
      · simp [hk, hs]

lemma issued_modify {p : Population} {h k : Handle} {f : Thing → Thing} :
    (p.modify h f).Issued k ↔ p.Issued k := by
  unfold Issued
  rw [slots_modify]
  cases p.slots[k.index.toNat]? with
  | none => simp
  | some s =>
    simp only [Option.map_some, Option.some.injEq, exists_eq_left']
    split
    · simp
    · rfl

/-- An edit keeps what does not depend on the thing in a slot. -/
lemma map_slots_modify {α : Type} (p : Population) (h : Handle) (f : Thing → Thing) (g : Slot → α)
    (hg : ∀ s : Slot, g { s with thing := s.thing.map f } = g s) (i : Nat) :
    ((p.modify h f).slots[i]?).map g = (p.slots[i]?).map g := by
  rw [slots_modify, Option.map_map]
  congr 1
  funext s
  dsimp only [Function.comp_apply]
  split
  · exact hg s
  · rfl

theorem Sound.modify {p : Population} {n : Nat} (hp : p.Sound n) (h : Handle) (f : Thing → Thing) :
    (p.modify h f).Sound n := by
  have hsome := map_slots_modify p h f (·.thing.isSome) (fun s => Option.isSome_map)
  have hlived := map_slots_modify p h f Slot.lived (fun s => by simp [Slot.lived])
  refine ⟨hp.vacant_nodup, ?_, ?_, ?_, ?_⟩
  · intro i
    rw [hsome]
    exact hp.mem_vacant i
  · simpa [Population.modify] using hp.size_le
  · intro i s hs
    have hi := hlived i
    rw [hs, Option.map_some, eq_comm, Option.map_eq_some_iff] at hi
    obtain ⟨s', hs', he⟩ := hi
    exact he ▸ hp.lived_le i s' hs'
  · have hmap : (p.modify h f).slots.map (·.thing.isSome) = p.slots.map (·.thing.isSome) := by
      apply Array.ext_getElem?
      intro i
      rw [Array.getElem?_map, Array.getElem?_map, hsome]
    have hcount := congrArg (Array.countP id) hmap
    rw [Array.countP_map, Array.countP_map] at hcount
    exact hp.alive_eq.trans hcount.symm

lemma eq_of_slots {p p' : Population} (hslots : ∀ i : Nat, p.slots[i]? = p'.slots[i]?)
    (hvacant : p.vacant = p'.vacant) (halive : p.alive = p'.alive) : p = p' := by
  obtain ⟨slots, vacant, alive, hv⟩ := p
  obtain ⟨slots', vacant', alive', hv'⟩ := p'
  simp only [Population.mk.injEq]
  exact ⟨Array.ext_getElem? hslots, hvacant, halive⟩

lemma modify_of_dead {p : Population} {h : Handle} (hd : p.get? h = none) (f : Thing → Thing) :
    p.modify h f = p := by
  refine eq_of_slots ?_ rfl rfl
  intro i
  rw [slots_modify]
  cases hs : p.slots[i]? with
  | none => rfl
  | some s =>
    rw [Option.map_some, Option.some.injEq, ite_eq_right_iff]
    rintro ⟨rfl, hg⟩
    have hnone : s.thing = none := by
      simpa [get?, hs, hg] using hd
    rw [hnone, Option.map_none, ← hnone]

/-- Two edits of one thing, one after the other, are one edit. -/
lemma modify_modify (p : Population) (h : Handle) (f g : Thing → Thing) :
    (p.modify h f).modify h g = p.modify h (fun t => g (f t)) := by
  refine eq_of_slots ?_ rfl rfl
  intro i
  rw [slots_modify, slots_modify, slots_modify, Option.map_map]
  congr 1
  funext s
  by_cases hs : i = h.index.toNat ∧ s.generation = h.generation
  · simp [hs, Function.comp_def]
  · simp [hs]

/-- Only what an edit makes of the living thing matters. -/
lemma modify_congr {p : Population} {h : Handle} {t : Thing} (ht : p.get? h = some t)
    {f g : Thing → Thing} (hfg : f t = g t) : p.modify h f = p.modify h g := by
  refine eq_of_slots ?_ rfl rfl
  intro i
  rw [slots_modify, slots_modify]
  by_cases hi : i = h.index.toNat
  · rw [hi, get?_eq_some_iff.mp ht]
    simp [hfg]
  · simp [hi]

/-- Edit the things behind some handles, one after the other. -/
def modifyAll (p : Population) (f : Thing → Thing) (ts : List Handle) : Population :=
  ts.foldl (fun p t => p.modify t f) p

/-- An edit that may as well be made twice reaches each thing behind the handles. -/
lemma get?_modifyAll (p : Population) {f : Thing → Thing} (hf : ∀ t, f (f t) = f t)
    (ts : List Handle) (h : Handle) :
    (p.modifyAll f ts).get? h = if h ∈ ts then (p.get? h).map f else p.get? h := by
  unfold modifyAll
  induction ts generalizing p with
  | nil => simp
  | cons t ts ih =>
    rw [List.foldl_cons, ih, get?_modify]
    by_cases ht : h = t
    · have hidem : f ∘ f = f := funext hf
      simp [ht, hidem]
    · simp [ht]

lemma issued_modifyAll {p : Population} {f : Thing → Thing} {ts : List Handle} {k : Handle} :
    (p.modifyAll f ts).Issued k ↔ p.Issued k := by
  unfold modifyAll
  induction ts generalizing p with
  | nil => rfl
  | cons t ts ih => rw [List.foldl_cons, ih, issued_modify]

lemma Sound.modifyAll {p : Population} {n : Nat} (hp : p.Sound n) (f : Thing → Thing)
    (ts : List Handle) : (p.modifyAll f ts).Sound n := by
  induction ts generalizing p with
  | nil => exact hp
  | cons t ts ih => exact ih (hp.modify t f)

end Population

end Whereabouts
