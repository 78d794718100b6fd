import Mathlib.Logic.Function.Basic
import Whereabouts.Proofs.Handles

/-!
# A population is a map from handles to things

A census of a population notes each handle that a spawn gives out and what lives under it, and knows
nothing of slots and generations. Whatever is done to the population, on any handles, it answers as
the census does: so a handle that is dead stays dead, also when its slot is used again.
-/

namespace Whereabouts

namespace Population

variable {p : Population}

/-! The things in the order of their slots -/

/-- The things of some slots with their handles, the first slot being at place `i`. -/
def entriesFrom (i : Nat) (slots : List Slot) : List (Handle × Thing) :=
  (slots.zipIdx i).filterMap fun (s, i) =>
    s.thing.map fun t => (⟨UInt32.ofNat i, s.generation⟩, t)

lemma entriesFrom_cons_none (i : Nat) (g : Generation) (slots : List Slot) :
    entriesFrom i (⟨g, none⟩ :: slots) = entriesFrom (i + 1) slots := rfl

lemma entriesFrom_cons_some (i : Nat) (g : Generation) (t : Thing) (slots : List Slot) :
    entriesFrom i (⟨g, some t⟩ :: slots) =
      (⟨UInt32.ofNat i, g⟩, t) :: entriesFrom (i + 1) slots := rfl

lemma length_entriesFrom (i : Nat) (slots : List Slot) :
    (entriesFrom i slots).length = slots.countP (·.thing.isSome) := by
  induction slots generalizing i with
  | nil => rfl
  | cons slot slots ih =>
    obtain ⟨g, thing⟩ := slot
    cases thing with
    | none =>
      rw [entriesFrom_cons_none, ih, List.countP_cons_of_neg]
      exact Bool.false_ne_true
    | some t =>
      rw [entriesFrom_cons_some, List.length_cons, ih, List.countP_cons_of_pos]
      rfl

lemma mem_entriesFrom {i : Nat} {slots : List Slot} {h : Handle} {t : Thing} :
    (h, t) ∈ entriesFrom i slots ↔
      ∃ j, slots[j]? = some ⟨h.generation, some t⟩ ∧ h.index = UInt32.ofNat (i + j) := by
  rw [entriesFrom, List.mem_filterMap]
  constructor
  · rintro ⟨⟨⟨g, thing⟩, k⟩, hmem, hentry⟩
    obtain ⟨hle, hslot⟩ := List.mk_mem_zipIdx_iff_le_and_getElem?_sub.mp hmem
    obtain ⟨x, hthing, hpair⟩ := Option.map_eq_some_iff.mp hentry
    simp only at hthing hpair
    subst hthing
    obtain ⟨rfl, rfl⟩ := Prod.mk.inj hpair
    exact ⟨k - i, hslot, by rw [Nat.add_sub_cancel' hle]⟩
  · rintro ⟨j, hslot, hindex⟩
    refine ⟨(⟨h.generation, some t⟩, i + j), ?_, ?_⟩
    · exact List.mk_add_mem_zipIdx_iff_getElem?.mpr hslot
    · simp only [Option.map_some, ← hindex]

/-- The things are listed by ascending slot. -/
lemma ascending_entriesFrom {i : Nat} {slots : List Slot} (hsize : i + slots.length ≤ 2 ^ 32) :
    (entriesFrom i slots).Pairwise fun a b => a.1.index < b.1.index := by
  induction slots generalizing i with
  | nil => exact List.Pairwise.nil
  | cons slot slots ih =>
    obtain ⟨g, thing⟩ := slot
    rw [List.length_cons] at hsize
    have hrest := ih (i := i + 1) (by omega)
    cases thing with
    | none => exact hrest
    | some t =>
      refine List.pairwise_cons.mpr ⟨?_, hrest⟩
      rintro ⟨h, t'⟩ hmem
      obtain ⟨j, hj, hindex⟩ := mem_entriesFrom.mp hmem
      have hlt := (List.getElem?_eq_some_iff.mp hj).1
      rw [UInt32.lt_iff_toNat_lt, hindex,
        UInt32.toNat_ofNat_of_lt' (by simp only [UInt32.size]; omega),
        UInt32.toNat_ofNat_of_lt' (by simp only [UInt32.size]; omega)]
      omega

lemma mem_entries_iff (hsize : p.slots.size ≤ 2 ^ 32) {h : Handle} {t : Thing} :
    (h, t) ∈ p.entries ↔ p.get? h = some t := by
  rw [get?_eq_some_iff]
  refine mem_entriesFrom.trans ?_
  simp only [Array.getElem?_toList, Nat.zero_add]
  constructor
  · rintro ⟨j, hj, hindex⟩
    have hlt := (Array.getElem?_eq_some_iff.mp hj).1
    rwa [hindex, UInt32.toNat_ofNat_of_lt' (by simp only [UInt32.size]; omega)]
  · intro hslot
    exact ⟨h.index.toNat, hslot, UInt32.ofNat_toNat.symm⟩

lemma ascending_entries (hsize : p.slots.size ≤ 2 ^ 32) :
    p.entries.Pairwise fun a b => a.1.index < b.1.index := by
  apply ascending_entriesFrom
  rwa [Nat.zero_add, Array.length_toList]

lemma length_entries (p : Population) : p.entries.length = p.slots.countP (·.thing.isSome) := by
  rw [← Array.countP_toList]
  exact length_entriesFrom 0 p.slots.toList

/-! Going through the things -/

/-- One turn of a loop over things, each of which is reached through its handle. -/
def turn {σ : Type} (f : σ → Handle → Thing → σ × Thing) (r : σ × Population)
    (entry : Handle × Thing) : σ × Population :=
  let (s, t) := f r.1 entry.1 entry.2
  (s, r.2.modify entry.1 fun _ => t)

lemma toList_modify {pre post : List Slot} {h : Handle} {t : Thing}
    (hslots : p.slots.toList = pre ++ ⟨h.generation, some t⟩ :: post)
    (hi : h.index.toNat = pre.length) (f : Thing → Thing) :
    (p.modify h f).slots.toList = pre ++ ⟨h.generation, some (f t)⟩ :: post := by
  rw [modify, Array.toList_modify, hslots, hi, List.modify_eq_take_drop, List.take_left,
    List.drop_left, List.modifyHead_cons, if_pos rfl, Option.map_some]

/-- Going through the slots from some place on is a loop over the things in them. -/
lemma foldl_turn {σ : Type} (f : σ → Handle → Thing → σ × Thing) (s : σ) (pre : List Slot)
    {post : List Slot} (hslots : p.slots.toList = pre ++ post) (hsize : p.slots.size ≤ 2 ^ 32) :
    let loop := (entriesFrom pre.length post).foldl (turn f) (s, p)
    let walk := visitSlots f s pre.length post
    loop.1 = walk.1 ∧ loop.2.slots.toList = pre ++ walk.2 ∧
      loop.2.vacant = p.vacant ∧ loop.2.alive = p.alive := by
  induction post generalizing pre s p with
  | nil => exact ⟨rfl, hslots, rfl, rfl⟩
  | cons slot post ih =>
    obtain ⟨g, thing⟩ := slot
    cases thing with
    | none =>
      have hnext := ih s (pre ++ [⟨g, none⟩]) (by simpa using hslots) hsize
      simpa [entriesFrom_cons_none, visitSlots] using hnext
    | some t =>
      have hlen : pre.length < UInt32.size := by
        have hlength := congrArg List.length hslots
        simp only [Array.length_toList, List.length_append, List.length_cons] at hlength
        simp only [UInt32.size]
        omega
      have hindex : (UInt32.ofNat pre.length).toNat = pre.length := UInt32.toNat_ofNat_of_lt' hlen
      generalize hedit : f s ⟨UInt32.ofNat pre.length, g⟩ t = edit
      obtain ⟨s', t'⟩ := edit
      have hafter := toList_modify (h := ⟨UInt32.ofNat pre.length, g⟩) hslots hindex fun _ => t'
      have hnext := ih s' (p := p.modify ⟨UInt32.ofNat pre.length, g⟩ fun _ => t')
        (pre ++ [⟨g, some t'⟩]) (by simpa using hafter) (by simpa [modify] using hsize)
      simpa [entriesFrom_cons_some, visitSlots, turn, hedit, modify] using hnext

/-- To go through the things by ascending slot and edit each is to loop over the entries, in their
order, and to reach each thing through its handle. -/
theorem visit_eq_foldl {σ : Type} (hsize : p.slots.size ≤ 2 ^ 32)
    (f : σ → Handle → Thing → σ × Thing) (s : σ) :
    p.visit f s = p.entries.foldl (turn f) (s, p) := by
  obtain ⟨hstate, hslots, hvacant, halive⟩ := foldl_turn f s [] (List.nil_append _).symm hsize
  refine Prod.ext hstate.symm (eq_of_slots ?_ hvacant.symm halive.symm)
  intro i
  rw [← Array.getElem?_toList, ← Array.getElem?_toList]
  exact congrArg (·[i]?) hslots.symm

end Population

/-- What is done to a population from outside. A thing that is edited is reached through its
handle. -/
inductive Deed where
  | spawn (t : Thing)
  | despawn (h : Handle)
  | edit (h : Handle) (f : Thing → Thing)

def Deed.isSpawn : Deed → Bool
  | spawn _ => true
  | _ => false

def Population.act (p : Population) : Deed → Population
  | .spawn t => (p.spawn t).2
  | .despawn h => (p.despawn h).value.2
  | .edit h f => p.modify h f

/-- The handles given out so far, the last one first, and what lives under each handle. -/
structure Census where
  given : List Handle
  living : Handle → Option Thing

namespace Census

def empty : Census where
  given := []
  living := fun _ => none

/-- What a deed does to a census. All that it learns from the population is the handle that a spawn
gives out. -/
def note (c : Census) (p : Population) : Deed → Census
  | .spawn t =>
    { given := (p.spawn t).1 :: c.given
      living := Function.update c.living (p.spawn t).1 (some t) }
  | .despawn h => { c with living := Function.update c.living h none }
  | .edit h f => { c with living := Function.update c.living h ((c.living h).map f) }

/-- How many of the handles given out are those of living things. -/
def size (c : Census) : Nat :=
  c.given.countP fun h => (c.living h).isSome

end Census

/-- A population answers as a census does. -/
structure Population.AnswersAs (p : Population) (c : Census) : Prop where
  spawn_new : ∀ t, (p.spawn t).1 ∉ c.given
  get?_eq : ∀ h, p.get? h = c.living h
  given : ∀ h, (c.living h).isSome → h ∈ c.given
  despawn_eq : ∀ h, (p.despawn h).value.1 = c.living h
  despawn_dead : ∀ h, c.living h = none → (p.despawn h).value.2 = p
  edit_dead : ∀ h f, c.living h = none → p.modify h f = p
  alive_eq : p.alive = c.size
  mem_entries : ∀ h t, (h, t) ∈ p.entries ↔ c.living h = some t
  ascending : p.entries.Pairwise fun a b => a.1.index < b.1.index
  visit_eq : ∀ (σ : Type) (f : σ → Handle → Thing → σ × Thing) (s : σ),
    p.visit f s = p.entries.foldl (turn f) (s, p)

/-- A population with the census that is kept of it. -/
structure Town where
  people : Population
  census : Census

namespace Town

def start : Town where
  people := .empty
  census := .empty

def step (w : Town) (d : Deed) : Town where
  people := w.people.act d
  census := w.census.note w.people d

def run (w : Town) (deeds : List Deed) : Town :=
  deeds.foldl step w

/-- What holds after `n` spawns. -/
structure Sound (w : Town) (n : Nat) : Prop where
  people : w.people.Sound n
  nodup : w.census.given.Nodup
  issued : ∀ h ∈ w.census.given, w.people.Issued h
  get?_eq : ∀ h, w.people.get? h = w.census.living h
  given : ∀ h, (w.census.living h).isSome → h ∈ w.census.given

lemma sound_start : start.Sound 0 where
  people := Population.sound_empty
  nodup := List.nodup_nil
  issued h hh := by cases hh
  get?_eq h := Population.get?_empty h
  given h hh := by cases hh

lemma living_spawn (w : Town) (t : Thing) (h : Handle) :
    (w.step (.spawn t)).census.living h =
      if h = (w.people.spawn t).1 then some t else w.census.living h :=
  Function.update_apply ..

lemma living_despawn (w : Town) (k h : Handle) :
    (w.step (.despawn k)).census.living h = if h = k then none else w.census.living h :=
  Function.update_apply ..

lemma living_edit (w : Town) (k : Handle) (f : Thing → Thing) (h : Handle) :
    (w.step (.edit k f)).census.living h =
      if h = k then (w.census.living k).map f else w.census.living h :=
  Function.update_apply ..

variable {w : Town} {n : Nat}

lemma Sound.spawn_new (hw : w.Sound n) (hn : n < 2 ^ 32) (t : Thing) :
    (w.people.spawn t).1 ∉ w.census.given := by
  intro hgiven
  exact Population.not_issued_spawn hw.people hn t (hw.issued _ hgiven)

lemma Sound.spawn (hw : w.Sound n) (hn : n < 2 ^ 32) (t : Thing) :
    (w.step (.spawn t)).Sound (n + 1) where
  people := hw.people.spawn hn t
  nodup := List.nodup_cons.mpr ⟨hw.spawn_new hn t, hw.nodup⟩
  issued h hh := by
    rcases List.mem_cons.mp hh with rfl | hh
    · apply Population.issued_of_get? (t := t)
      exact (Population.get?_spawn hw.people hn t _).trans (if_pos rfl)
    · exact Population.issued_spawn hw.people hn t (hw.issued h hh)
  get?_eq h := by
    rw [living_spawn, ← hw.get?_eq]
    exact Population.get?_spawn hw.people hn t h
  given h hh := by
    rw [living_spawn] at hh
    split at hh
    · next hnew => exact List.mem_cons.mpr (.inl hnew)
    · exact List.mem_cons_of_mem _ (hw.given h hh)

lemma Sound.despawn (hw : w.Sound n) (hn : n < 2 ^ 32) (k : Handle) :
    (w.step (.despawn k)).Sound n where
  people := hw.people.despawn hn k
  nodup := hw.nodup
  issued h hh := Population.issued_despawn hw.people hn k (hw.issued h hh)
  get?_eq h := by
    rw [living_despawn, ← hw.get?_eq]
    exact Population.get?_despawn w.people k h
  given h hh := by
    rw [living_despawn] at hh
    split at hh
    · cases hh
    · exact hw.given h hh

lemma Sound.edit (hw : w.Sound n) (k : Handle) (f : Thing → Thing) :
    (w.step (.edit k f)).Sound n where
  people := hw.people.modify k f
  nodup := hw.nodup
  issued h hh := Population.issued_modify.mpr (hw.issued h hh)
  get?_eq h := by
    rw [living_edit, ← hw.get?_eq, ← hw.get?_eq]
    exact Population.get?_modify w.people k h f
  given h hh := by
    rw [living_edit] at hh
    split at hh
    · next hk =>
      rw [Option.isSome_map] at hh
      exact hw.given h (hk ▸ hh)
    · exact hw.given h hh

theorem Sound.step (hw : w.Sound n) (hn : n < 2 ^ 32) (d : Deed) :
    (w.step d).Sound (n + d.isSpawn.toNat) := by
  cases d with
  | spawn t => exact hw.spawn hn t
  | despawn k => exact hw.despawn hn k
  | edit k f => exact hw.edit k f

/-- Under a handle that was given out before nothing comes to life. -/
lemma Sound.dead_step (hw : w.Sound n) (hn : n < 2 ^ 32) {h : Handle} (hgiven : h ∈ w.census.given)
    (hdead : w.census.living h = none) (d : Deed) :
    h ∈ (w.step d).census.given ∧ (w.step d).census.living h = none := by
  cases d with
  | spawn t =>
    have hne : h ≠ (w.people.spawn t).1 := fun he => hw.spawn_new hn t (he ▸ hgiven)
    exact ⟨List.mem_cons_of_mem _ hgiven, by rw [living_spawn, if_neg hne, hdead]⟩
  | despawn k => exact ⟨hgiven, by rw [living_despawn, hdead, ite_self]⟩
  | edit k f =>
    refine ⟨hgiven, ?_⟩
    rw [living_edit]
    split
    · next hk => rw [← hk, hdead, Option.map_none]
    · exact hdead

/-- A run keeps the town sound. -/
theorem Sound.run (hw : w.Sound n) {deeds : List Deed}
    (hn : n + deeds.countP Deed.isSpawn < 2 ^ 32) :
    (w.run deeds).Sound (n + deeds.countP Deed.isSpawn) := by
  induction deeds generalizing w n with
  | nil => exact hw
  | cons d deeds ih =>
    rw [countP_cons_toNat, ← Nat.add_assoc] at hn ⊢
    exact ih (hw.step (by omega) d) hn

/-- A run does not bring back what is dead. -/
theorem Sound.dead_run (hw : w.Sound n) {deeds : List Deed}
    (hn : n + deeds.countP Deed.isSpawn < 2 ^ 32) {h : Handle} (hgiven : h ∈ w.census.given)
    (hdead : w.census.living h = none) : (w.run deeds).census.living h = none := by
  induction deeds generalizing w n with
  | nil => exact hdead
  | cons d deeds ih =>
    rw [countP_cons_toNat, ← Nat.add_assoc] at hn
    obtain ⟨hgiven', hdead'⟩ := hw.dead_step (by omega) hgiven hdead d
    exact ih (hw.step (by omega) d) hn hgiven' hdead'

/-- The slots are few enough to be numbered in 32 bits. -/
lemma Sound.size_slots_le (hw : w.Sound n) (hn : n < 2 ^ 32) : w.people.slots.size ≤ 2 ^ 32 :=
  Nat.le_trans hw.people.size_le (Nat.le_of_lt hn)

/-- The entries are those of the handles given out whose things live. -/
lemma Sound.perm_handles (hw : w.Sound n) (hn : n < 2 ^ 32) :
    (w.people.entries.map Prod.fst).Perm
      (w.census.given.filter fun h => (w.census.living h).isSome) := by
  have hsize := hw.size_slots_le hn
  have hnodup : (w.people.entries.map Prod.fst).Nodup := by
    refine List.pairwise_map.mpr ?_
    apply (Population.ascending_entries hsize).imp
    intro a b hlt heq
    rw [heq] at hlt
    exact absurd hlt (UInt32.lt_irrefl _)
  rw [List.perm_ext_iff_of_nodup hnodup (hw.nodup.filter _)]
  intro h
  rw [List.mem_filter, List.mem_map]
  constructor
  · rintro ⟨⟨k, t⟩, hmem, rfl⟩
    have hliving : (w.census.living k).isSome := by
      rw [← hw.get?_eq, (Population.mem_entries_iff hsize).mp hmem]
      rfl
    exact ⟨hw.given k hliving, hliving⟩
  · rintro ⟨-, hliving⟩
    obtain ⟨t, ht⟩ := Option.isSome_iff_exists.mp hliving
    exact ⟨(h, t), (Population.mem_entries_iff hsize).mpr ((hw.get?_eq h).trans ht), rfl⟩

lemma Sound.answersAs (hw : w.Sound n) (hn : n < 2 ^ 32) : w.people.AnswersAs w.census := by
  have hsize := hw.size_slots_le hn
  have hdead : ∀ h, w.census.living h = none → w.people.get? h = none := by
    intro h hh
    rw [hw.get?_eq, hh]
  refine ⟨hw.spawn_new hn, hw.get?_eq, hw.given, ?_, ?_, ?_, ?_, ?_, ?_, ?_⟩
  · intro h
    rw [Population.fst_despawn, hw.get?_eq]
  · intro h hh
    rw [Population.despawn_of_dead (hdead h hh)]
  · intro h f hh
    exact Population.modify_of_dead (hdead h hh) f
  · rw [Census.size, List.countP_eq_length_filter, ← (hw.perm_handles hn).length_eq,
      List.length_map, Population.length_entries]
    exact hw.people.alive_eq
  · intro h t
    rw [← hw.get?_eq]
    exact Population.mem_entries_iff hsize
  · exact Population.ascending_entries hsize
  · intro σ f s
    exact Population.visit_eq_foldl hsize f s

/-- A thing ends and its slot is used again, and the dead handle is tried on the new thing. -/
def reuse : List Deed :=
  [.spawn (.fresh .monster true ⟨1, 1⟩), .spawn (.fresh .fixed true ⟨5, 5⟩), .despawn ⟨0, .first⟩,
    .spawn (.fresh .npc true ⟨2, 2⟩), .edit ⟨0, .first⟩ Thing.leave, .despawn ⟨0, .first⟩]

end Town

/-- However things were spawned, ended and edited, on whatever handles, a population answers as a
map from handles to things: a spawn gives out a new handle, a handle leads to its thing until that
is ended and to nothing ever after, what is done to a dead handle changes nothing, the count is that
of the living, and to go through the things is to go through the living handles, each once, by
ascending slot. -/
theorem population_acts_as_map {deeds : List Deed} (hspawns : deeds.countP Deed.isSpawn < 2 ^ 32) :
    let w := Town.start.run deeds
    w.census.given.Nodup ∧ w.people.AnswersAs w.census ∧
      ∀ h ∈ w.census.given, w.people.get? h = none →
        ∀ more : List Deed, (deeds ++ more).countP Deed.isSpawn < 2 ^ 32 →
          (w.run more).people.get? h = none := by
  intro w
  have hw : w.Sound _ := Town.sound_start.run ((Nat.zero_add _).trans_lt hspawns)
  rw [Nat.zero_add] at hw
  refine ⟨hw.nodup, hw.answersAs hspawns, ?_⟩
  intro h hgiven hdead more hmore
  rw [List.countP_append] at hmore
  rw [hw.get?_eq] at hdead
  rw [(hw.run hmore).get?_eq, hw.dead_run hmore hgiven hdead]

theorem population_acts_as_map_reuse :
    Town.reuse.countP Deed.isSpawn < 2 ^ 32 ∧
      (Town.start.run Town.reuse).census.given =
        [⟨0, ⟨1⟩⟩, ⟨1, .first⟩, ⟨0, .first⟩] ∧
      (Town.start.run Town.reuse).people.get? ⟨0, ⟨1⟩⟩ = some (.fresh .npc true ⟨2, 2⟩) ∧
      (Town.start.run Town.reuse).people.alive = (Town.start.run Town.reuse).census.size ∧
      ((Town.start.run Town.reuse).run [.spawn (.fresh .npc true ⟨3, 3⟩)]).people.get?
        ⟨0, .first⟩ = none := by
  have hspawns : Town.reuse.countP Deed.isSpawn < 2 ^ 32 := by decide
  have hgiven : (Town.start.run Town.reuse).census.given =
      [⟨0, ⟨1⟩⟩, ⟨1, .first⟩, ⟨0, .first⟩] := by
    decide +kernel
  have hdead : (Town.start.run Town.reuse).people.get? ⟨0, .first⟩ = none := by decide +kernel
  obtain ⟨-, hanswers, hstays⟩ := population_acts_as_map hspawns
  refine ⟨hspawns, hgiven, by decide +kernel, hanswers.alive_eq, ?_⟩
  exact hstays _ (by rw [hgiven]; decide) hdead _ (by decide)

end Whereabouts
