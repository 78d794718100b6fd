import Mathlib.Logic.Equiv.Basic
import Mathlib.Data.Finset.Card
import Whereabouts.Proofs.ZoneBags

/-!
# Places in a zone

Letting a thing in or out shifts nothing. Each is a chain of swaps, so it carries what stands at a
place to another place by a permutation of the places, and out of its own place only what stands
where one part borders on the next or where the thing that leaves stood. What is carried off stays
in its part of the array.
-/

namespace Whereabouts

/-- A swap carries what stands at a place to where the two places are exchanged. -/
lemma getElem?_swap_swap {α : Type} {xs : Array α} {i j : Nat} (hi : i < xs.size)
    (hj : j < xs.size) (k : Nat) : (xs.swap i j hi hj)[Equiv.swap i j k]? = xs[k]? := by
  by_cases hki : k = i
  · subst hki
    rw [Equiv.swap_apply_left, Array.getElem?_swap, Array.getElem?_eq_getElem hi, if_pos rfl]
  · by_cases hkj : k = j
    · subst hkj
      rw [Equiv.swap_apply_right, Array.getElem?_swap, if_neg hki, if_pos rfl,
        Array.getElem?_eq_getElem hj]
    · rw [Equiv.swap_apply_of_ne_of_ne hki hkj, Array.getElem?_swap, if_neg (Ne.symm hkj),
        if_neg (Ne.symm hki)]

namespace Zone

/-- Where a part ends in the array. -/
def stop (z : Zone) : Part → Nat
  | .characters => z.characters
  | .others => z.moving
  | .fixed => z.size

/-- The place is in this part of the array. -/
def InPart (z : Zone) (p : Part) (i : Nat) : Prop :=
  z.start p ≤ i ∧ i < z.stop p

instance (z : Zone) (p : Part) (i : Nat) : Decidable (z.InPart p i) :=
  inferInstanceAs (Decidable (_ ∧ _))

/-- The thing stands at a place of this part, and at none before it. -/
structure FirstAt (z : Zone) (p : Part) (t : Handle) (i : Nat) : Prop where
  inPart : z.InPart p i
  thing : z.things[i]? = some t
  before : ∀ j < i, z.InPart p j → z.things[j]? ≠ some t

/-- What stood at `i` stands at `j` now, in the part it stood in. -/
def Carries (z z' : Zone) (i j : Nat) : Prop :=
  z'.things[j]? = z.things[i]? ∧ ∀ p, z'.InPart p j ↔ z.InPart p i

variable (z : Zone)

lemma inPart_start_add (p : Part) (j : Nat) :
    z.InPart p (z.start p + j) ↔ j < (z.part p).length := by
  have hc := z.length_part_characters
  have hm := z.length_part_others
  have hs := z.length_part_fixed
  cases p with
  | characters => simp only [InPart, start, stop]; omega
  | others => simp only [InPart, start, stop]; omega
  | fixed => simp only [InPart, start, stop, size]; omega

lemma getElem?_start_add {p : Part} {j : Nat} (h : j < (z.part p).length) :
    z.things[z.start p + j]? = (z.part p)[j]? := by
  have hstop := ((z.inPart_start_add p j).mpr h).2
  rw [← Array.getElem?_toList]
  cases p with
  | characters =>
    simp only [start, stop, part] at *
    rw [List.getElem?_take_of_lt (by omega), Nat.zero_add]
  | others =>
    simp only [start, stop, part] at *
    rw [List.getElem?_drop, List.getElem?_take_of_lt hstop]
  | fixed => simp only [start, part, List.getElem?_drop]

lemma mem_part_iff (p : Part) (t : Handle) :
    t ∈ z.part p ↔ ∃ i, z.InPart p i ∧ z.things[i]? = some t := by
  constructor
  · intro ht
    obtain ⟨j, hj⟩ := List.mem_iff_getElem?.mp ht
    have hlt := (List.getElem?_eq_some_iff.mp hj).1
    exact ⟨z.start p + j, (z.inPart_start_add p j).mpr hlt, (z.getElem?_start_add hlt).trans hj⟩
  · rintro ⟨i, hi, ht⟩
    obtain ⟨j, rfl⟩ := Nat.exists_eq_add_of_le hi.1
    rw [z.getElem?_start_add ((z.inPart_start_add p j).mp hi)] at ht
    exact List.mem_of_getElem? ht

/-- A thing that is found is found at its first place in the part of its kind. -/
lemma firstAt_of_place? {t : Handle} {kind : Kind} {i : Nat} (h : z.place? t kind = some i) :
    z.FirstAt kind.part t i := by
  rcases z.place?_spec t kind with ⟨hnone, -⟩ | ⟨P, Q, hpart, hP, hsome⟩
  · rw [hnone] at h
    cases h
  · obtain rfl : z.start kind.part + P.length = i := Option.some.inj (hsome.symm.trans h)
    have hlt : P.length < (z.part kind.part).length := by
      simp [hpart]
    refine ⟨(z.inPart_start_add _ _).mpr hlt, ?_, ?_⟩
    · rw [z.getElem?_start_add hlt, hpart]
      simp
    · intro j hj hin ht
      obtain ⟨k, rfl⟩ := Nat.exists_eq_add_of_le hin.1
      have hk : k < P.length := Nat.lt_of_add_lt_add_left hj
      rw [z.getElem?_start_add (hk.trans hlt), hpart, List.getElem?_append_left hk] at ht
      exact hP (List.mem_of_getElem? ht)

/-! Letting a thing in. -/

/-- Where things go when one is let into this part: the first of each later part goes to its end,
and the new thing, which comes from behind the array, to the end of its own. -/
def entering : Part → Equiv.Perm Nat
  | .characters => (Equiv.swap z.moving z.size).trans (Equiv.swap z.characters z.moving)
  | .others => Equiv.swap z.moving z.size
  | .fixed => Equiv.refl Nat

lemma start_insert (t : Handle) (kind : Kind) (p : Part) :
    (z.insert t kind).start p =
      if kind.part.rank < p.rank then z.start p + 1 else z.start p := by
  cases kind <;> cases p <;> rfl

lemma stop_insert (t : Handle) (kind : Kind) (p : Part) :
    (z.insert t kind).stop p =
      if kind.part.rank ≤ p.rank then z.stop p + 1 else z.stop p := by
  cases kind <;> cases p <;>
    simp [insert, insertCharacter, insertOther, insertFixed, stop, size, Kind.part, Part.rank]

lemma getElem?_insert (t : Handle) (kind : Kind) (i : Nat) :
    (z.insert t kind).things[z.entering kind.part i]? = (z.things.push t)[i]? := by
  cases kind with
  | character =>
    simp only [insert, insertCharacter, entering, Kind.part, Equiv.trans_apply]
    rw [getElem?_swap_swap, size, getElem?_swap_swap]
  | monster =>
    simp only [insert, insertOther, entering, Kind.part, size]
    rw [getElem?_swap_swap]
  | npc =>
    simp only [insert, insertOther, entering, Kind.part, size]
    rw [getElem?_swap_swap]
  | fixed => rfl

lemma inPart_entering (t : Handle) (kind : Kind) (p : Part) {i : Nat} (hi : i < z.size) :
    (z.insert t kind).InPart p (z.entering kind.part i) ↔ z.InPart p i := by
  have hc := z.characters_le
  have hm : z.moving ≤ z.size := z.moving_le
  rw [InPart, InPart, start_insert, stop_insert]
  generalize kind.part = q
  cases q with
  | characters =>
    cases p <;>
      simp +decide only [entering, start, stop, Equiv.trans_apply, Equiv.swap_apply_def, if_true,
        if_false] <;>
      split_ifs <;> omega
  | others =>
    cases p <;>
      simp +decide only [entering, start, stop, Equiv.swap_apply_def, if_true, if_false] <;>
      split_ifs <;> omega
  | fixed =>
    cases p <;>
      simp +decide only [entering, start, stop, Equiv.refl_apply, if_true, if_false]
    omega

lemma inPart_entering_size (t : Handle) (kind : Kind) :
    (z.insert t kind).InPart kind.part (z.entering kind.part z.size) := by
  have hc := z.characters_le
  have hm : z.moving ≤ z.size := z.moving_le
  rw [InPart, start_insert, stop_insert, if_neg (Nat.lt_irrefl _), if_pos (Nat.le_refl _)]
  cases kind.part with
  | characters =>
    simp only [entering, start, stop, Equiv.trans_apply, Equiv.swap_apply_right]
    omega
  | others =>
    simp only [entering, start, stop, Equiv.swap_apply_right]
    omega
  | fixed =>
    simp only [entering, start, stop, Equiv.refl_apply]
    omega

lemma entering_eq_self (q : Part) {i : Nat} (hi : i < z.size)
    (hmoved : i ∉ ({z.characters, z.moving} : Finset Nat)) : z.entering q i = i := by
  simp only [Finset.mem_insert, Finset.mem_singleton, not_or] at hmoved
  have hsize : i ≠ z.size := Nat.ne_of_lt hi
  cases q with
  | characters =>
    rw [entering, Equiv.trans_apply, Equiv.swap_apply_of_ne_of_ne hmoved.2 hsize,
      Equiv.swap_apply_of_ne_of_ne hmoved.1 hmoved.2]
  | others => exact Equiv.swap_apply_of_ne_of_ne hmoved.2 hsize
  | fixed => rfl

/-! Letting a thing out. -/

/-- Where things go when the one at `k` is let out of this part: it goes behind the array, the last
of its own part to where it stood, and the last of each later part to where that part began. -/
def leaving (k : Nat) : Part → Equiv.Perm Nat
  | .characters =>
    ((Equiv.swap k (z.characters - 1)).trans (Equiv.swap (z.characters - 1) (z.moving - 1))).trans
      (Equiv.swap (z.moving - 1) (z.size - 1))
  | .others => (Equiv.swap k (z.moving - 1)).trans (Equiv.swap (z.moving - 1) (z.size - 1))
  | .fixed => Equiv.swap k (z.size - 1)

variable {z} {p : Part} {k : Nat}

lemma InPart.lt_size (h : z.InPart p k) : k < z.size := by
  have hc := z.characters_le
  have hm : z.moving ≤ z.size := z.moving_le
  cases p with
  | characters => exact h.2.trans_le (hc.trans hm)
  | others => exact h.2.trans_le hm
  | fixed => exact h.2

/-- What is done to a zone to let a thing out depends on the part it stands in. -/
lemma InPart.counters_eraseAt (h : z.InPart p k) :
    (z.eraseAt k).characters = (if p = .characters then z.characters - 1 else z.characters) ∧
      (z.eraseAt k).moving = (if p = .fixed then z.moving else z.moving - 1) ∧
      (z.eraseAt k).size = z.size - 1 := by
  have hc := z.characters_le
  obtain ⟨hge, hlt⟩ := h
  cases p with
  | characters =>
    change k < z.characters at hlt
    simp [eraseAt, hlt, size]
  | others =>
    change z.characters ≤ k at hge
    change k < z.moving at hlt
    simp [eraseAt, Nat.not_lt.mpr hge, hlt, size]
  | fixed =>
    change z.moving ≤ k at hge
    change k < z.things.size at hlt
    simp [eraseAt, Nat.not_lt.mpr hge, Nat.not_lt.mpr (hc.trans hge), hlt, size]

lemma start_eraseAt (h : z.InPart p k) (q : Part) :
    (z.eraseAt k).start q = if p.rank < q.rank then z.start q - 1 else z.start q := by
  obtain ⟨hcharacters, hmoving, -⟩ := h.counters_eraseAt
  cases p <;> cases q <;> simp [start, Part.rank, hcharacters, hmoving]

lemma stop_eraseAt (h : z.InPart p k) (q : Part) :
    (z.eraseAt k).stop q = if p.rank ≤ q.rank then z.stop q - 1 else z.stop q := by
  obtain ⟨hcharacters, hmoving, hsize⟩ := h.counters_eraseAt
  cases p <;> cases q <;> simp [stop, Part.rank, hcharacters, hmoving, hsize]

lemma inPart_leaving (h : z.InPart p k) (q : Part) {i : Nat} (hi : i < z.size) (hik : i ≠ k) :
    (z.eraseAt k).InPart q (z.leaving k p i) ↔ z.InPart q i := by
  have hc := z.characters_le
  have hm : z.moving ≤ z.size := z.moving_le
  rw [InPart, InPart, start_eraseAt h, stop_eraseAt h]
  obtain ⟨hge, hlt⟩ := h
  cases p with
  | characters =>
    simp only [start, stop] at hge hlt
    cases q <;>
      simp +decide only [leaving, start, stop, Equiv.trans_apply, Equiv.swap_apply_def, if_true,
        if_false] <;>
      split_ifs <;> omega
  | others =>
    simp only [start, stop] at hge hlt
    cases q <;>
      simp +decide only [leaving, start, stop, Equiv.trans_apply, Equiv.swap_apply_def, if_true,
        if_false] <;>
      split_ifs <;> omega
  | fixed =>
    simp only [start, stop] at hge hlt
    cases q <;>
      simp +decide only [leaving, start, stop, Equiv.swap_apply_def, if_true, if_false] <;>
      split_ifs <;> omega

/-- What stays in the zone is carried to a place in it. -/
lemma leaving_lt (h : z.InPart p k) {i : Nat} (hi : i < z.size) (hik : i ≠ k) :
    z.leaving k p i < z.size - 1 := by
  have hc := z.characters_le
  have hm : z.moving ≤ z.size := z.moving_le
  obtain ⟨hge, hlt⟩ := h
  cases p with
  | characters =>
    simp only [leaving, start, stop, Equiv.trans_apply, Equiv.swap_apply_def] at *
    split_ifs <;> omega
  | others =>
    simp only [leaving, start, stop, Equiv.trans_apply, Equiv.swap_apply_def] at *
    split_ifs <;> omega
  | fixed =>
    simp only [leaving, start, stop, Equiv.swap_apply_def] at *
    split_ifs <;> omega

lemma getElem?_eraseAt (h : z.InPart p k) {i : Nat} (hi : i < z.size) (hik : i ≠ k) :
    (z.eraseAt k).things[z.leaving k p i]? = z.things[i]? := by
  have hc := z.characters_le
  have hplace : z.leaving k p i < z.things.size - 1 := leaving_lt h hi hik
  obtain ⟨hge, hlt⟩ := h
  cases p with
  | characters =>
    change k < z.characters at hlt
    simp only [eraseAt, dif_pos hlt]
    rw [Array.getElem?_pop, if_pos (by simpa using hplace)]
    simp only [leaving, Equiv.trans_apply, size]
    rw [getElem?_swap_swap, getElem?_swap_swap, getElem?_swap_swap]
  | others =>
    change z.characters ≤ k at hge
    change k < z.moving at hlt
    simp only [eraseAt, dif_neg (Nat.not_lt.mpr hge), dif_pos hlt]
    rw [Array.getElem?_pop, if_pos (by simpa using hplace)]
    simp only [leaving, Equiv.trans_apply, size]
    rw [getElem?_swap_swap, getElem?_swap_swap]
  | fixed =>
    change z.moving ≤ k at hge
    change k < z.things.size at hlt
    simp only [eraseAt, dif_neg (Nat.not_lt.mpr (hc.trans hge)), dif_neg (Nat.not_lt.mpr hge),
      dif_pos hlt]
    rw [Array.getElem?_pop, if_pos (by simpa using hplace)]
    simp only [leaving, size]
    rw [getElem?_swap_swap]

lemma leaving_eq_self (p : Part) {i : Nat} (hi : i < z.size - 1)
    (hmoved : i ∉ ({k, z.characters - 1, z.moving - 1} : Finset Nat)) : z.leaving k p i = i := by
  simp only [Finset.mem_insert, Finset.mem_singleton, not_or] at hmoved
  obtain ⟨hik, hic, him⟩ := hmoved
  have hsize : i ≠ z.size - 1 := Nat.ne_of_lt hi
  cases p with
  | characters =>
    rw [leaving, Equiv.trans_apply, Equiv.trans_apply, Equiv.swap_apply_of_ne_of_ne hik hic,
      Equiv.swap_apply_of_ne_of_ne hic him, Equiv.swap_apply_of_ne_of_ne him hsize]
  | others =>
    rw [leaving, Equiv.trans_apply, Equiv.swap_apply_of_ne_of_ne hik him,
      Equiv.swap_apply_of_ne_of_ne him hsize]
  | fixed => exact Equiv.swap_apply_of_ne_of_ne hik hsize

end Zone

open Finset in
/-- Letting a thing in carries the things of a zone, by a permutation of the places, to places of
the part they stand in, and puts the new one into the part of its kind. At most two of the places
held before do not hold what they held. Letting one out takes it from its first place in the part
of its kind and carries the others to places of their parts, and at most three of the places that
are left do not hold what they held. -/
theorem relocations_stay_within_parts (z : Zone) (t : Handle) (kind : Kind) :
    (let z' := z.insert t kind
      ∃ σ : Equiv.Perm Nat, ∃ moved : Finset Nat, (#moved) ≤ 2 ∧
        z'.size = z.size + 1 ∧
        (∀ i < z.size, i ∉ moved → σ i = i ∧ z'.things[i]? = z.things[i]?) ∧
        (∀ i < z.size, z.Carries z' i (σ i)) ∧
        z'.things[σ z.size]? = some t ∧ z'.InPart kind.part (σ z.size)) ∧
    ((z.erase t kind).value.1 = true ↔ ∃ i, z.InPart kind.part i ∧ z.things[i]? = some t) ∧
    ((z.erase t kind).value.1 = true →
      let z' := (z.erase t kind).value.2
      ∃ σ : Equiv.Perm Nat, ∃ moved : Finset Nat, (#moved) ≤ 3 ∧
        z'.size + 1 = z.size ∧
        (∀ i < z'.size, i ∉ moved → σ i = i ∧ z'.things[i]? = z.things[i]?) ∧
        ∃ k, z.FirstAt kind.part t k ∧ ∀ i < z.size, i ≠ k → z.Carries z' i (σ i)) := by
  refine ⟨?_, ?_, ?_⟩
  · intro z'
    have hcarries : ∀ i < z.size, z.Carries z' i (z.entering kind.part i) := by
      intro i hi
      refine ⟨?_, fun p => z.inPart_entering t kind p hi⟩
      rw [z.getElem?_insert, Array.getElem?_push]
      exact if_neg (Nat.ne_of_lt hi)
    refine ⟨z.entering kind.part, {z.characters, z.moving}, card_le_two, ?_, ?_, hcarries, ?_, ?_⟩
    · exact (z.stop_insert t kind .fixed).trans (if_pos (by cases kind <;> decide))
    · intro i hi hmoved
      have hself := z.entering_eq_self kind.part hi hmoved
      have hthing := (hcarries i hi).1
      rw [hself] at hthing
      exact ⟨hself, hthing⟩
    · rw [z.getElem?_insert, Array.getElem?_push]
      exact if_pos rfl
    · exact z.inPart_entering_size t kind
  · rw [z.erase_eq_true_iff, z.mem_part_iff]
  · intro herase z'
    obtain ⟨k, hplace⟩ := Zone.place?_isSome ((z.erase_eq_true_iff t kind).mp herase)
    have hfirst := z.firstAt_of_place? hplace
    have hk := hfirst.inPart
    have hz' : z' = z.eraseAt k := by
      simp only [z', Zone.erase_of_place? hplace]
    have hsize : z'.size = z.size - 1 := hz' ▸ hk.counters_eraseAt.2.2
    have hlt := hk.lt_size
    have hcarries : ∀ i < z.size, i ≠ k → z.Carries z' i (z.leaving k kind.part i) := by
      intro i hi hik
      rw [hz']
      exact ⟨Zone.getElem?_eraseAt hk hi hik, fun p => Zone.inPart_leaving hk p hi hik⟩
    refine ⟨z.leaving k kind.part, {k, z.characters - 1, z.moving - 1}, card_le_three, ?_, ?_, k,
      hfirst, hcarries⟩
    · omega
    · intro i hi hmoved
      have hik : i ≠ k := fun hik => hmoved (hik ▸ mem_insert_self _ _)
      have hself := Zone.leaving_eq_self kind.part (hsize ▸ hi) hmoved
      have hthing := (hcarries i (by omega) hik).1
      rw [hself] at hthing
      exact ⟨hself, hthing⟩

end Whereabouts
