import Mathlib.Algebra.Order.Ring.Nat
import Whereabouts.PublicId.Block

/-!
# Blocks of public ids

A block says in three ways which of its slots are free: by a bit, by the lack of a holder and by a
count of them all. `IdBlock.Sound` is their agreement; taking a free slot and vacating a taken one
keep it, and the search for a free slot finds one unless there is none.
-/

namespace Whereabouts

namespace IdBlock

/-- The bits, the holders and the count agree. -/
structure Sound (b : IdBlock) : Prop where
  isFree_iff : ∀ s, b.isFree s = true ↔ b.holder s = none
  free_eq : b.free = b.holders.count none

lemma toBitVec_maskOf (s : UInt8) : (maskOf s).toBitVec = BitVec.twoPow 64 (s.toNat % 64) := by
  apply BitVec.eq_of_toNat_eq
  simp [maskOf, BitVec.toNat_twoPow, Nat.shiftLeft_eq]

/-- A slot is free when its bit is set. -/
lemma isFree_eq_getLsbD (b : IdBlock) (s : UInt8) (hw : (wordOf s).val < 4) :
    b.isFree s = (b.words[(wordOf s).val]).toBitVec.getLsbD (s.toNat % 64) := by
  have hlt : s.toNat % 64 < 64 := Nat.mod_lt _ (by decide)
  have hne : BitVec.twoPow 64 (s.toNat % 64) ≠ 0#64 := by
    intro h
    have hbit := congrArg (fun v => v.getLsbD (s.toNat % 64)) h
    simp [hlt] at hbit
  rw [isFree, Bool.eq_iff_iff, bne_iff_ne, ne_eq, ← UInt64.toBitVec_inj, UInt64.toBitVec_and,
    toBitVec_maskOf, BitVec.and_twoPow, Fin.getElem_fin]
  cases (b.words[(wordOf s).val]).toBitVec.getLsbD (s.toNat % 64) with
  | false => simp
  | true => simpa using hne

lemma eq_of_wordOf_eq {s s' : UInt8} (hw : wordOf s = wordOf s')
    (hm : s.toNat % 64 = s'.toNat % 64) : s = s' := by
  apply UInt8.toNat_inj.mp
  have hdiv : s.toNat / 64 = s'.toNat / 64 := congrArg Fin.val hw
  omega

lemma isFree_take (b : IdBlock) (s : UInt8) (t : Handle) (s' : UInt8) :
    (b.take s t).isFree s' = (b.isFree s' && s' != s) := by
  have hlt : s'.toNat % 64 < 64 := Nat.mod_lt _ (by decide)
  rw [isFree_eq_getLsbD _ s' (wordOf s').isLt, isFree_eq_getLsbD _ s' (wordOf s').isLt]
  by_cases hw : wordOf s = wordOf s'
  · have hne : (s' != s) = !decide (s'.toNat % 64 = s.toNat % 64) := by
      rw [Bool.eq_iff_iff, bne_iff_ne, Bool.not_eq_true', decide_eq_false_iff_not]
      exact not_congr ⟨fun h => by rw [h], fun h => eq_of_wordOf_eq hw.symm h⟩
    simp [take, hw, toBitVec_maskOf, hlt, hne]
  · have hne : s' ≠ s := fun h => hw (by rw [h])
    have hval : (wordOf s).val ≠ (wordOf s').val := fun h => hw (Fin.ext h)
    simp [take, hne, Vector.getElem_set_ne, hval]

lemma isFree_vacate (b : IdBlock) (s s' : UInt8) :
    (b.vacate s).isFree s' = (b.isFree s' || s' == s) := by
  have hlt : s.toNat % 64 < 64 := Nat.mod_lt _ (by decide)
  rw [isFree_eq_getLsbD _ s' (wordOf s').isLt, isFree_eq_getLsbD _ s' (wordOf s').isLt]
  by_cases hw : wordOf s = wordOf s'
  · have heq : (s' == s) = decide (s.toNat % 64 = s'.toNat % 64) := by
      rw [Bool.eq_iff_iff, beq_iff_eq, decide_eq_true_iff]
      exact ⟨fun h => by rw [h], fun h => (eq_of_wordOf_eq hw h).symm⟩
    simp [vacate, hw, toBitVec_maskOf, BitVec.getLsbD_twoPow, hlt, heq]
  · have hne : s' ≠ s := fun h => hw (by rw [h])
    have hval : (wordOf s).val ≠ (wordOf s').val := fun h => hw (Fin.ext h)
    simp [vacate, hne, Vector.getElem_set_ne, hval]

lemma holder_eq_getElem (b : IdBlock) (s : UInt8) (hs : s.toNat < 256) :
    b.holder s = b.holders[s.toNat] := rfl

lemma holder_take (b : IdBlock) (s : UInt8) (t : Handle) (s' : UInt8) :
    (b.take s t).holder s' = if s' = s then some t else b.holder s' := by
  rw [holder_eq_getElem _ s' s'.toNat_lt, holder_eq_getElem _ s' s'.toNat_lt]
  simp only [take, Vector.getElem_set, UInt8.toNat_inj, eq_comm (a := s)]

lemma holder_vacate (b : IdBlock) (s s' : UInt8) :
    (b.vacate s).holder s' = if s' = s then none else b.holder s' := by
  rw [holder_eq_getElem _ s' s'.toNat_lt, holder_eq_getElem _ s' s'.toNat_lt]
  simp only [vacate, Vector.getElem_set, UInt8.toNat_inj, eq_comm (a := s)]

lemma sound_empty : empty.Sound where
  isFree_iff s := by
    have hlt : s.toNat % 64 < 64 := Nat.mod_lt _ (by decide)
    have hones : (UInt64.ofNat (UInt64.size - 1)).toBitVec = BitVec.allOnes 64 := rfl
    rw [isFree_eq_getLsbD _ s (wordOf s).isLt, holder_eq_getElem _ s s.toNat_lt]
    simp only [empty, Vector.getElem_replicate, hones, BitVec.getLsbD_allOnes,
      hlt, decide_true]
  free_eq := by simp [empty, size]

theorem Sound.take {b : IdBlock} (hb : b.Sound) {s : UInt8} (hs : b.isFree s) (t : Handle) :
    (b.take s t).Sound where
  isFree_iff s' := by
    rw [isFree_take, holder_take, Bool.and_eq_true, bne_iff_ne, hb.isFree_iff]
    by_cases h : s' = s
    · simp [h]
    · simp [h]
  free_eq := by
    have hold := (hb.isFree_iff s).mp hs
    rw [holder_eq_getElem b s s.toNat_lt] at hold
    simp only [IdBlock.take, Vector.count_set, hold, hb.free_eq]
    simp

theorem Sound.vacate {b : IdBlock} (hb : b.Sound) {s : UInt8} (hs : b.isFree s = false) :
    (b.vacate s).Sound where
  isFree_iff s' := by
    rw [isFree_vacate, holder_vacate, Bool.or_eq_true, beq_iff_eq, hb.isFree_iff]
    by_cases h : s' = s
    · simp [h]
    · simp [h]
  free_eq := by
    have hold : b.holder s ≠ none := by
      rw [ne_eq, ← hb.isFree_iff, hs]
      exact Bool.false_ne_true
    rw [holder_eq_getElem b s s.toNat_lt] at hold
    simp only [IdBlock.vacate, Vector.count_set, hb.free_eq]
    simp [hold]

lemma Sound.free_le {b : IdBlock} (hb : b.Sound) : b.free ≤ size := by
  rw [hb.free_eq]
  exact Vector.count_le_size

lemma Sound.free_pos {b : IdBlock} (hb : b.Sound) {s : UInt8} (hs : b.isFree s) : 0 < b.free := by
  have hnone := (hb.isFree_iff s).mp hs
  rw [holder_eq_getElem b s s.toNat_lt] at hnone
  rw [hb.free_eq, Vector.count_pos_iff, ← hnone]
  exact Vector.getElem_mem _

lemma Sound.free_lt {b : IdBlock} (hb : b.Sound) {s : UInt8} (hs : b.isFree s = false) :
    b.free < size :=
  (hb.vacate hs).free_le

lemma isFree_of_candidate? {b : IdBlock} {s : UInt8} (h : b.candidate? = some s) : b.isFree s := by
  unfold candidate? at h
  split at h
  · cases h
  · split at h
    · next hfree => exact Option.some.inj h ▸ hfree
    · obtain ⟨i, -, hi⟩ := List.exists_of_findSome?_eq_some h
      exact List.find?_some hi

lemma mem_slotsOf (s : UInt8) : s ∈ slotsOf (s.toNat / 64) := by
  rw [slotsOf, List.mem_map]
  refine ⟨s.toNat, ?_, UInt8.ofNat_toNat⟩
  rw [List.mem_range'_1]
  omega

/-- A scan comes past every word, so it does not miss a free slot. -/
lemma exists_scan {b : IdBlock} {s : UInt8} (hs : b.isFree s) (start : Nat) :
    ∃ s', b.scan start = some s' := by
  have hword : s.toNat / 64 < 4 := Nat.div_lt_of_lt_mul s.toNat_lt
  have hround : (start + (s.toNat / 64 + 4 - start % 4) % 4) % 4 = s.toNat / 64 := by omega
  rw [← Option.isSome_iff_exists, scan, List.findSome?_isSome_iff]
  refine ⟨(s.toNat / 64 + 4 - start % 4) % 4, List.mem_range.mpr (by omega), ?_⟩
  rw [hround, List.find?_isSome]
  exact ⟨s, mem_slotsOf s, hs⟩

/-- As long as the count is not zero some slot is free. -/
lemma Sound.exists_isFree {b : IdBlock} (hb : b.Sound) (h : b.free ≠ 0) : ∃ s, b.isFree s := by
  rw [hb.free_eq, ← Nat.pos_iff_ne_zero, Vector.count_pos_iff, Vector.mem_iff_getElem] at h
  obtain ⟨i, hi, hnone⟩ := h
  have hslot : (UInt8.ofNat i).toNat = i := UInt8.toNat_ofNat_of_lt' hi
  refine ⟨UInt8.ofNat i, (hb.isFree_iff _).mpr ?_⟩
  rw [holder_eq_getElem b _ (UInt8.ofNat i).toNat_lt]
  simp only [hslot, hnone]

/-- A block gives out a slot unless none is free. -/
lemma Sound.candidate?_eq_none_iff {b : IdBlock} (hb : b.Sound) :
    b.candidate? = none ↔ ∀ s, b.isFree s = false := by
  constructor
  · intro h s
    rw [← Bool.not_eq_true]
    intro hs
    have hpos := hb.free_pos hs
    unfold candidate? at h
    rw [if_neg (by simp [isFull]; omega)] at h
    split at h
    · cases h
    · obtain ⟨s', hs'⟩ := exists_scan hs (b.hint.toNat / 64)
      rw [hs'] at h
      cases h
  · intro h
    cases hc : b.candidate? with
    | none => rfl
    | some s =>
      have hs := isFree_of_candidate? hc
      rw [h s] at hs
      cases hs

end IdBlock

end Whereabouts
