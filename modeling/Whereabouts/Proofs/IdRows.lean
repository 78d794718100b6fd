import Mathlib.Algebra.BigOperators.Fin
import Whereabouts.Proofs.IdPools

/-!
# A block as a row of places

To its callers a block is a row of 256 places, each of them empty or with a thing in it, and the
place to try first. However grants and releases follow each other, releases of empty places among
them, the bits, the holders and the count of a block tell of its slots what the row has in its
places, and the block gives out the slot that is next in the row.
-/

namespace Whereabouts

/-- What is asked of a block. -/
inductive SlotRequest where
  | grant (t : Handle)
  | release (slot : UInt8)
deriving DecidableEq

/-- A row of places, and the one to try first. -/
structure SlotRow where
  entries : Vector (Option Handle) 256
  hint : UInt8

namespace SlotRow

def empty : SlotRow where
  entries := .replicate 256 none
  hint := 0

def entry (r : SlotRow) (s : UInt8) : Option Handle :=
  r.entries.get ⟨s.toNat, s.toNat_lt⟩

/-- All places, from the first one in the word of the hint on and round again. -/
def around (r : SlotRow) : List UInt8 :=
  (List.range 256).map fun k => UInt8.ofNat (r.hint.toNat / 64 * 64 + k)

/-- The place for the next thing. -/
def next? (r : SlotRow) : Option UInt8 :=
  if (r.entry r.hint).isNone then some r.hint else r.around.find? fun s => (r.entry s).isNone

def step (r : SlotRow) : SlotRequest → SlotRow
  | .grant t =>
    match r.next? with
    | none => r
    | some s => { entries := r.entries.set s.toNat (some t) s.toNat_lt, hint := s + 1 }
  | .release s => { r with entries := r.entries.set s.toNat none s.toNat_lt }

def run (r : SlotRow) (requests : List SlotRequest) : SlotRow :=
  requests.foldl step r

/-- How many words behind that of the hint the word of a place is, going round. -/
def turn (r : SlotRow) (s : UInt8) : Nat :=
  (s.toNat / 64 + 4 - r.hint.toNat / 64) % 4

/-- What makes a place the next one: it is the hint when this is empty, and else the lowest empty
place of the first word that has one, going round from the word of the hint. -/
structure Offers (r : SlotRow) (s : UInt8) : Prop where
  empty : r.entry s = none
  hint : r.entry r.hint = none → s = r.hint
  first : r.entry r.hint ≠ none → ∀ s', r.entry s' = none → r.turn s ≤ r.turn s'
  lowest : r.entry r.hint ≠ none → ∀ s', r.entry s' = none →
    s'.toNat / 64 = s.toNat / 64 → s.toNat ≤ s'.toNat

variable {r : SlotRow} {s s' : UInt8}

lemma offers_hint (h : r.entry r.hint = none) : r.Offers r.hint where
  empty := h
  hint _ := rfl
  first hne := absurd h hne
  lowest hne := absurd h hne

/-- Past a hint that is taken, the least place in the least word is offered. -/
lemma offers_of_taken (hhint : r.entry r.hint ≠ none) (hempty : r.entry s = none)
    (hleast : ∀ s', r.entry s' = none →
      r.turn s ≤ r.turn s' ∧ (s'.toNat / 64 = s.toNat / 64 → s.toNat ≤ s'.toNat)) :
    r.Offers s where
  empty := hempty
  hint hnone := absurd hnone hhint
  first _ s' hs' := (hleast s' hs').1
  lowest _ s' hs' := (hleast s' hs').2

lemma Offers.unique (h : r.Offers s) (h' : r.Offers s') : s = s' := by
  by_cases hhint : r.entry r.hint = none
  · rw [h.hint hhint, h'.hint hhint]
  · have hturn := h.first hhint s' h'.empty
    have hturn' := h'.first hhint s h.empty
    have hs := s.toNat_lt
    have hs' := s'.toNat_lt
    have hlt := r.hint.toNat_lt
    have hword : s'.toNat / 64 = s.toNat / 64 := by
      unfold turn at hturn hturn'
      omega
    apply UInt8.toNat_inj.mp
    exact Nat.le_antisymm (h.lowest hhint s' h'.empty hword) (h'.lowest hhint s h.empty hword.symm)

/-- Where a place stands when all are counted from the first one in the word of the hint. -/
def offset (r : SlotRow) (s : UInt8) : Nat :=
  (s.toNat + 256 - r.hint.toNat / 64 * 64) % 256

lemma ofNat_offset (r : SlotRow) (s : UInt8) :
    UInt8.ofNat (r.hint.toNat / 64 * 64 + r.offset s) = s := by
  have hs := s.toNat_lt
  have hlt := r.hint.toNat_lt
  apply UInt8.toNat_inj.mp
  rw [UInt8.toNat_ofNat']
  unfold offset
  omega

lemma turn_eq (r : SlotRow) (s : UInt8) : r.turn s = r.offset s / 64 := by
  have hs := s.toNat_lt
  have hlt := r.hint.toNat_lt
  unfold turn offset
  omega

lemma offset_lt (r : SlotRow) (s : UInt8) : r.offset s < 256 :=
  Nat.mod_lt _ (by decide)

/-- When the hint is taken the next place is the one with the least offset. -/
lemma find?_around_eq_some (h : (r.around.find? fun s => (r.entry s).isNone) = some s) :
    r.entry s = none ∧ ∀ s', r.entry s' = none → r.offset s ≤ r.offset s' := by
  rw [around, List.find?_map, Option.map_eq_some_iff] at h
  obtain ⟨k, hk, rfl⟩ := h
  obtain ⟨hfree, hmem, hbefore⟩ := List.find?_range_eq_some.mp hk
  have hklt := List.mem_range.mp hmem
  have hlt := r.hint.toNat_lt
  refine ⟨Option.isNone_iff_eq_none.mp hfree, ?_⟩
  intro s' hs'
  have hoffset : r.offset (UInt8.ofNat (r.hint.toNat / 64 * 64 + k)) = k := by
    unfold offset
    rw [UInt8.toNat_ofNat']
    omega
  rw [hoffset]
  by_contra hgt
  have htaken := hbefore (r.offset s') (by omega)
  rw [Function.comp_apply, r.ofNat_offset s', hs'] at htaken
  cases htaken

theorem offers_of_next? (h : r.next? = some s) : r.Offers s := by
  unfold next? at h
  split at h
  · next hhint =>
    obtain rfl : r.hint = s := Option.some.inj h
    exact offers_hint (Option.isNone_iff_eq_none.mp hhint)
  · next hhint =>
    rw [Option.isNone_iff_eq_none] at hhint
    obtain ⟨hempty, hleast⟩ := find?_around_eq_some h
    apply offers_of_taken hhint hempty
    intro s' hs'
    have hle := hleast s' hs'
    constructor
    · rw [turn_eq, turn_eq]
      exact Nat.div_le_div_right hle
    · intro hword
      have hs := s.toNat_lt
      have hs' := s'.toNat_lt
      have hlt := r.hint.toNat_lt
      unfold offset at hle
      omega

lemma next?_eq_none_iff : r.next? = none ↔ ∀ s, r.entry s ≠ none := by
  unfold next?
  split
  · next hhint =>
    refine iff_of_false (fun h => nomatch h) ?_
    intro h
    exact h r.hint (Option.isNone_iff_eq_none.mp hhint)
  · rw [List.find?_eq_none]
    constructor
    · intro h s hs
      apply h s
      · rw [around, List.mem_map]
        exact ⟨r.offset s, List.mem_range.mpr (r.offset_lt s), r.ofNat_offset s⟩
      · rw [hs, Option.isNone_none]
    · intro h s _ hs
      exact h s (Option.isNone_iff_eq_none.mp hs)

theorem next?_eq_some_iff : r.next? = some s ↔ r.Offers s := by
  constructor
  · exact offers_of_next?
  · intro h
    cases hnext : r.next? with
    | none => exact absurd h.empty (next?_eq_none_iff.mp hnext s)
    | some s' => rw [(offers_of_next? hnext).unique h]

end SlotRow

namespace IdBlock

def step (b : IdBlock) : SlotRequest → IdBlock
  | .grant t => (b.grant t).2
  | .release s => (b.release s).value

def run (b : IdBlock) (requests : List SlotRequest) : IdBlock :=
  requests.foldl step b

/-- How many bits are set, in all words. -/
def setBits (b : IdBlock) : Nat :=
  ∑ i : Fin 4, (b.words.get i).toBitVec.cpop.toNat

/-- The search for a slot as it goes over whole words: the lowest set bit of the first word that is
not zero. -/
def scanWords (b : IdBlock) (start : Nat) : Option UInt8 :=
  (List.range 4).findSome? fun i =>
    let word := Fin.ofNat 4 (start + i)
    let bits := (b.words.get word).toBitVec
    if bits = 0 then none else some (UInt8.ofNat (64 * word.val + bits.ctz.toNat))

variable {b : IdBlock} {r : SlotRow} {s : UInt8}

/-! Bits of words -/

lemma isFree_eq_bit (b : IdBlock) {word : Fin 4} (hs : s.toNat / 64 = word.val) :
    b.isFree s = (b.words.get word).toBitVec.getLsbD (s.toNat % 64) := by
  obtain rfl : wordOf s = word := Fin.ext hs
  exact b.isFree_eq_getLsbD s (wordOf s).isLt

lemma toNat_slot (word : Fin 4) {k : Nat} (hk : k < 64) :
    (UInt8.ofNat (64 * word.val + k)).toNat = 64 * word.val + k :=
  UInt8.toNat_ofNat_of_lt' (show 64 * word.val + k < 256 by omega)

lemma isFree_slot (b : IdBlock) (word : Fin 4) {k : Nat} (hk : k < 64) :
    b.isFree (UInt8.ofNat (64 * word.val + k)) = (b.words.get word).toBitVec.getLsbD k := by
  have htoNat := toNat_slot word hk
  have hword : (UInt8.ofNat (64 * word.val + k)).toNat / 64 = word.val := by omega
  rw [b.isFree_eq_bit hword, htoNat, Nat.mul_add_mod, Nat.mod_eq_of_lt hk]

lemma mem_slotsOf_iff {word : Fin 4} : s ∈ slotsOf word.val ↔ s.toNat / 64 = word.val := by
  rw [slotsOf, List.mem_map]
  constructor
  · rintro ⟨n, hn, rfl⟩
    rw [List.mem_range'_1] at hn
    rw [UInt8.toNat_ofNat']
    omega
  · intro hs
    refine ⟨s.toNat, ?_, UInt8.ofNat_toNat⟩
    rw [List.mem_range'_1]
    omega

/-- A search through a word finds the lowest hit. -/
lemma find?_slotsOf_eq_some_iff {word : Fin 4} {f : UInt8 → Bool} :
    (slotsOf word.val).find? f = some s ↔
      (s.toNat / 64 = word.val ∧ f s) ∧
        ∀ s', s'.toNat / 64 = word.val → f s' → s.toNat ≤ s'.toNat := by
  rw [slotsOf, List.find?_map, Option.map_eq_some_iff]
  simp only [List.find?_range'_eq_some, List.mem_range'_1, Function.comp_apply]
  constructor
  · rintro ⟨n, ⟨hn, hmem, hbefore⟩, rfl⟩
    have htoNat : (UInt8.ofNat n).toNat = n :=
      UInt8.toNat_ofNat_of_lt' (show n < 256 by omega)
    rw [htoNat]
    refine ⟨⟨by omega, hn⟩, ?_⟩
    intro s' hword hs'
    by_contra hlt
    have hmiss := hbefore s'.toNat (by omega) (by omega)
    rw [UInt8.ofNat_toNat, hs'] at hmiss
    cases hmiss
  · rintro ⟨⟨hword, hs⟩, hlowest⟩
    refine ⟨s.toNat, ⟨?_, by omega, ?_⟩, UInt8.ofNat_toNat⟩
    · rwa [UInt8.ofNat_toNat]
    · intro n hle hlt
      have htoNat : (UInt8.ofNat n).toNat = n :=
        UInt8.toNat_ofNat_of_lt' (show n < 256 by omega)
      rw [Bool.not_eq_true', ← Bool.not_eq_true]
      intro hn
      have hge := hlowest (UInt8.ofNat n) (by omega) hn
      omega

lemma find?_slotsOf_eq_none_iff {word : Fin 4} {f : UInt8 → Bool} :
    (slotsOf word.val).find? f = none ↔ ∀ s', s'.toNat / 64 = word.val → f s' = false := by
  simp only [List.find?_eq_none, mem_slotsOf_iff, Bool.not_eq_true]

/-- The lowest free slot of a word is that of its lowest set bit. -/
lemma find?_isFree_slotsOf (b : IdBlock) (word : Fin 4) :
    (slotsOf word.val).find? b.isFree =
      if (b.words.get word).toBitVec = 0 then none
      else some (UInt8.ofNat (64 * word.val + (b.words.get word).toBitVec.ctz.toNat)) := by
  have hbit : ∀ s, s.toNat / 64 = word.val →
      b.isFree s = (b.words.get word).toBitVec.getLsbD (s.toNat % 64) :=
    fun _ => b.isFree_eq_bit
  have hslot : ∀ k < 64, b.isFree (UInt8.ofNat (64 * word.val + k)) =
      (b.words.get word).toBitVec.getLsbD k :=
    fun _ => b.isFree_slot word
  generalize (b.words.get word).toBitVec = bits at *
  by_cases hzero : bits = 0
  · rw [if_pos hzero, find?_slotsOf_eq_none_iff]
    intro s hs
    rw [hbit s hs, hzero]
    exact BitVec.getLsbD_zero
  · rw [if_neg hzero, find?_slotsOf_eq_some_iff]
    have hset := BitVec.getLsbD_true_ctz_of_ne_zero hzero
    have hctz := BitVec.lt_of_getLsbD hset
    have htoNat := toNat_slot word hctz
    refine ⟨⟨by omega, ?_⟩, ?_⟩
    · rw [hslot _ hctz]
      exact hset
    · intro s hs hfree
      rw [hbit s hs] at hfree
      by_contra hlt
      rw [BitVec.getLsbD_false_of_lt_ctz (by omega)] at hfree
      cases hfree

/-- Looking for set bits of words finds the slot that looking at one slot after the other finds. -/
theorem scanWords_eq (b : IdBlock) (start : Nat) : b.scanWords start = b.scan start := by
  unfold scanWords scan
  congr 1
  funext i
  exact (b.find?_isFree_slotsOf (Fin.ofNat 4 (start + i))).symm

lemma toNat_cpop {w : Nat} (x : BitVec w) : x.cpop.toNat = (List.range w).countP x.getLsbD := by
  have hcount : ∀ n acc, x.cpopNatRec n acc = acc + (List.range n).countP x.getLsbD := by
    intro n
    induction n with
    | zero => simp
    | succ n ih =>
      intro acc
      rw [BitVec.cpopNatRec_succ, ih, List.range_succ, List.countP_append, List.countP_singleton,
        Nat.add_right_comm, Nat.add_assoc]
      cases x.getLsbD n <;> rfl
  rw [BitVec.toNat_cpop, hcount, Nat.zero_add]

lemma countP_slotsOf (b : IdBlock) (word : Fin 4) :
    (slotsOf word.val).countP b.isFree = (b.words.get word).toBitVec.cpop.toNat := by
  rw [toNat_cpop, slotsOf, List.countP_map, List.range'_eq_map_range, List.countP_map]
  apply List.countP_congr
  intro k hk
  rw [Function.comp_apply, Function.comp_apply, b.isFree_slot word (List.mem_range.mp hk)]

lemma slots_eq : (List.range 4).flatMap slotsOf = (List.range 256).map UInt8.ofNat := by
  decide +kernel

lemma toList_holders (b : IdBlock) :
    b.holders.toList = ((List.range 4).flatMap slotsOf).map b.holder := by
  rw [slots_eq, List.map_map]
  apply List.ext_getElem
  · simp
  · intro i hi hi'
    have hlt : i < 256 := by simpa using hi
    have htoNat : (UInt8.ofNat i).toNat = i := UInt8.toNat_ofNat_of_lt' hlt
    simp only [List.getElem_map, List.getElem_range, Function.comp_apply, holder, htoNat]
    rfl

/-- As many bits are set as slots are free. -/
lemma Sound.free_eq_setBits (hb : b.Sound) : b.free = b.setBits := by
  have hfree : b.isFree = fun s => b.holder s == none := by
    funext s
    rw [Bool.eq_iff_iff, hb.isFree_iff, beq_iff_eq]
  have hcount : b.holders.count none = ((List.range 4).flatMap slotsOf).countP b.isFree := by
    rw [← Vector.count_toList, toList_holders, List.count, List.countP_map, hfree]
    rfl
  rw [hb.free_eq, hcount, List.countP_flatMap, setBits, Fin.sum_univ_four]
  simp only [← countP_slotsOf]
  have hrange : List.range 4 = [0, 1, 2, 3] := rfl
  rw [hrange]
  simp [Nat.add_assoc]

/-! What the next slot is -/

/-- A scan finds the lowest free slot of the first word that has one. -/
lemma scan_spec {start : Nat} (h : b.scan start = some s) :
    b.isFree s ∧ ∀ s', b.isFree s' →
      (s.toNat / 64 + 4 - start % 4) % 4 ≤ (s'.toNat / 64 + 4 - start % 4) % 4 ∧
        (s'.toNat / 64 = s.toNat / 64 → s.toNat ≤ s'.toNat) := by
  obtain ⟨i, hi, hfound, hbefore⟩ := findSome?_range h
  have hfound' : (slotsOf (Fin.ofNat 4 (start + i)).val).find? b.isFree = some s := hfound
  obtain ⟨⟨hword, hs⟩, hlowest⟩ := find?_slotsOf_eq_some_iff.mp hfound'
  rw [Fin.val_ofNat] at hword hlowest
  refine ⟨hs, ?_⟩
  intro s' hs'
  have hlt := s'.toNat_lt
  constructor
  · by_contra hgt
    -- The word of `s'` was searched before, and nothing was found there.
    have hmiss := hbefore ((s'.toNat / 64 + 4 - start % 4) % 4) (by omega)
    have hround : (start + (s'.toNat / 64 + 4 - start % 4) % 4) % 4 = s'.toNat / 64 := by omega
    rw [hround, List.find?_eq_none] at hmiss
    exact hmiss s' (mem_slotsOf s') hs'
  · intro hsame
    exact hlowest s' (by omega) hs'

lemma fst_grant (b : IdBlock) (t : Handle) : (b.grant t).1 = b.candidate? := by
  unfold grant
  cases b.candidate? <;> rfl

lemma grant_of_candidate? (hs : b.candidate? = some s) (t : Handle) :
    b.grant t = (some s, b.take s t) := by
  rw [grant, hs]

/-- The block says of its slots what the row has in its places. -/
structure Mirrors (b : IdBlock) (r : SlotRow) : Prop where
  sound : b.Sound
  holders_eq : b.holders = r.entries
  hint_eq : b.hint = r.hint

namespace Mirrors

lemma holder_eq (h : b.Mirrors r) (s : UInt8) : b.holder s = r.entry s := by
  rw [holder, SlotRow.entry, h.holders_eq]

lemma isFree_iff (h : b.Mirrors r) (s : UInt8) : b.isFree s ↔ r.entry s = none := by
  rw [h.sound.isFree_iff, h.holder_eq]

lemma isFull_iff (h : b.Mirrors r) : b.isFull ↔ ∀ s, r.entry s ≠ none := by
  have hfull : b.isFull ↔ b.free = 0 := beq_iff_eq
  rw [hfull]
  constructor
  · intro hzero s hs
    have hpos := h.sound.free_pos ((h.isFree_iff s).mpr hs)
    omega
  · intro htaken
    by_contra hne
    obtain ⟨s, hs⟩ := h.sound.exists_isFree hne
    exact htaken s ((h.isFree_iff s).mp hs)

lemma offers (h : b.Mirrors r) (hs : b.candidate? = some s) : r.Offers s := by
  have hempty := (h.isFree_iff s).mp (isFree_of_candidate? hs)
  unfold candidate? at hs
  split at hs
  · cases hs
  · split at hs
    · next hhint =>
      rw [h.isFree_iff, h.hint_eq] at hhint
      obtain rfl : r.hint = s := h.hint_eq ▸ Option.some.inj hs
      exact SlotRow.offers_hint hhint
    · next hhint =>
      rw [h.isFree_iff, h.hint_eq] at hhint
      rw [h.hint_eq] at hs
      apply SlotRow.offers_of_taken hhint hempty
      intro s' hs'
      obtain ⟨hturn, hlowest⟩ := (scan_spec hs).2 s' ((h.isFree_iff s').mpr hs')
      refine ⟨?_, hlowest⟩
      have hlt := r.hint.toNat_lt
      unfold SlotRow.turn
      omega

/-- The block gives out the slot that is next in the row. -/
theorem candidate?_eq (h : b.Mirrors r) : b.candidate? = r.next? := by
  cases hs : b.candidate? with
  | some s => rw [SlotRow.next?_eq_some_iff.mpr (h.offers hs)]
  | none =>
    have htaken := h.sound.candidate?_eq_none_iff.mp hs
    rw [eq_comm, SlotRow.next?_eq_none_iff]
    intro s hempty
    have hfree := (h.isFree_iff s).mpr hempty
    rw [htaken s] at hfree
    cases hfree

lemma grant_some (h : b.Mirrors r) (hs : b.candidate? = some s) (t : Handle) :
    (b.grant t).2.holder = Function.update r.entry s (some t) ∧
      (b.grant t).2.hint.toNat = (s.toNat + 1) % 256 := by
  rw [grant_of_candidate? hs]
  refine ⟨?_, UInt8.toNat_add s 1⟩
  funext s'
  rw [holder_take, h.holder_eq, Function.update_apply]

lemma release_empty (h : b.Mirrors r) (hempty : r.entry s = none) : (b.release s).value = b := by
  rw [IdBlock.release, if_pos ((h.isFree_iff s).mpr hempty)]

lemma release_taken (h : b.Mirrors r) (htaken : r.entry s ≠ none) :
    (b.release s).value.holder = Function.update r.entry s none ∧
      (b.release s).value.hint = b.hint := by
  have hfree : b.isFree s = false := by
    rw [← Bool.not_eq_true, h.isFree_iff]
    exact htaken
  rw [IdBlock.release, hfree, if_neg Bool.false_ne_true]
  refine ⟨?_, rfl⟩
  funext s'
  rw [holder_vacate, h.holder_eq, Function.update_apply]

lemma grant (h : b.Mirrors r) (t : Handle) : (b.grant t).2.Mirrors (r.step (.grant t)) := by
  unfold IdBlock.grant SlotRow.step
  dsimp only
  rw [← h.candidate?_eq]
  cases hs : b.candidate? with
  | none => exact h
  | some s =>
    refine ⟨h.sound.take (isFree_of_candidate? hs) t, ?_, rfl⟩
    exact congrArg (fun v => v.set s.toNat (some t) s.toNat_lt) h.holders_eq

lemma release (h : b.Mirrors r) (s : UInt8) :
    (b.release s).value.Mirrors (r.step (.release s)) := by
  unfold IdBlock.release SlotRow.step
  dsimp only
  cases hs : b.isFree s with
  | true =>
    have hempty : r.entries.get ⟨s.toNat, s.toNat_lt⟩ = none := (h.isFree_iff s).mp hs
    have hsame : r.entries.set s.toNat none s.toNat_lt = r.entries := by
      rw [← hempty]
      exact Vector.set_getElem_self s.toNat_lt
    rw [hsame]
    exact h
  | false =>
    refine ⟨h.sound.vacate hs, ?_, h.hint_eq⟩
    exact congrArg (fun v => v.set s.toNat none s.toNat_lt) h.holders_eq

lemma step (h : b.Mirrors r) (request : SlotRequest) :
    (b.step request).Mirrors (r.step request) := by
  cases request with
  | grant t => exact h.grant t
  | release s => exact h.release s

theorem run (h : b.Mirrors r) (requests : List SlotRequest) :
    (b.run requests).Mirrors (r.run requests) := by
  induction requests generalizing b r with
  | nil => exact h
  | cons request requests ih => exact ih (h.step request)

end Mirrors

lemma mirrors_empty : empty.Mirrors .empty :=
  ⟨sound_empty, rfl, rfl⟩

/-- When the hint is taken the next slot is what the search over the words finds. -/
lemma Sound.candidate?_eq_scanWords (hb : b.Sound) (hhint : b.isFree b.hint = false) :
    b.candidate? = b.scanWords (b.hint.toNat / 64) := by
  rw [scanWords_eq, candidate?, hhint, if_neg Bool.false_ne_true]
  split
  · next hfull =>
    have hzero : b.free = 0 := beq_iff_eq.mp hfull
    cases hscan : b.scan (b.hint.toNat / 64) with
    | none => rfl
    | some s =>
      have hpos := hb.free_pos (scan_spec hscan).1
      omega
  · rfl

end IdBlock

/-- After every run of grants and releases a block agrees with a row of places that went through the
same run. A slot is free, in the bits and in the count, when its place in the row is empty. A grant
is turned down when no place is empty, and else takes the place that the row offers next; when the
hint is taken, this is what the search over the words finds. A release empties its place, and leaves
the block as it is when there is nothing to release. -/
theorem block_acts_as_row (requests : List SlotRequest) :
    let b := IdBlock.empty.run requests
    let r := SlotRow.empty.run requests
    b.hint = r.hint ∧
    (∀ s, (b.isFree s ↔ r.entry s = none) ∧ b.holder s = r.entry s) ∧
    (b.free = r.entries.count none ∧ b.free = b.setBits) ∧
    (b.isFull ↔ ∀ s, r.entry s ≠ none) ∧
    (∀ t,
      ((b.grant t).1 = none ↔ ∀ s, r.entry s ≠ none) ∧
      ((b.grant t).1 = none → (b.grant t).2 = b) ∧
      (b.isFree b.hint = false → (b.grant t).1 = b.scanWords (b.hint.toNat / 64)) ∧
      ∀ s,
        ((b.grant t).1 = some s ↔ r.Offers s) ∧
        ((b.grant t).1 = some s →
          (b.grant t).2.holder = Function.update r.entry s (some t) ∧
            (b.grant t).2.hint.toNat = (s.toNat + 1) % 256)) ∧
    ∀ s,
      (r.entry s ≠ none →
        (b.release s).value.holder = Function.update r.entry s none ∧
          (b.release s).value.hint = b.hint) ∧
      (r.entry s = none → (b.release s).value = b) := by
  intro b r
  have h : b.Mirrors r := IdBlock.mirrors_empty.run requests
  refine ⟨h.hint_eq, fun s => ⟨h.isFree_iff s, h.holder_eq s⟩,
    ⟨h.holders_eq ▸ h.sound.free_eq, h.sound.free_eq_setBits⟩, h.isFull_iff, ?_, ?_⟩
  · intro t
    rw [b.fst_grant]
    refine ⟨?_, ?_, h.sound.candidate?_eq_scanWords, ?_⟩
    · rw [h.candidate?_eq, SlotRow.next?_eq_none_iff]
    · intro hnone
      rw [IdBlock.grant, hnone]
    · intro s
      refine ⟨?_, fun hs => h.grant_some hs t⟩
      rw [h.candidate?_eq, SlotRow.next?_eq_some_iff]
  · intro s
    exact ⟨h.release_taken, h.release_empty⟩

end Whereabouts
