import Whereabouts.Proofs.IdBlocks
import Whereabouts.PublicId.Pool

/-!
# The pool of public ids

A pool is a map from public ids to the things that hold them. An id that is granted was held by
nothing and is held by the thing afterwards; an id that is released is held by nothing; all other
ids stay as they are, and the count of taken ids goes along.
-/

namespace Whereabouts

lemma PublicId.eq_iff {a b : PublicId} : a = b ↔ a.block = b.block ∧ a.slot = b.slot := by
  constructor
  · rintro rfl
    exact ⟨rfl, rfl⟩
  · rintro ⟨hb, hs⟩
    rw [← ofParts_block_slot a, ← ofParts_block_slot b, hb, hs]

/-- A search through the numbers below `n` finds the first hit. -/
lemma findSome?_range {α : Type} {f : Nat → Option α} {n : Nat} {a : α}
    (h : (List.range n).findSome? f = some a) :
    ∃ i, i < n ∧ f i = some a ∧ ∀ j, j < i → f j = none := by
  induction n with
  | zero => cases h
  | succ n ih =>
    rw [List.range_succ, List.findSome?_append, Option.or_eq_some_iff] at h
    rcases h with h | ⟨hnone, h⟩
    · obtain ⟨i, hi, hf, hbefore⟩ := ih h
      exact ⟨i, Nat.lt_succ_of_lt hi, hf, hbefore⟩
    · refine ⟨n, Nat.lt_succ_self n, by simpa using h, ?_⟩
      intro j hj
      exact List.findSome?_eq_none_iff.mp hnone j (List.mem_range.mpr hj)

namespace IdPool

structure Sound (p : IdPool) : Prop where
  blocks_sound : ∀ i : Nat, ∀ b, p.blocks[i]? = some b → b.Sound
  size_le : p.blocks.size ≤ maxBlocks

lemma sound_empty : empty.Sound where
  blocks_sound i b hb := by simp [empty] at hb
  size_le := by simp [empty]

lemma block_sound {p : IdPool} (hp : p.Sound) (i : Nat) : (p.block i).Sound := by
  unfold block
  cases hb : p.blocks[i]? with
  | none => exact IdBlock.sound_empty
  | some b => exact hp.blocks_sound i b hb

lemma holder_empty_block (s : UInt8) : IdBlock.empty.holder s = none := by
  rw [IdBlock.holder_eq_getElem _ s s.toNat_lt]
  simp [IdBlock.empty]

lemma holder_eq (p : IdPool) (id : PublicId) :
    p.holder id = (p.block id.block.toNat).holder id.slot := by
  unfold holder block
  cases p.blocks[id.block.toNat]? with
  | none => simp [holder_empty_block]
  | some b => rfl

lemma isTaken_iff {p : IdPool} (hp : p.Sound) {id : PublicId} :
    p.isTaken id = true ↔ (p.holder id).isSome := by
  unfold isTaken holder
  cases hb : p.blocks[id.block.toNat]? with
  | none => simp
  | some b =>
    have hfree := (hp.blocks_sound _ b hb).isFree_iff id.slot
    rw [Option.any_some, Option.bind_some, Bool.not_eq_true', ← Bool.not_eq_true, hfree,
      ← ne_eq, Option.ne_none_iff_isSome]

/-- The next id comes from an opened block or from the one that would be opened next. -/
lemma candidate?_spec {p : IdPool} (hp : p.Sound) {i : Nat} {s : UInt8}
    (h : p.candidate? = some (i, s)) :
    i ≤ p.blocks.size ∧ i < maxBlocks ∧ (p.block i).isFree s := by
  unfold candidate? at h
  split at h
  · next slot hlast =>
    simp only [Option.some.injEq, Prod.mk.injEq] at h
    obtain ⟨rfl, rfl⟩ := h
    obtain ⟨b, hb, hslot⟩ := Option.bind_eq_some_iff.mp hlast
    have hlt := (Array.getElem?_eq_some_iff.mp hb).1
    have hblock : p.block p.last = b := by rw [block, hb, Option.getD_some]
    refine ⟨Nat.le_of_lt hlt, Nat.lt_of_lt_of_le hlt hp.size_le, ?_⟩
    rw [hblock]
    exact IdBlock.isFree_of_candidate? hslot
  · obtain ⟨j, hj, hfound, hbefore⟩ := findSome?_range h
    obtain ⟨slot, hslot, he⟩ := Option.map_eq_some_iff.mp hfound
    simp only [Prod.mk.injEq] at he
    obtain ⟨rfl, rfl⟩ := he
    refine ⟨?_, hj, IdBlock.isFree_of_candidate? hslot⟩
    by_contra hgt
    have hnone := hbefore p.blocks.size (by omega)
    rw [block, Array.getElem?_eq_none (Nat.le_refl _), Option.getD_none,
      Option.map_eq_none_iff] at hnone
    exact absurd hnone (by decide)

lemma block_ofParts_ofNat {i : Nat} (hi : i < maxBlocks) (s : UInt8) :
    (PublicId.ofParts (UInt8.ofNat i) s).block.toNat = i := by
  rw [PublicId.block_ofParts]
  exact UInt8.toNat_ofNat_of_lt' hi

/-- A pool that differs in one slot of one block. -/
lemma holder_of_blocks {p p' : IdPool} {i : Nat} (hi : i < maxBlocks) {s : UInt8} {b : IdBlock}
    {x : Option Handle} (hblocks : ∀ j, p'.block j = if j = i then b else p.block j)
    (hb : ∀ s', b.holder s' = if s' = s then x else (p.block i).holder s') (id : PublicId) :
    p'.holder id = if id = .ofParts (UInt8.ofNat i) s then x else p.holder id := by
  have hid : id = .ofParts (UInt8.ofNat i) s ↔ id.block.toNat = i ∧ id.slot = s := by
    rw [PublicId.eq_iff, PublicId.slot_ofParts, ← UInt8.toNat_inj, block_ofParts_ofNat hi]
  rw [holder_eq, holder_eq, hblocks]
  by_cases hblock : id.block.toNat = i
  · rw [if_pos hblock, hb, hblock]
    by_cases hslot : id.slot = s
    · rw [if_pos hslot, if_pos (hid.mpr ⟨hblock, hslot⟩)]
    · rw [if_neg hslot, if_neg (fun h => hslot (hid.mp h).2)]
  · rw [if_neg hblock, if_neg (fun h => hblock (hid.mp h).1)]

lemma taken_eq_sum (p : IdPool) :
    p.taken = (p.blocks.toList.map fun b => IdBlock.size - b.free).sum := by
  rw [taken, ← Array.foldl_toList, List.sum_eq_foldl, List.foldl_map]

lemma sum_map_modify {α : Type} {f : α → α} {g : α → Nat} {l : List α} {i : Nat} {a : α}
    (h : l[i]? = some a) : ((l.modify i f).map g).sum + g a = (l.map g).sum + g (f a) := by
  induction l generalizing i with
  | nil => simp at h
  | cons b l ih =>
    cases i with
    | zero =>
      rw [List.getElem?_cons_zero, Option.some.injEq] at h
      subst h
      simp only [List.modify_zero_cons, List.map_cons, List.sum_cons]
      omega
    | succ i =>
      rw [List.getElem?_cons_succ] at h
      have hrest := ih h
      simp only [List.modify_succ_cons, List.map_cons, List.sum_cons]
      omega

lemma block_modify {p : IdPool} {i : Nat} {b : IdBlock} (hb : p.blocks[i]? = some b)
    (f : IdBlock → IdBlock) (last j : Nat) :
    block ⟨p.blocks.modify i f, last⟩ j = if j = i then f (p.block i) else p.block j := by
  simp only [block, Array.getElem?_modify]
  by_cases hj : j = i
  · simp [hj, hb]
  · simp [hj, Ne.symm hj]

lemma Sound.modify {p : IdPool} (hp : p.Sound) {i : Nat} {f : IdBlock → IdBlock}
    (hf : ∀ b, p.blocks[i]? = some b → (f b).Sound) (last : Nat) :
    Sound ⟨p.blocks.modify i f, last⟩ where
  blocks_sound j b hb := by
    simp only [Array.getElem?_modify] at hb
    split at hb
    · next hij =>
      obtain ⟨old, hold, rfl⟩ := Option.map_eq_some_iff.mp hb
      exact hf old (hij ▸ hold)
    · exact hp.blocks_sound j b hb
  size_le := by
    rw [Array.size_modify]
    exact hp.size_le

lemma taken_modify {p : IdPool} {i : Nat} {b : IdBlock} (hb : p.blocks[i]? = some b)
    (f : IdBlock → IdBlock) (last : Nat) :
    taken ⟨p.blocks.modify i f, last⟩ + (IdBlock.size - b.free) =
      p.taken + (IdBlock.size - (f b).free) := by
  rw [taken_eq_sum, taken_eq_sum, Array.toList_modify]
  exact sum_map_modify (by rwa [Array.getElem?_toList])

/-- `p'` is `p` after it gave the thing `t` the id `id`, which nothing held before. -/
structure Granted (p : IdPool) (t : Handle) (id : PublicId) (p' : IdPool) : Prop where
  holder_before : p.holder id = none
  sound : p'.Sound
  holder_after : ∀ id', p'.holder id' = if id' = id then some t else p.holder id'
  taken_after : p'.taken = p.taken + 1

lemma holder_ofParts_of_isFree {p : IdPool} (hp : p.Sound) {i : Nat} (hi : i < maxBlocks)
    {s : UInt8} (hfree : (p.block i).isFree s) :
    p.holder (.ofParts (UInt8.ofNat i) s) = none := by
  rw [holder_eq, block_ofParts_ofNat hi, PublicId.slot_ofParts]
  exact ((block_sound hp i).isFree_iff s).mp hfree

/-- The search fails only when every id is taken. -/
lemma Sound.candidate?_eq_none_iff {p : IdPool} (hp : p.Sound) :
    p.candidate? = none ↔ ∀ id, (p.holder id).isSome := by
  constructor
  · intro h id
    have hi : id.block.toNat < maxBlocks := id.block.toNat_lt
    have hb := block_sound hp id.block.toNat
    unfold candidate? at h
    split at h
    · cases h
    · have hnone := List.findSome?_eq_none_iff.mp h _ (List.mem_range.mpr hi)
      have htaken := hb.candidate?_eq_none_iff.mp (Option.map_eq_none_iff.mp hnone) id.slot
      rw [← Bool.not_eq_true, hb.isFree_iff] at htaken
      rwa [holder_eq, ← Option.ne_none_iff_isSome]
  · intro h
    cases hc : p.candidate? with
    | none => rfl
    | some found =>
      obtain ⟨-, hi, hfree⟩ := candidate?_spec hp hc
      have hsome := h (.ofParts (UInt8.ofNat found.1) found.2)
      rw [holder_ofParts_of_isFree hp hi hfree] at hsome
      cases hsome

/-- A grant from a block that is open takes one of its slots. -/
lemma granted_modify {p : IdPool} (hp : p.Sound) (t : Handle) {i : Nat} (hopen : i < p.blocks.size)
    {s : UInt8} (hfree : (p.block i).isFree s) :
    p.Granted t (.ofParts (UInt8.ofNat i) s) ⟨p.blocks.modify i (·.take s t), i⟩ := by
  have hi : i < maxBlocks := Nat.lt_of_lt_of_le hopen hp.size_le
  have hb := Array.getElem?_eq_getElem hopen
  have hblock : p.block i = p.blocks[i] := by rw [block, hb, Option.getD_some]
  have hsound := block_sound hp i
  refine ⟨holder_ofParts_of_isFree hp hi hfree, ?_, ?_, ?_⟩
  · apply hp.modify
    intro b hb'
    rw [hb, Option.some.injEq] at hb'
    subst hb'
    exact (hblock ▸ hsound).take (hblock ▸ hfree) t
  · exact holder_of_blocks hi (block_modify hb _ i) ((p.block i).holder_take s t)
  · have hpos := hsound.free_pos hfree
    have hfull := hsound.free_le
    have htaken := taken_modify hb (·.take s t) i
    rw [← hblock] at htaken
    simp only [IdBlock.take] at htaken ⊢
    omega

/-- A grant when every open block is full opens the next one and takes a slot of it. -/
lemma granted_push {p : IdPool} (hp : p.Sound) (t : Handle) (hroom : p.blocks.size < maxBlocks)
    {s : UInt8} (hfree : (p.block p.blocks.size).isFree s) :
    p.Granted t (.ofParts (UInt8.ofNat p.blocks.size) s)
      ⟨p.blocks.push (IdBlock.empty.take s t), p.blocks.size⟩ := by
  have hnone := holder_ofParts_of_isFree hp hroom hfree
  have hblock : p.block p.blocks.size = .empty := by
    rw [block, Array.getElem?_eq_none (Nat.le_refl _), Option.getD_none]
  rw [hblock] at hfree
  refine ⟨hnone, ⟨?_, ?_⟩, ?_, ?_⟩
  · intro j b hb
    rw [Array.getElem?_push] at hb
    split at hb
    · rw [← Option.some.inj hb]
      exact IdBlock.sound_empty.take hfree t
    · exact hp.blocks_sound j b hb
  · rw [Array.size_push]
    exact hroom
  · apply holder_of_blocks hroom (b := IdBlock.empty.take s t)
    · intro j
      simp only [block, Array.getElem?_push]
      by_cases hj : j = p.blocks.size
      · simp [hj]
      · simp [hj]
    · rw [hblock]
      exact IdBlock.empty.holder_take s t
  · rw [taken_eq_sum, taken_eq_sum, Array.toList_push, List.map_append, List.sum_append]
    rfl

/-- What a grant does: nothing when no id is left, and else it gives out an id nothing held. -/
theorem grant_spec {p : IdPool} (hp : p.Sound) (t : Handle) :
    (p.grant t).value = (none, p) ∨
      ∃ id, (p.grant t).value.1 = some id ∧ p.Granted t id (p.grant t).value.2 := by
  unfold grant
  cases hcandidate : p.candidate? with
  | none => exact .inl rfl
  | some found =>
    obtain ⟨i, s⟩ := found
    obtain ⟨hle, hi, hfree⟩ := candidate?_spec hp hcandidate
    refine .inr ⟨.ofParts (UInt8.ofNat i) s, ?_⟩
    dsimp only
    by_cases hopen : i < p.blocks.size
    · rw [if_pos hopen]
      exact ⟨rfl, granted_modify hp t hopen hfree⟩
    · rw [if_neg hopen]
      obtain rfl : i = p.blocks.size := by omega
      exact ⟨rfl, granted_push hp t hi hfree⟩

/-- A grant is turned down only when every id is taken. -/
lemma Sound.grant_eq_none_iff {p : IdPool} (hp : p.Sound) (t : Handle) :
    (p.grant t).value.1 = none ↔ ∀ id, (p.holder id).isSome := by
  rw [← hp.candidate?_eq_none_iff, grant]
  cases p.candidate? with
  | none => simp
  | some found =>
    dsimp only
    split
    · simp
    · simp

/-- A grant that is turned down changes nothing. -/
lemma Sound.grant_of_none {p : IdPool} (hp : p.Sound) {t : Handle}
    (h : (p.grant t).value.1 = none) : (p.grant t).value = (none, p) := by
  rcases grant_spec hp t with hnone | ⟨id, hsome, -⟩
  · exact hnone
  · rw [hsome] at h
    cases h

/-- A release of an id that is not taken changes nothing. -/
lemma release_of_not_taken {p : IdPool} {id : PublicId} (h : p.isTaken id = false) :
    (p.release id).value = p := by
  unfold isTaken at h
  unfold release
  cases hb : p.blocks[id.block.toNat]? with
  | none => rfl
  | some b =>
    rw [hb, Option.any_some, Bool.not_eq_false'] at h
    simp [h]

/-- A release of an id that a thing holds leaves it held by nothing. -/
theorem release_spec {p : IdPool} (hp : p.Sound) {id : PublicId} {t : Handle}
    (h : p.holder id = some t) :
    (p.release id).events = [] ∧ (p.release id).value.Sound ∧
      (∀ id', (p.release id).value.holder id' = if id' = id then none else p.holder id') ∧
      (p.release id).value.taken + 1 = p.taken := by
  have hi : id.block.toNat < maxBlocks := id.block.toNat_lt
  cases hb : p.blocks[id.block.toNat]? with
  | none => simp [holder, hb] at h
  | some b =>
    have hblock : p.block id.block.toNat = b := by rw [block, hb, Option.getD_some]
    have hsound := hp.blocks_sound _ b hb
    have htaken : b.isFree id.slot = false := by
      rw [holder_eq, hblock] at h
      rw [← Bool.not_eq_true, hsound.isFree_iff, h]
      simp
    have hrelease : p.release id =
        ⟨{ p with blocks := p.blocks.modify id.block.toNat (·.vacate id.slot) }, []⟩ := by
      simp [release, hb, htaken]
    rw [hrelease]
    refine ⟨rfl, ?_, ?_, ?_⟩
    · apply hp.modify
      intro b' hb'
      rw [hb, Option.some.injEq] at hb'
      exact hb' ▸ hsound.vacate htaken
    · have hid : PublicId.ofParts (UInt8.ofNat id.block.toNat) id.slot = id := by
        rw [UInt8.ofNat_toNat, PublicId.ofParts_block_slot]
      have hholder := holder_of_blocks hi (block_modify hb (·.vacate id.slot) p.last)
        ((p.block id.block.toNat).holder_vacate id.slot)
      rwa [hid] at hholder
    · have hcount := taken_modify hb (·.vacate id.slot) p.last
      have hlt := hsound.free_lt htaken
      simp only [IdBlock.vacate] at hcount ⊢
      omega

end IdPool

end Whereabouts
