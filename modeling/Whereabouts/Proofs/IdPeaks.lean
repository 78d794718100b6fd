import Mathlib.Algebra.Group.Action.Defs
import Mathlib.Algebra.Order.BigOperators.Group.List
import Whereabouts.Proofs.IdLedger

/-!
# Blocks are opened at peaks

A pool gives out an id of the block that served last, or else of the first block with a free slot,
and opens a block only when no open one has a free slot. So the number of open blocks tells how many
ids were taken at once at the most, and an id that was given back is given out again before another
block is opened and before a grant is turned down.
-/

namespace Whereabouts

namespace IdPool

/-- The id that a request is answered with, if it is a grant that is not turned down. -/
def answer (p : IdPool) : IdRequest → Option PublicId
  | .grant t => (p.grant t).value.1
  | .release _ => none

/-- The ids that are given out in the course of a run, the first one first. -/
def given (p : IdPool) : List IdRequest → List PublicId
  | [] => []
  | r :: requests => (p.answer r).toList ++ (p.step r).given requests

/-- The most ids that are taken at once in the course of a run. -/
def peak (p : IdPool) : List IdRequest → Nat
  | [] => p.taken
  | r :: requests => max p.taken ((p.step r).peak requests)

/-- The block is open and has a free slot. -/
def HasRoom (p : IdPool) (i : Nat) : Prop :=
  ∃ b, p.blocks[i]? = some b ∧ ∃ s, b.isFree s

/-- The block that is to serve next when the block `last` served last: this one as long as it has
room, and else the first one that has. -/
def Serves (p : IdPool) (last : Option Nat) (i : Nat) : Prop :=
  p.HasRoom i ∧ (last = some i ∨ (∀ k, last = some k → ¬p.HasRoom k) ∧ ∀ j, j < i → ¬p.HasRoom j)

variable {p : IdPool} {n : Nat}

/-! Which block serves -/

lemma hasRoom_of_isFree {i : Nat} (hi : i < p.blocks.size) {s : UInt8}
    (hs : (p.block i).isFree s) : p.HasRoom i := by
  have hb := Array.getElem?_eq_getElem hi
  rw [block, hb, Option.getD_some] at hs
  exact ⟨_, hb, s, hs⟩

lemma HasRoom.lt_size {i : Nat} (h : p.HasRoom i) : i < p.blocks.size := by
  obtain ⟨b, hb, -⟩ := h
  exact (Array.getElem?_eq_some_iff.mp hb).1

lemma HasRoom.exists_isFree {i : Nat} (h : p.HasRoom i) : ∃ s, (p.block i).isFree s := by
  obtain ⟨b, hb, s, hs⟩ := h
  exact ⟨s, by rwa [block, hb, Option.getD_some]⟩

/-- A block that has nothing to offer has no room. -/
lemma Sound.not_hasRoom (hp : p.Sound) {i : Nat} (h : (p.block i).candidate? = none) :
    ¬p.HasRoom i := by
  intro hroom
  obtain ⟨s, hs⟩ := hroom.exists_isFree
  rw [(block_sound hp i).candidate?_eq_none_iff] at h
  rw [h s] at hs
  cases hs

/-- The next id comes from the block that served last, or else from the first block with room. -/
lemma Sound.candidate?_serves (hp : p.Sound) {i : Nat} {s : UInt8}
    (h : p.candidate? = some (i, s)) :
    (i = p.last ∧ i < p.blocks.size) ∨ ¬p.HasRoom p.last ∧ ∀ j, j < i → ¬p.HasRoom j := by
  unfold candidate? at h
  split at h
  · next slot hlast =>
    simp only [Option.some.injEq, Prod.mk.injEq] at h
    obtain ⟨rfl, rfl⟩ := h
    obtain ⟨b, hb, -⟩ := Option.bind_eq_some_iff.mp hlast
    exact .inl ⟨rfl, (Array.getElem?_eq_some_iff.mp hb).1⟩
  · next hlast =>
    obtain ⟨k, -, hfound, hbefore⟩ := findSome?_range h
    obtain ⟨slot, -, he⟩ := Option.map_eq_some_iff.mp hfound
    obtain rfl : k = i := congrArg Prod.fst he
    refine .inr ⟨?_, ?_⟩
    · intro hroom
      have hb := Array.getElem?_eq_getElem hroom.lt_size
      refine hp.not_hasRoom ?_ hroom
      rw [hb, Option.bind_some] at hlast
      rw [block, hb, Option.getD_some]
      exact hlast
    · intro j hj
      exact hp.not_hasRoom (Option.map_eq_none_iff.mp (hbefore j hj))

lemma grant_of_candidate? {i : Nat} {s : UInt8} (h : p.candidate? = some (i, s)) (t : Handle) :
    (p.grant t).value.1 = some (.ofParts (UInt8.ofNat i) s) ∧ (p.grant t).value.2.last = i ∧
      (p.grant t).value.2.blocks.size =
        if i < p.blocks.size then p.blocks.size else p.blocks.size + 1 := by
  unfold grant
  rw [h]
  dsimp only
  split
  · exact ⟨rfl, rfl, Array.size_modify⟩
  · exact ⟨rfl, rfl, Array.size_push _⟩

/-- A free slot of a block that is open, or that could be, is found. -/
lemma Sound.exists_candidate? (hp : p.Sound) {i : Nat} (hi : i < maxBlocks) {s : UInt8}
    (hs : (p.block i).isFree s) : ∃ i s, p.candidate? = some (i, s) := by
  cases hc : p.candidate? with
  | some found => exact ⟨found.1, found.2, rfl⟩
  | none =>
    have hheld := hp.candidate?_eq_none_iff.mp hc (.ofParts (UInt8.ofNat i) s)
    rw [holder_ofParts_of_isFree hp hi hs] at hheld
    cases hheld

/-- As long as an open block has room a grant is served from one, and opens none. -/
theorem Sound.grant_of_room (hp : p.Sound) (hroom : ∃ j, p.HasRoom j) (t : Handle) :
    ∃ id, (p.grant t).value.1 = some id ∧
      (p.grant t).value.2.blocks.size = p.blocks.size ∧ p.HasRoom id.block.toNat ∧
      (id.block.toNat = p.last ∨
        ¬p.HasRoom p.last ∧ ∀ j, j < id.block.toNat → ¬p.HasRoom j) := by
  obtain ⟨j, hj⟩ := hroom
  obtain ⟨s', hs'⟩ := hj.exists_isFree
  have hjlt := hj.lt_size
  obtain ⟨i, s, hc⟩ := hp.exists_candidate? (Nat.lt_of_lt_of_le hjlt hp.size_le) hs'
  obtain ⟨-, hi, hs⟩ := candidate?_spec hp hc
  have hserves := hp.candidate?_serves hc
  have hopen : i < p.blocks.size := by
    rcases hserves with ⟨-, hlt⟩ | ⟨-, hbefore⟩
    · exact hlt
    · by_contra hclosed
      exact hbefore j (by omega) hj
  obtain ⟨hid, -, hsize⟩ := grant_of_candidate? hc t
  rw [if_pos hopen] at hsize
  refine ⟨_, hid, hsize, ?_⟩
  rw [block_ofParts_ofNat hi]
  exact ⟨hasRoom_of_isFree hopen hs, hserves.imp_left And.left⟩

/-- When no open block has room a grant opens the next one. -/
theorem Sound.grant_of_full (hp : p.Sound) (hfull : ¬∃ j, p.HasRoom j)
    (hsize : p.blocks.size < maxBlocks) (t : Handle) :
    ∃ id, (p.grant t).value.1 = some id ∧ id.block.toNat = p.blocks.size ∧
      (p.grant t).value.2.blocks.size = p.blocks.size + 1 := by
  have hnext : (p.block p.blocks.size).isFree 0 := by
    rw [block, Array.getElem?_eq_none (Nat.le_refl _), Option.getD_none]
    decide
  obtain ⟨i, s, hc⟩ := hp.exists_candidate? hsize hnext
  obtain ⟨hle, hi, hs⟩ := candidate?_spec hp hc
  have hclosed : ¬i < p.blocks.size := fun hlt => hfull ⟨i, hasRoom_of_isFree hlt hs⟩
  obtain ⟨hid, -, hafter⟩ := grant_of_candidate? hc t
  rw [if_neg hclosed] at hafter
  refine ⟨_, hid, ?_, hafter⟩
  rw [block_ofParts_ofNat hi]
  omega

/-- When every block is open and none has room a grant is turned down. -/
lemma Sound.grant_of_exhausted (hp : p.Sound) (hfull : ¬∃ j, p.HasRoom j)
    (hsize : p.blocks.size = maxBlocks) (t : Handle) : (p.grant t).value = (none, p) := by
  apply hp.grant_of_none
  rw [hp.grant_eq_none_iff]
  intro id
  have hlt : id.block.toNat < p.blocks.size := hsize ▸ id.block.toNat_lt
  rw [holder_eq, ← Option.ne_none_iff_isSome, ne_eq, ← (block_sound hp _).isFree_iff]
  exact fun hfree => hfull ⟨_, hasRoom_of_isFree hlt hfree⟩

/-! The block that served last -/

/-- Nothing is said of the blocks before block 0, so a pool that has given out nothing may just as
well take it for the one that served last. -/
lemma HasRoom.serves {last : Option Nat} {i : Nat} (h : p.HasRoom i)
    (hi : i = last.getD 0 ∨ ¬p.HasRoom (last.getD 0) ∧ ∀ j, j < i → ¬p.HasRoom j) :
    p.Serves last i := by
  refine ⟨h, ?_⟩
  cases last with
  | some k =>
    rcases hi with rfl | ⟨hk, hbefore⟩
    · exact .inl rfl
    · refine .inr ⟨?_, hbefore⟩
      rintro _ ⟨⟩
      exact hk
  | none =>
    refine .inr ⟨nofun, ?_⟩
    rcases hi with rfl | ⟨-, hbefore⟩
    · exact nofun
    · exact hbefore

lemma release_last_size (p : IdPool) (id : PublicId) :
    (p.release id).value.last = p.last ∧ (p.release id).value.blocks.size = p.blocks.size := by
  unfold release
  split
  · exact ⟨rfl, rfl⟩
  · split
    · exact ⟨rfl, rfl⟩
    · exact ⟨rfl, Array.size_modify⟩

lemma Sound.last_step (hp : p.Sound) (r : IdRequest) :
    (p.step r).last = ((p.answer r).map (·.block.toNat)).getD p.last := by
  cases r with
  | release id => exact (release_last_size p id).1
  | grant t =>
    rw [step, answer]
    cases hc : p.candidate? with
    | none => simp [grant, hc]
    | some found =>
      obtain ⟨hid, hlast, -⟩ := grant_of_candidate? hc t
      obtain ⟨-, hi, -⟩ := candidate?_spec hp hc
      rw [hid, hlast, Option.map_some, Option.getD_some, block_ofParts_ofNat hi]

lemma Counted.step (hp : p.Counted) (r : IdRequest) : (p.step r).Counted := by
  cases r with
  | grant t => exact hp.grant t
  | release id => exact hp.release id

theorem Counted.last_run (hp : p.Counted) (requests : List IdRequest) :
    (p.run requests).last =
      ((p.given requests).getLast?.map (·.block.toNat)).getD p.last := by
  induction requests generalizing p with
  | nil => rfl
  | cons r requests ih =>
    have hrest := ih (hp.step r)
    rw [IdPool.run, List.foldl_cons, ← IdPool.run, hrest, hp.sound.last_step, given]
    cases hanswer : p.answer r with
    | none => simp
    | some id =>
      rw [Option.toList_some, List.getLast?_append]
      cases (p.step r |>.given requests).getLast? with
      | none => simp
      | some id' => simp

/-! Blocks and peaks -/

lemma taken_le (p : IdPool) : p.taken ≤ IdBlock.size * p.blocks.size := by
  rw [taken_eq_sum, ← Array.length_toList, Nat.mul_comm]
  refine (List.sum_le_card_nsmul _ IdBlock.size ?_).trans_eq ?_
  · intro n hn
    obtain ⟨b, -, rfl⟩ := List.mem_map.mp hn
    exact Nat.sub_le _ _
  · rw [List.length_map, smul_eq_mul]

/-- When no open block has room all of their ids are taken. -/
lemma Sound.taken_of_full (hp : p.Sound) (hfull : ¬∃ j, p.HasRoom j) :
    p.taken = IdBlock.size * p.blocks.size := by
  have hall : ∀ n ∈ p.blocks.toList.map fun b => IdBlock.size - b.free, n = IdBlock.size := by
    intro n hn
    obtain ⟨b, hb, rfl⟩ := List.mem_map.mp hn
    obtain ⟨i, hi⟩ := List.mem_iff_getElem?.mp hb
    rw [Array.getElem?_toList] at hi
    have hnone : b.free = 0 := by
      by_contra hne
      exact hfull ⟨i, b, hi, (hp.blocks_sound i b hi).exists_isFree hne⟩
    rw [hnone, Nat.sub_zero]
  rw [taken_eq_sum, List.eq_replicate_of_mem hall, List.sum_replicate, List.length_map,
    Array.length_toList, smul_eq_mul, Nat.mul_comm]

lemma Counted.taken_eq_ncard (hp : p.Counted) : p.taken = {id | p.isTaken id}.ncard := by
  rw [hp.taken_eq]
  congr 1
  ext id
  exact (isTaken_iff hp.sound).symm

/-- The books are in order, at most `n` ids are taken, and there are as many blocks as `n` ids
need. -/
structure Peaked (p : IdPool) (n : Nat) : Prop where
  counted : p.Counted
  taken_le : p.taken ≤ n
  size_eq : p.blocks.size = (n + 255) / 256

lemma peaked_empty : empty.Peaked 0 :=
  ⟨counted_empty, Nat.le_refl _, rfl⟩

lemma Peaked.grant (hp : p.Peaked n) (t : Handle) :
    (p.grant t).value.2.Peaked (max n (p.grant t).value.2.taken) := by
  have hsound := hp.counted.sound
  have hle := hp.taken_le
  have hsize := hp.size_eq
  refine ⟨hp.counted.grant t, Nat.le_max_right _ _, ?_⟩
  rcases grant_spec hsound t with hnone | ⟨id, hid, hgranted⟩
  · rw [hnone, Nat.max_eq_left hle, hsize]
  · have htaken := hgranted.taken_after
    by_cases hroom : ∃ j, p.HasRoom j
    · obtain ⟨-, -, hafter, -⟩ := hsound.grant_of_room hroom t
      -- one more than `n` are taken at most, and these fit into the blocks that are open
      have hfit := (p.grant t).value.2.taken_le
      rw [hafter] at hfit ⊢
      rw [IdBlock.size] at hfit
      omega
    · have hfull := hsound.taken_of_full hroom
      have hopen : p.blocks.size < maxBlocks := by
        refine Nat.lt_of_le_of_ne hsound.size_le fun hall => ?_
        rw [hsound.grant_of_exhausted hroom hall] at hid
        cases hid
      obtain ⟨-, -, -, hafter⟩ := hsound.grant_of_full hroom hopen t
      rw [IdBlock.size] at hfull
      omega

lemma Counted.taken_release_le (hp : p.Counted) (id : PublicId) :
    (p.release id).value.taken ≤ p.taken := by
  cases hid : p.isTaken id with
  | false => rw [release_of_not_taken hid]
  | true =>
    obtain ⟨t, ht⟩ := Option.isSome_iff_exists.mp ((isTaken_iff hp.sound).mp hid)
    obtain ⟨-, -, -, htaken⟩ := release_spec hp.sound ht
    omega

lemma Peaked.release (hp : p.Peaked n) (id : PublicId) :
    (p.release id).value.Peaked (max n (p.release id).value.taken) := by
  have hle := (hp.counted.taken_release_le id).trans hp.taken_le
  rw [Nat.max_eq_left hle]
  refine ⟨hp.counted.release id, hle, ?_⟩
  rw [(release_last_size p id).2, hp.size_eq]

lemma Peaked.step (hp : p.Peaked n) (r : IdRequest) :
    (p.step r).Peaked (max n (p.step r).taken) := by
  cases r with
  | grant t => exact hp.grant t
  | release id => exact hp.release id

lemma taken_le_peak (p : IdPool) (requests : List IdRequest) : p.taken ≤ p.peak requests := by
  cases requests with
  | nil => exact Nat.le_refl _
  | cons r requests => exact Nat.le_max_left _ _

theorem Peaked.run (hp : p.Peaked n) (requests : List IdRequest) :
    (p.run requests).Peaked (max n (p.peak requests)) := by
  induction requests generalizing p n with
  | nil => rwa [peak, Nat.max_eq_left hp.taken_le]
  | cons r requests ih =>
    have hrest := ih (hp.step r)
    have hfirst := taken_le_peak (p.step r) requests
    rwa [Nat.max_assoc, Nat.max_eq_right hfirst, ← Nat.max_eq_left hp.taken_le, Nat.max_assoc,
      ← peak] at hrest

/-! An id that was given back -/

/-- Whether it was taken or not, an id that was given back is held by nothing. -/
lemma Sound.holder_release (hp : p.Sound) (id id' : PublicId) :
    (p.release id).value.holder id' = if id' = id then none else p.holder id' := by
  cases hid : p.isTaken id with
  | false =>
    rw [release_of_not_taken hid]
    split
    · next heq =>
      rwa [heq, ← Option.not_isSome_iff_eq_none, ← isTaken_iff hp, Bool.not_eq_true]
    · rfl
  | true =>
    obtain ⟨t, ht⟩ := Option.isSome_iff_exists.mp ((isTaken_iff hp).mp hid)
    exact (release_spec hp ht).2.2.1 id'

/-- The id is of an open block and nothing holds it. -/
structure Spare (p : IdPool) (id : PublicId) : Prop where
  lt_size : id.block.toNat < p.blocks.size
  holder_eq : p.holder id = none

lemma Spare.hasRoom {id : PublicId} (h : p.Spare id) (hp : p.Sound) :
    p.HasRoom id.block.toNat := by
  have hnone := h.holder_eq
  rw [IdPool.holder_eq, ← (block_sound hp _).isFree_iff] at hnone
  exact hasRoom_of_isFree h.lt_size hnone

lemma Sound.spare_release (hp : p.Sound) {id : PublicId} (hid : p.isTaken id) :
    (p.release id).value.Spare id := by
  obtain ⟨t, ht⟩ := Option.isSome_iff_exists.mp ((isTaken_iff hp).mp hid)
  obtain ⟨b, hb, -⟩ := Option.bind_eq_some_iff.mp ht
  constructor
  · rw [(release_last_size p id).2]
    exact (Array.getElem?_eq_some_iff.mp hb).1
  · rw [hp.holder_release, if_pos rfl]

/-- A spare id stays spare, and no block is opened, until it is given out. -/
lemma Spare.step {id : PublicId} (h : p.Spare id) (hp : p.Sound) {r : IdRequest}
    (hr : p.answer r ≠ some id) :
    (p.step r).Spare id ∧ (p.step r).blocks.size = p.blocks.size := by
  have hlt := h.lt_size
  have hnone := h.holder_eq
  cases r with
  | grant t =>
    obtain ⟨id', hid', hsize, -⟩ := hp.grant_of_room ⟨_, h.hasRoom hp⟩ t
    refine ⟨⟨hsize ▸ hlt, ?_⟩, hsize⟩
    rcases grant_spec hp t with hrefused | ⟨k, hk, hgranted⟩
    · rw [IdPool.step, hrefused]
      exact hnone
    · have hne : id ≠ k := fun heq => hr (by rw [answer, hk, heq])
      rw [IdPool.step, hgranted.holder_after, if_neg hne]
      exact hnone
  | release k =>
    have hsize := (release_last_size p k).2
    refine ⟨⟨hsize ▸ hlt, ?_⟩, hsize⟩
    rw [IdPool.step, hp.holder_release, hnone, ite_self]

theorem Spare.run {id : PublicId} (h : p.Spare id) (hp : p.Counted) {requests : List IdRequest}
    (hgiven : id ∉ p.given requests) :
    (p.run requests).Spare id ∧ (p.run requests).blocks.size = p.blocks.size := by
  induction requests generalizing p with
  | nil => exact ⟨h, rfl⟩
  | cons r requests ih =>
    rw [given, List.mem_append, not_or, Option.mem_toList] at hgiven
    obtain ⟨hr, hgiven⟩ := hgiven
    obtain ⟨hspare, hsize⟩ := h.step hp.sound hr
    rw [← hsize]
    exact ih hspare (hp.step r) hgiven

end IdPool

/-- After every run of grants and releases, releases of ids that were never given out among them,
there are as many blocks as the most ids that were taken at once need. While some block has room a
grant opens none, and is served by the block that served last or else by the first one with room;
when none has, a grant opens the next block, or is turned down if there is none. An id that was
given back is given out again before a block is opened and before a grant is turned down. -/
theorem blocks_open_at_peaks (requests : List IdRequest) :
    let p := IdPool.empty.run requests
    p.taken = {id | p.isTaken id}.ncard ∧
    p.blocks.size = (IdPool.empty.peak requests + 255) / 256 ∧
    (∀ t, (∃ i, p.HasRoom i) →
      ∃ id, (p.grant t).value.1 = some id ∧ (p.grant t).value.2.blocks.size = p.blocks.size ∧
        p.Serves ((IdPool.empty.given requests).getLast?.map (·.block.toNat))
          id.block.toNat) ∧
    (∀ t, (¬∃ i, p.HasRoom i) →
      p.taken = 256 * p.blocks.size ∧
      (p.blocks.size < 256 →
        ∃ id, (p.grant t).value.1 = some id ∧ id.block.toNat = p.blocks.size ∧
          (p.grant t).value.2.blocks.size = p.blocks.size + 1) ∧
      (p.blocks.size = 256 → (p.grant t).value = (none, p))) ∧
    ∀ id, p.isTaken id →
      let back := (p.release id).value
      ∀ more, id ∉ back.given more →
        (back.run more).blocks.size = p.blocks.size ∧
        ∀ t, ∃ id', ((back.run more).grant t).value.1 = some id' ∧
          ((back.run more).grant t).value.2.blocks.size = p.blocks.size := by
  intro p
  have hpeaked := IdPool.peaked_empty.run requests
  rw [Nat.zero_max] at hpeaked
  have hcounted : p.Counted := hpeaked.counted
  have hp := hcounted.sound
  refine ⟨hcounted.taken_eq_ncard, hpeaked.size_eq, ?_, ?_, ?_⟩
  · intro t hroom
    obtain ⟨id, hid, hsize, hopen, hserves⟩ := hp.grant_of_room hroom t
    have hlast : p.last = _ := IdPool.counted_empty.last_run requests
    rw [hlast] at hserves
    exact ⟨id, hid, hsize, hopen.serves hserves⟩
  · intro t hfull
    exact ⟨hp.taken_of_full hfull, fun hsize => hp.grant_of_full hfull hsize t,
      fun hsize => hp.grant_of_exhausted hfull hsize t⟩
  · intro id hid back more hgiven
    have hback : back.Counted := hcounted.release id
    have hq : (back.run more).Sound := (hback.run more).sound
    obtain ⟨hspare, hafter⟩ := (hp.spare_release hid).run hback hgiven
    have hkept := hafter.trans (IdPool.release_last_size p id).2
    refine ⟨hkept, ?_⟩
    intro t
    obtain ⟨id', hid', hopened, -⟩ := hq.grant_of_room ⟨_, hspare.hasRoom hq⟩ t
    exact ⟨id', hid', hopened.trans hkept⟩

end Whereabouts
