import Mathlib.Data.Set.Card
import Whereabouts.Proofs.IdPools

/-!
# The pool as a ledger

To its callers a pool is no more than a partial map from public ids to things. However grants and
releases follow each other, releases of ids that were never given out among them, a grant fills one
of the places that are free, a release empties its place, and nothing else in the map changes.
-/

namespace Whereabouts

def PublicId.equivFin : PublicId ≃ Fin 65536 where
  toFun id := id.raw.toFin
  invFun n := ⟨.ofFin n⟩
  left_inv _ := rfl
  right_inv _ := rfl

instance PublicId.finite : Finite PublicId :=
  .of_equiv (Fin 65536) equivFin.symm

lemma PublicId.card_eq : Nat.card PublicId = 65536 := by
  rw [Nat.card_congr equivFin, Nat.card_fin]

/-- What is asked of a pool. -/
inductive IdRequest where
  | grant (t : Handle)
  | release (id : PublicId)
deriving DecidableEq

namespace IdPool

def step (p : IdPool) : IdRequest → IdPool
  | .grant t => (p.grant t).value.2
  | .release id => (p.release id).value

def run (p : IdPool) (requests : List IdRequest) : IdPool :=
  requests.foldl step p

/-- The ids that things hold. -/
def held (p : IdPool) : Set PublicId :=
  {id | (p.holder id).isSome}

/-- The books of a pool: each block agrees with itself, and the ids that are held are counted. -/
structure Counted (p : IdPool) : Prop where
  sound : p.Sound
  taken_eq : p.taken = p.held.ncard

variable {p : IdPool}

lemma counted_empty : empty.Counted where
  sound := sound_empty
  taken_eq := by
    have hnone : empty.held = ∅ := by
      ext id
      simp [held, holder, empty]
    rw [hnone, Set.ncard_empty]
    rfl

lemma Granted.held_after {p' : IdPool} {t : Handle} {id : PublicId} (h : p.Granted t id p') :
    p'.held = insert id p.held := by
  ext id'
  rw [held, Set.mem_ofPred_eq, h.holder_after, Set.mem_insert_iff]
  by_cases hid : id' = id
  · simp [hid]
  · simp [hid, held]

lemma Counted.grant (hp : p.Counted) (t : Handle) : (p.grant t).value.2.Counted := by
  rcases grant_spec hp.sound t with hnone | ⟨id, -, hgranted⟩
  · rwa [hnone]
  · have hnew : id ∉ p.held := by simp [held, hgranted.holder_before]
    refine ⟨hgranted.sound, ?_⟩
    rw [hgranted.taken_after, hgranted.held_after, Set.ncard_insert_of_notMem hnew, hp.taken_eq]

lemma Counted.release (hp : p.Counted) (id : PublicId) : (p.release id).value.Counted := by
  cases hid : p.isTaken id with
  | false => rwa [release_of_not_taken hid]
  | true =>
    obtain ⟨t, ht⟩ := Option.isSome_iff_exists.mp ((isTaken_iff hp.sound).mp hid)
    obtain ⟨-, hsound, hholder, htaken⟩ := release_spec hp.sound ht
    have hheld : (p.release id).value.held = p.held \ {id} := by
      ext id'
      rw [held, Set.mem_ofPred_eq, hholder, Set.mem_sdiff_singleton]
      by_cases hid' : id' = id
      · simp [hid']
      · simp [hid', held]
    have hmem : id ∈ p.held := by simp [held, ht]
    have hcount := Set.ncard_sdiff_singleton_add_one hmem
    refine ⟨hsound, ?_⟩
    rw [← hheld, ← hp.taken_eq] at hcount
    omega

theorem Counted.run (hp : p.Counted) (requests : List IdRequest) : (p.run requests).Counted := by
  induction requests generalizing p with
  | nil => exact hp
  | cons r requests ih =>
    apply ih
    cases r with
    | grant t => exact hp.grant t
    | release id => exact hp.release id

/-- Every id is held exactly when the count has reached the number of ids there are. -/
lemma Counted.taken_eq_all_iff (hp : p.Counted) :
    p.taken = 65536 ↔ ∀ id, (p.holder id).isSome := by
  rw [hp.taken_eq, ← PublicId.card_eq, ← Set.eq_univ_iff_ncard, Set.eq_univ_iff_forall]
  rfl

end IdPool

/-- After every run of grants and releases a pool acts as a partial map from ids to things: a grant
is turned down exactly when all ids are taken, and else adds one place to the map; a release of a
taken id empties its place; whatever has nothing to do leaves the pool as it is. -/
theorem pool_acts_as_partial_map (requests : List IdRequest) :
    let p := IdPool.empty.run requests
    (∀ t,
      ((p.grant t).value.1 = none ↔ p.taken = 65536) ∧
      ((p.grant t).value.1 = none → (p.grant t).value.2 = p) ∧
      ∀ id, (p.grant t).value.1 = some id →
        p.isTaken id = false ∧
          (p.grant t).value.2.holder = Function.update p.holder id (some t)) ∧
    (∀ id, p.isTaken id →
      (p.release id).value.holder = Function.update p.holder id none) ∧
    (∀ id, p.isTaken id = false → (p.release id).value = p) ∧
    (∀ id, p.isTaken id ↔ (p.holder id).isSome) ∧
    p.taken = {id | p.isTaken id}.ncard := by
  intro p
  have hp : p.Counted := IdPool.counted_empty.run requests
  have hiff : ∀ id, p.isTaken id ↔ (p.holder id).isSome := fun id => IdPool.isTaken_iff hp.sound
  refine ⟨?_, ?_, fun id => IdPool.release_of_not_taken, hiff, ?_⟩
  · intro t
    refine ⟨?_, ?_, ?_⟩
    · rw [hp.sound.grant_eq_none_iff, hp.taken_eq_all_iff]
    · intro hnone
      rw [hp.sound.grant_of_none hnone]
    · intro id hid
      rcases IdPool.grant_spec hp.sound t with hnone | ⟨id', hid', hgranted⟩
      · rw [hnone] at hid
        cases hid
      · obtain rfl : id' = id := Option.some.inj (hid'.symm.trans hid)
        constructor
        · rw [← Bool.not_eq_true, hiff, hgranted.holder_before]
          exact Bool.false_ne_true
        · funext k
          rw [hgranted.holder_after, Function.update_apply]
  · intro id hid
    obtain ⟨t, ht⟩ := Option.isSome_iff_exists.mp ((hiff id).mp hid)
    obtain ⟨-, -, hholder, -⟩ := IdPool.release_spec hp.sound ht
    funext k
    rw [hholder, Function.update_apply]
  · rw [hp.taken_eq]
    congr 1
    ext id
    exact (hiff id).symm

end Whereabouts
