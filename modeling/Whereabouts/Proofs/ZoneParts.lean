import Mathlib.Data.List.Rotate
import Mathlib.Algebra.Order.Group.Multiset
import Whereabouts.Zone

/-!
# The parts of a zone

The array of a zone falls into three parts: characters, other movable things and fixed things. To
let a thing in, each part behind its own turns by one place; to let it out, each of them, and what
stood behind the thing in its own part, turns back.
-/

namespace Whereabouts

inductive Part where
  | characters
  | others
  | fixed
deriving DecidableEq

/-- The place of a part in the array, counted from the front. -/
def Part.rank : Part → Nat
  | .characters => 0
  | .others => 1
  | .fixed => 2

/-- The part that things of a kind stand in. -/
def Kind.part : Kind → Part
  | .character => .characters
  | .monster | .npc => .others
  | .fixed => .fixed

lemma swap_forward {α : Type} {xs : Array α} {A B D : List α} {t : α}
    (h : xs.toList = A ++ (B ++ t :: D)) {i j : Nat} (hi : i = A.length)
    (hj : j = A.length + B.length) (hi' : i < xs.size) (hj' : j < xs.size) :
    (xs.swap i j hi' hj').toList = A ++ (t :: B.rotate 1 ++ D) := by
  obtain ⟨l⟩ := xs
  simp only at h
  subst h hi hj
  cases B with
  | nil => simp
  | cons b B => simp

lemma swap_back {α : Type} {xs : Array α} {A B D : List α} {t : α}
    (h : xs.toList = A ++ (t :: B ++ D)) {i j : Nat} (hi : i = A.length)
    (hj : j = A.length + B.length) (hi' : i < xs.size) (hj' : j < xs.size) :
    (xs.swap i j hi' hj').toList = A ++ (B.rotate (B.length - 1) ++ t :: D) := by
  obtain ⟨l⟩ := xs
  simp only at h
  subst h hi hj
  cases B using List.reverseRecOn with
  | nil => simp
  | append_singleton B b => simp

namespace Zone

def part (z : Zone) : Part → List Handle
  | .characters => z.things.toList.take z.characters
  | .others => (z.things.toList.take z.moving).drop z.characters
  | .fixed => z.things.toList.drop z.moving

lemma take_moving (z : Zone) :
    z.things.toList.take z.moving = z.part .characters ++ z.part .others := by
  have hc := z.characters_le
  conv_lhs => rw [← List.take_append_drop z.characters (z.things.toList.take z.moving)]
  rw [List.take_take, Nat.min_eq_left hc]
  rfl

lemma toList_things (z : Zone) :
    z.things.toList = z.part .characters ++ (z.part .others ++ z.part .fixed) := by
  rw [← List.append_assoc, ← take_moving]
  exact (List.take_append_drop _ _).symm

lemma toList_segment_moving (z : Zone) :
    (z.segment .moving).toList = z.part .characters ++ z.part .others := by
  rw [← take_moving, segment, Array.toList_extract]
  rfl

lemma length_part_characters (z : Zone) : (z.part .characters).length = z.characters := by
  have hc := z.characters_le
  have hm := z.moving_le
  simp only [part, List.length_take, Array.length_toList]
  omega

lemma length_part_others (z : Zone) :
    (z.part .characters).length + (z.part .others).length = z.moving := by
  have hc := z.characters_le
  have hm := z.moving_le
  rw [length_part_characters]
  simp only [part, List.length_take, List.length_drop, Array.length_toList]
  omega

lemma length_part_fixed (z : Zone) :
    (z.part .characters).length + (z.part .others).length + (z.part .fixed).length =
      z.things.size := by
  have h := congrArg List.length z.toList_things
  simp only [List.length_append, Array.length_toList] at h
  omega

/-- The parts of a zone whose array and counters are known. -/
lemma part_eq {z : Zone} {C M F : List Handle} (h : z.things.toList = C ++ (M ++ F))
    (hc : z.characters = C.length) (hm : z.moving = C.length + M.length) :
    z.part .characters = C ∧ z.part .others = M ∧ z.part .fixed = F := by
  refine ⟨?_, ?_, ?_⟩
  · simp [part, h, hc]
  · rw [part, h, hc, hm, ← List.append_assoc, ← List.length_append, List.take_left, List.drop_left]
  · rw [part, h, hm, ← List.append_assoc, ← List.length_append, List.drop_left]

lemma parts_insert_character (z : Zone) (t : Handle) :
    (z.insert t .character).part .characters = z.part .characters ++ [t] ∧
      (z.insert t .character).part .others = (z.part .others).rotate 1 ∧
      (z.insert t .character).part .fixed = (z.part .fixed).rotate 1 := by
  have hlist := z.toList_things
  have hc := z.length_part_characters
  have hm := z.length_part_others
  have hs := z.length_part_fixed
  generalize z.part .characters = C at *
  generalize z.part .others = M at *
  generalize z.part .fixed = F at *
  have hpush : (z.things.push t).toList = (C ++ M) ++ (F ++ t :: []) := by
    simp [hlist]
  have hfirst := swap_forward hpush (i := z.moving) (j := z.things.size)
    (by simp [hm]) (by simp; omega) (by simp; omega) (by simp)
  have hsecond := swap_forward (A := C) (B := M) (t := t) (D := F.rotate 1)
    (hfirst.trans (by simp)) hc.symm hm.symm (by simp; omega) (by simp; omega)
  apply part_eq
  · exact hsecond.trans (by simp)
  · simp [insert, insertCharacter, hc]
  · simp only [insert, insertCharacter, List.length_append, List.length_singleton,
      List.length_rotate]
    omega

lemma parts_insert_monster (z : Zone) (t : Handle) :
    (z.insert t .monster).part .characters = z.part .characters ∧
      (z.insert t .monster).part .others = z.part .others ++ [t] ∧
      (z.insert t .monster).part .fixed = (z.part .fixed).rotate 1 := by
  have hlist := z.toList_things
  have hc := z.length_part_characters
  have hm := z.length_part_others
  have hs := z.length_part_fixed
  generalize z.part .characters = C at *
  generalize z.part .others = M at *
  generalize z.part .fixed = F at *
  have hpush : (z.things.push t).toList = (C ++ M) ++ (F ++ t :: []) := by
    simp [hlist]
  have hswap := swap_forward hpush (i := z.moving) (j := z.things.size)
    (by simp [hm]) (by simp; omega) (by simp; omega) (by simp)
  apply part_eq
  · exact hswap.trans (by simp)
  · simp [insert, insertOther, hc]
  · simp only [insert, insertOther, List.length_append, List.length_singleton]
    omega

lemma parts_insert_fixed (z : Zone) (t : Handle) :
    (z.insert t .fixed).part .characters = z.part .characters ∧
      (z.insert t .fixed).part .others = z.part .others ∧
      (z.insert t .fixed).part .fixed = z.part .fixed ++ [t] := by
  have hlist := z.toList_things
  have hc := z.length_part_characters
  have hm := z.length_part_others
  apply part_eq
  · simp [insert, insertFixed, hlist]
  · simp [insert, insertFixed, hc]
  · simp [insert, insertFixed, hm]

/-- What letting a thing in does to each part. -/
theorem part_insert (z : Zone) (t : Handle) (kind : Kind) (q : Part) :
    (z.insert t kind).part q =
      if q = kind.part then z.part q ++ [t]
      else if kind.part.rank < q.rank then (z.part q).rotate 1
      else z.part q := by
  have hcharacter := z.parts_insert_character t
  have hmonster := z.parts_insert_monster t
  have hnpc : z.insert t .npc = z.insert t .monster := rfl
  have hfixed := z.parts_insert_fixed t
  cases kind <;> cases q <;> simp [Kind.part, Part.rank, *]

/-- The search goes through a slice from the front and stops at the first place of the thing. -/
lemma firstPlace?_spec {xs : Array Handle} {t : Handle} {lo hi : Nat} {hhi : hi ≤ xs.size}
    {A S D : List Handle} (h : xs.toList = A ++ (S ++ D)) (hlo : lo = A.length)
    (hlen : hi = A.length + S.length) :
    firstPlace? xs t lo hi hhi = none ∧ t ∉ S ∨
      ∃ P Q, S = P ++ t :: Q ∧ t ∉ P ∧ firstPlace? xs t lo hi hhi = some (lo + P.length) := by
  induction S generalizing A lo with
  | nil =>
    refine .inl ⟨?_, List.not_mem_nil⟩
    rw [firstPlace?, dif_neg (by simp at hlen; omega)]
  | cons s S ih =>
    have hlt : lo < hi := by simp only [List.length_cons] at hlen; omega
    have hget : xs[lo] = s := by
      rw [← Array.getElem_toList]
      simp [h, hlo]
    rw [firstPlace?, dif_pos hlt, hget]
    by_cases hs : s = t
    · refine .inr ⟨[], S, by rw [hs]; rfl, List.not_mem_nil, ?_⟩
      rw [if_pos hs]
      rfl
    · rw [if_neg hs]
      have hlo' : lo + 1 = (A ++ [s]).length := by
        simp [hlo]
      rcases ih (A := A ++ [s]) (by simp [h]) hlo' (by simp at hlen ⊢; omega) with
        ⟨hnone, hnot⟩ | ⟨P, Q, hS, hP, hsome⟩
      · exact .inl ⟨hnone, by simp [Ne.symm hs, hnot]⟩
      · refine .inr ⟨s :: P, Q, by rw [hS]; rfl, by simp [Ne.symm hs, hP], ?_⟩
        rw [hsome, List.length_cons]
        congr 1
        omega

/-- Where a part begins in the array. -/
def start (z : Zone) : Part → Nat
  | .characters => 0
  | .others => z.characters
  | .fixed => z.moving

/-- A thing is found at its first place in the part of its kind, or is not in it. -/
theorem place?_spec (z : Zone) (t : Handle) (kind : Kind) :
    z.place? t kind = none ∧ t ∉ z.part kind.part ∨
      ∃ P Q, z.part kind.part = P ++ t :: Q ∧ t ∉ P ∧
        z.place? t kind = some (z.start kind.part + P.length) := by
  have hlist := z.toList_things
  have hc := z.length_part_characters
  have hm := z.length_part_others
  have hs := z.length_part_fixed
  have hothers : z.things.toList = z.part .characters ++ (z.part .others ++ z.part .fixed) := hlist
  have hfixed : z.things.toList =
      (z.part .characters ++ z.part .others) ++ (z.part .fixed ++ []) := by simp [hlist]
  cases kind with
  | character => exact firstPlace?_spec (A := []) hlist rfl (by simp [Kind.part, hc])
  | monster => exact firstPlace?_spec hothers hc.symm hm.symm
  | npc => exact firstPlace?_spec hothers hc.symm hm.symm
  | fixed => exact firstPlace?_spec hfixed (by simp [hm]) (by simp [Kind.part]; omega)

lemma parts_eraseAt_characters (z : Zone) {t : Handle} {P Q : List Handle}
    (h : z.part .characters = P ++ t :: Q) :
    (z.eraseAt P.length).part .characters = P ++ Q.rotate (Q.length - 1) ∧
      (z.eraseAt P.length).part .others =
        (z.part .others).rotate ((z.part .others).length - 1) ∧
      (z.eraseAt P.length).part .fixed =
        (z.part .fixed).rotate ((z.part .fixed).length - 1) := by
  have hlist := z.toList_things
  have hc := z.length_part_characters
  have hm := z.length_part_others
  have hs := z.length_part_fixed
  rw [h] at hlist hc hm hs
  generalize z.part .others = M at *
  generalize z.part .fixed = F at *
  simp only [List.length_append, List.length_cons] at hc hm hs
  have hlt : P.length < z.characters := by omega
  have hfirst := swap_back (A := P) (B := Q) (t := t) (D := M ++ F) (hlist.trans (by simp))
    (i := P.length) (j := z.characters - 1) rfl (by omega) (by omega) (by omega)
  have hsecond := swap_back (A := P ++ Q.rotate (Q.length - 1)) (B := M) (t := t) (D := F)
    (hfirst.trans (by simp)) (i := z.characters - 1) (j := z.moving - 1)
    (by simp; omega) (by simp; omega) (by simp; omega) (by simp; omega)
  have hthird := swap_back (A := P ++ Q.rotate (Q.length - 1) ++ M.rotate (M.length - 1)) (B := F)
    (t := t) (D := []) (hsecond.trans (by simp)) (i := z.moving - 1) (j := z.things.size - 1)
    (by simp; omega) (by simp; omega) (by simp; omega) (by simp; omega)
  have herase : (z.eraseAt P.length).things.toList =
      P ++ Q.rotate (Q.length - 1) ++ (M.rotate (M.length - 1) ++ F.rotate (F.length - 1)) := by
    simp only [eraseAt, dif_pos hlt, Array.toList_pop, hthird]
    simp
  apply part_eq herase
  · simp only [eraseAt, dif_pos hlt, List.length_append, List.length_rotate]
    omega
  · simp only [eraseAt, dif_pos hlt, List.length_append, List.length_rotate]
    omega

lemma parts_eraseAt_others (z : Zone) {t : Handle} {P Q : List Handle}
    (h : z.part .others = P ++ t :: Q) :
    (z.eraseAt (z.characters + P.length)).part .characters = z.part .characters ∧
      (z.eraseAt (z.characters + P.length)).part .others = P ++ Q.rotate (Q.length - 1) ∧
      (z.eraseAt (z.characters + P.length)).part .fixed =
        (z.part .fixed).rotate ((z.part .fixed).length - 1) := by
  have hlist := z.toList_things
  have hc := z.length_part_characters
  have hm := z.length_part_others
  have hs := z.length_part_fixed
  rw [h] at hlist hm hs
  generalize z.part .characters = C at *
  generalize z.part .fixed = F at *
  simp only [List.length_append, List.length_cons] at hm hs
  have hge : ¬z.characters + P.length < z.characters := by omega
  have hlt : z.characters + P.length < z.moving := by omega
  have hfirst := swap_back (A := C ++ P) (B := Q) (t := t) (D := F) (hlist.trans (by simp))
    (i := z.characters + P.length) (j := z.moving - 1)
    (by simp; omega) (by simp; omega) (by omega) (by omega)
  have hsecond := swap_back (A := C ++ P ++ Q.rotate (Q.length - 1)) (B := F) (t := t) (D := [])
    (hfirst.trans (by simp)) (i := z.moving - 1) (j := z.things.size - 1)
    (by simp; omega) (by simp; omega) (by simp; omega) (by simp; omega)
  have herase : (z.eraseAt (z.characters + P.length)).things.toList =
      C ++ ((P ++ Q.rotate (Q.length - 1)) ++ F.rotate (F.length - 1)) := by
    simp only [eraseAt, dif_neg hge, dif_pos hlt, Array.toList_pop, hsecond]
    simp
  apply part_eq herase
  · simp only [eraseAt, dif_neg hge, dif_pos hlt]
    omega
  · simp only [eraseAt, dif_neg hge, dif_pos hlt, List.length_append, List.length_rotate]
    omega

lemma parts_eraseAt_fixed (z : Zone) {t : Handle} {P Q : List Handle}
    (h : z.part .fixed = P ++ t :: Q) :
    (z.eraseAt (z.moving + P.length)).part .characters = z.part .characters ∧
      (z.eraseAt (z.moving + P.length)).part .others = z.part .others ∧
      (z.eraseAt (z.moving + P.length)).part .fixed = P ++ Q.rotate (Q.length - 1) := by
  have hlist := z.toList_things
  have hc := z.length_part_characters
  have hm := z.length_part_others
  have hs := z.length_part_fixed
  rw [h] at hlist hs
  generalize z.part .characters = C at *
  generalize z.part .others = M at *
  simp only [List.length_append, List.length_cons] at hs
  have hgec : ¬z.moving + P.length < z.characters := by omega
  have hgem : ¬z.moving + P.length < z.moving := by omega
  have hlt : z.moving + P.length < z.things.size := by omega
  have hswap := swap_back (A := C ++ M ++ P) (B := Q) (t := t) (D := []) (hlist.trans (by simp))
    (i := z.moving + P.length) (j := z.things.size - 1)
    (by simp; omega) (by simp; omega) (by omega) (by omega)
  have herase : (z.eraseAt (z.moving + P.length)).things.toList =
      C ++ (M ++ (P ++ Q.rotate (Q.length - 1))) := by
    simp only [eraseAt, dif_neg hgec, dif_neg hgem, dif_pos hlt, Array.toList_pop, hswap]
    simp
  apply part_eq herase
  · simp only [eraseAt, dif_neg hgec, dif_neg hgem, dif_pos hlt]
    omega
  · simp only [eraseAt, dif_neg hgec, dif_neg hgem, dif_pos hlt]
    omega

/-- What letting a thing out does to each part. -/
theorem part_eraseAt (z : Zone) {t : Handle} {p : Part} {P Q : List Handle}
    (h : z.part p = P ++ t :: Q) (q : Part) :
    (z.eraseAt (z.start p + P.length)).part q =
      if q = p then P ++ Q.rotate (Q.length - 1)
      else if p.rank < q.rank then (z.part q).rotate ((z.part q).length - 1)
      else z.part q := by
  cases p with
  | characters =>
    have hparts := z.parts_eraseAt_characters h
    cases q <;> simp [start, Part.rank, hparts]
  | others =>
    have hparts := z.parts_eraseAt_others h
    cases q <;> simp [start, Part.rank, hparts]
  | fixed =>
    have hparts := z.parts_eraseAt_fixed h
    cases q <;> simp [start, Part.rank, hparts]

/-! What stands in each part, whatever its order. -/

theorem coe_part_insert (z : Zone) (t : Handle) (kind : Kind) (q : Part) :
    ((z.insert t kind).part q : Multiset Handle) =
      (if q = kind.part then {t} else 0) + (z.part q : Multiset Handle) := by
  rw [part_insert]
  by_cases hq : q = kind.part
  · simp [hq, ← Multiset.coe_add, add_comm]
  · rw [if_neg hq, if_neg hq, zero_add]
    split
    · exact Multiset.coe_eq_coe.mpr (List.rotate_perm _ _)
    · rfl

theorem coe_part_eraseAt (z : Zone) {t : Handle} {kind : Kind} {i : Nat}
    (h : z.place? t kind = some i) (q : Part) :
    (z.part q : Multiset Handle) =
      (if q = kind.part then {t} else 0) + ((z.eraseAt i).part q : Multiset Handle) := by
  rcases z.place?_spec t kind with ⟨hnone, -⟩ | ⟨P, Q, hpart, -, hsome⟩
  · simp [hnone] at h
  · rw [hsome, Option.some.injEq] at h
    rw [← h, z.part_eraseAt hpart]
    by_cases hq : q = kind.part
    · have hturn : ((Q.rotate (Q.length - 1) : List Handle) : Multiset Handle) = Q :=
        Multiset.coe_eq_coe.mpr (List.rotate_perm _ _)
      rw [if_pos hq, if_pos hq, hq, hpart, ← Multiset.coe_add, ← Multiset.coe_add, hturn,
        ← Multiset.cons_coe, Multiset.singleton_add, Multiset.add_cons]
    · rw [if_neg hq, if_neg hq, zero_add]
      split
      · exact (Multiset.coe_eq_coe.mpr (List.rotate_perm _ _)).symm
      · rfl

lemma place?_isSome {z : Zone} {t : Handle} {kind : Kind} (h : t ∈ z.part kind.part) :
    ∃ i, z.place? t kind = some i := by
  rcases z.place?_spec t kind with ⟨-, hnot⟩ | ⟨P, Q, -, -, hsome⟩
  · exact absurd h hnot
  · exact ⟨_, hsome⟩

lemma departures_insert (z : Zone) (t : Handle) (kind : Kind) :
    (z.insert t kind).departures = z.departures := by
  cases kind <;> rfl

lemma departures_eraseAt (z : Zone) (i : Nat) : (z.eraseAt i).departures = z.departures := by
  unfold eraseAt
  dsimp only
  split
  · rfl
  · split
    · rfl
    · split
      · rfl
      · rfl

end Zone

end Whereabouts
