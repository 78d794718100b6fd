import Whereabouts.Zone.Id

/-!
# Regions

A region is a finite set of zones, kept as a strictly ascending array: membership is a binary
search, and two regions with the same members are equal. `mem_insert`, `mem_union` and
`mem_ofList` say what the operations do to the set.
-/

namespace Whereabouts

instance : LT ZoneId := ⟨fun a b => a.index < b.index⟩

instance (a b : ZoneId) : Decidable (a < b) :=
  inferInstanceAs (Decidable (a.index < b.index))

namespace ZoneId

theorem lt_iff_toNat_lt {a b : ZoneId} : a < b ↔ a.index.toNat < b.index.toNat :=
  UInt32.lt_iff_toNat_lt

theorem eq_of_not_lt {a b : ZoneId} (h : ¬a < b) (h' : ¬b < a) : a = b := by
  rw [lt_iff_toNat_lt] at h h'
  have he : a.index = b.index := UInt32.toNat_inj.mp (by omega)
  cases a
  cases b
  exact congrArg _ he

theorem lt_trans {a b c : ZoneId} (h : a < b) (h' : b < c) : a < c := by
  rw [lt_iff_toNat_lt] at *
  omega

theorem lt_irrefl (a : ZoneId) : ¬a < a := by
  rw [lt_iff_toNat_lt]
  omega

end ZoneId

/-- Zones in strictly ascending order. -/
def Ascending (zones : Array ZoneId) : Prop :=
  zones.toList.Pairwise (· < ·)

theorem ascending_iff {zones : Array ZoneId} :
    Ascending zones ↔
      ∀ i j (hi : i < zones.size) (hj : j < zones.size), i < j → zones[i] < zones[j] := by
  simp [Ascending, List.pairwise_iff_getElem]

structure Region where
  zones : Array ZoneId
  ascending : Ascending zones
deriving DecidableEq

namespace Region

def empty : Region := ⟨#[], .nil⟩

instance : Inhabited Region := ⟨empty⟩

instance : Membership ZoneId Region := ⟨fun r z => z ∈ r.zones⟩

def size (r : Region) : Nat :=
  r.zones.size

def isEmpty (r : Region) : Bool :=
  r.zones.isEmpty

/-- The zone at a place in ascending order. -/
def get? (r : Region) (i : Nat) : Option ZoneId :=
  r.zones[i]?

def toList (r : Region) : List ZoneId :=
  r.zones.toList

/-- The first place from `lo` on, and at most `hi`, whose zone is not below `z`. -/
def lowerBound (zones : Array ZoneId) (z : ZoneId) (lo hi : Nat) (hhi : hi ≤ zones.size) : Nat :=
  if h : lo < hi then
    let mid := lo + (hi - lo) / 2
    if zones[mid] < z then lowerBound zones z (mid + 1) hi hhi
    else lowerBound zones z lo mid (by omega)
  else lo
termination_by hi - lo

/-- Where `z` stands in the region, or would stand. -/
def place (r : Region) (z : ZoneId) : Nat :=
  lowerBound r.zones z 0 r.zones.size (Nat.le_refl _)

def contains (r : Region) (z : ZoneId) : Bool :=
  r.zones[r.place z]? == some z

theorem lowerBound_le {zones : Array ZoneId} {z : ZoneId} {lo hi : Nat} {hhi : hi ≤ zones.size}
    (h : lo ≤ hi) : lowerBound zones z lo hi hhi ≤ hi := by
  fun_induction lowerBound zones z lo hi hhi with
  | case1 lo hi hhi hlt mid hz ih => exact ih (by omega)
  | case2 lo hi hhi hlt mid hz ih => exact Nat.le_trans (ih (by omega)) (by omega)
  | case3 lo hi hhi hlt => exact h

/-- The zones below `z` are those before its lower bound. -/
theorem lowerBound_splits {zones : Array ZoneId} (ha : Ascending zones) {z : ZoneId} {lo hi : Nat}
    {hhi : hi ≤ zones.size} (hle : lo ≤ hi)
    (hbelow : ∀ i (h : i < zones.size), i < lo → zones[i] < z)
    (habove : ∀ i (h : i < zones.size), hi ≤ i → ¬zones[i] < z) (i : Nat) (h : i < zones.size) :
    zones[i] < z ↔ i < lowerBound zones z lo hi hhi := by
  have hmono := ascending_iff.mp ha
  fun_induction lowerBound zones z lo hi hhi with
  | case1 lo hi hhi hlt mid hz ih =>
    refine ih (by omega) (fun j hj hjm => ?_) habove
    by_cases he : j = mid
    · exact he ▸ hz
    · exact ZoneId.lt_trans (hmono j mid hj (by omega) (by omega)) hz
  | case2 lo hi hhi hlt mid hz ih =>
    refine ih (by omega) hbelow (fun j hj hjm => ?_)
    by_cases he : j = mid
    · exact he ▸ hz
    · exact fun hj' => hz (ZoneId.lt_trans (hmono mid j (by omega) hj (by omega)) hj')
  | case3 lo hi hhi hlt =>
    exact ⟨fun hz => Nat.lt_of_not_le fun hge => habove i h (by omega) hz, hbelow i h⟩

theorem place_le (r : Region) (z : ZoneId) : r.place z ≤ r.zones.size :=
  lowerBound_le (Nat.zero_le _)

theorem lt_iff_lt_place (r : Region) (z : ZoneId) (i : Nat) (h : i < r.zones.size) :
    r.zones[i] < z ↔ i < r.place z :=
  lowerBound_splits r.ascending (Nat.zero_le _) (by omega) (by omega) i h

theorem ascending_insertIdx (r : Region) (z : ZoneId) (hz : r.zones[r.place z]? ≠ some z) :
    Ascending (r.zones.insertIdx (r.place z) z (r.place_le z)) := by
  have hmono := ascending_iff.mp r.ascending
  have hplace := r.lt_iff_lt_place z
  have hle := r.place_le z
  have habove : ∀ i (h : i < r.zones.size), r.place z ≤ i → z < r.zones[i] := by
    intro i h hi
    have hne : r.zones[r.place z] ≠ z := fun he =>
      hz (by rw [Array.getElem?_eq_getElem (by omega), he])
    have hlt : z < r.zones[r.place z] := by
      refine Decidable.byContradiction fun hge => hne (ZoneId.eq_of_not_lt ?_ hge)
      rw [hplace]
      omega
    by_cases he : r.place z = i
    · exact he ▸ hlt
    · exact ZoneId.lt_trans hlt (hmono _ i (by omega) h (by omega))
  refine ascending_iff.mpr fun i j hi hj hij => ?_
  rw [Array.size_insertIdx] at hi hj
  rw [Array.getElem_insertIdx, Array.getElem_insertIdx]
  by_cases hip : i < r.place z
  · rw [dif_pos hip]
    by_cases hjp : j < r.place z
    · rw [dif_pos hjp]
      exact hmono i j (by omega) (by omega) hij
    · rw [dif_neg hjp]
      split
      · exact (hplace i (by omega)).mpr hip
      · exact hmono i (j - 1) (by omega) (by omega) (by omega)
  · rw [dif_neg hip, dif_neg (by omega : ¬j < r.place z), dif_neg (by omega : ¬j = r.place z)]
    split
    · exact habove (j - 1) (by omega) (by omega)
    · exact hmono (i - 1) (j - 1) (by omega) (by omega) (by omega)

/-- Add a zone, at its place unless it is there already. -/
def insert (r : Region) (z : ZoneId) : Region :=
  if h : r.zones[r.place z]? = some z then r
  else ⟨r.zones.insertIdx (r.place z) z (r.place_le z), r.ascending_insertIdx z h⟩

/-- The zones of a list, whatever its order and however often each is named. -/
def ofList (zones : List ZoneId) : Region :=
  zones.foldl insert empty

/-- Merge two ascending arrays from `i` and from `j` on behind `out` until one of them is used up,
and say how far that went in each. -/
def merge (xs ys : Array ZoneId) (i j : Nat) (out : Array ZoneId) : Array ZoneId × Nat × Nat :=
  if h : i < xs.size ∧ j < ys.size then
    if ys[j] < xs[i] then merge xs ys i (j + 1) (out.push ys[j])
    else merge xs ys (i + 1) (if xs[i] = ys[j] then j + 1 else j) (out.push xs[i])
  else (out, i, j)
termination_by (xs.size - i) + (ys.size - j)
decreasing_by
  · omega
  · split <;> omega

theorem ascending_push {out : Array ZoneId} {z : ZoneId} (ho : Ascending out)
    (hz : ∀ o ∈ out, o < z) : Ascending (out.push z) := by
  simp only [Ascending, Array.toList_push, List.pairwise_append]
  exact ⟨ho, by simp, by simpa using hz⟩

/-- The zone `z` comes before all that `xs` holds from `i` on. -/
def Before (z : ZoneId) (xs : Array ZoneId) (i : Nat) : Prop :=
  ∀ k (h : k < xs.size), i ≤ k → z < xs[k]

theorem Before.succ {z : ZoneId} {xs : Array ZoneId} {i : Nat} (h : Before z xs i) :
    Before z xs (i + 1) :=
  fun k hk hik => h k hk (by omega)

theorem before_of_lt {z : ZoneId} {xs : Array ZoneId} {i : Nat} {hi : i < xs.size}
    (hx : Ascending xs) (h : z < xs[i]) : Before z xs i := by
  intro k hk hik
  by_cases he : i = k
  · exact he ▸ h
  · exact ZoneId.lt_trans h (ascending_iff.mp hx i k hi hk (by omega))

theorem before_succ {xs : Array ZoneId} {i : Nat} {hi : i < xs.size} (hx : Ascending xs) :
    Before xs[i] xs (i + 1) :=
  fun k hk hik => ascending_iff.mp hx i k hi hk (by omega)

/-- All that `xs` holds from `i` on comes behind `out`. -/
def Behind (out xs : Array ZoneId) (i : Nat) : Prop :=
  ∀ o ∈ out, Before o xs i

theorem Behind.push {out xs : Array ZoneId} {i : Nat} {z : ZoneId} (h : Behind out xs i)
    (hz : Before z xs i) : Behind (out.push z) xs i := by
  intro o ho
  rcases Array.mem_push.mp ho with ho | rfl
  · exact h o ho
  · exact hz

theorem Behind.succ {out xs : Array ZoneId} {i : Nat} (h : Behind out xs i) :
    Behind out xs (i + 1) :=
  fun o ho => (h o ho).succ

theorem toList_extract_rest (xs : Array ZoneId) (i : Nat) :
    (xs.extract i).toList = xs.toList.drop i := by
  rw [Array.toList_extract]
  exact List.take_of_length_le (by simp)

/-- What is left of an ascending array may be copied behind what comes before it. -/
theorem ascending_append_extract {out xs : Array ZoneId} {i : Nat} (hx : Ascending xs)
    (ho : Ascending out) (h : Behind out xs i) : Ascending (out ++ xs.extract i) := by
  rw [Ascending, Array.toList_append, toList_extract_rest, List.pairwise_append]
  refine ⟨ho, hx.sublist (List.drop_sublist i _), ?_⟩
  intro o hmem x hrest
  obtain ⟨k, hk, rfl⟩ := List.mem_drop_iff_getElem.mp hrest
  exact h o (Array.mem_toList_iff.mp hmem) (i + k) (by simpa [Nat.add_comm] using hk) (by omega)

/-- What has been merged is ascending and comes before what is left of both arrays, of which one is
used up. -/
theorem merge_spec {xs ys out : Array ZoneId} (hx : Ascending xs) (hy : Ascending ys) {i j : Nat}
    (ho : Ascending out) (hxi : Behind out xs i) (hyj : Behind out ys j) :
    let (out', i', j') := merge xs ys i j out
    Ascending out' ∧ Behind out' xs i' ∧ Behind out' ys j' ∧ (xs.size ≤ i' ∨ ys.size ≤ j') := by
  fun_induction merge xs ys i j out with
  | case1 i j out h hlt ih =>
    refine ih (ascending_push ho fun o hmem => hyj o hmem j h.2 (Nat.le_refl _)) ?_ ?_
    · exact hxi.push (before_of_lt hx hlt)
    · exact hyj.succ.push (before_succ hy)
  | case2 i j out h hlt ih =>
    refine ih (ascending_push ho fun o hmem => hxi o hmem i h.1 (Nat.le_refl _)) ?_ ?_
    · exact hxi.succ.push (before_succ hx)
    · split
      · next heq => exact hyj.succ.push (heq ▸ before_succ hy)
      · next hne =>
        have hbelow : xs[i] < ys[j] := Decidable.byContradiction fun hge =>
          hne (ZoneId.eq_of_not_lt hge hlt)
        exact hyj.push (before_of_lt hy hbelow)
  | case3 i j out h => exact ⟨ho, hxi, hyj, by omega⟩

/-- The zones of a region after it was united with another one: unchanged when that one is empty,
its zones when this one is, and else those of both, merged as long as both have zones left and
copied from then on. -/
def united (r s : Region) : Array ZoneId :=
  if s.isEmpty then r.zones
  else if r.isEmpty then s.zones
  else
    let (out, i, j) := merge r.zones s.zones 0 0 #[]
    out ++ r.zones.extract i ++ s.zones.extract j

theorem ascending_united (r s : Region) : Ascending (r.united s) := by
  unfold united
  split
  · exact r.ascending
  · split
    · exact s.ascending
    · have hr : Behind #[] r.zones 0 := by simp [Behind]
      have hs : Behind #[] s.zones 0 := by simp [Behind]
      obtain ⟨ho, hr, hs, hdone⟩ := merge_spec r.ascending s.ascending .nil hr hs
      generalize merge r.zones s.zones 0 0 #[] = merged at *
      obtain ⟨out, i, j⟩ := merged
      rcases hdone with hi | hj
      · have hnone : r.zones.extract i = #[] := by simpa using hi
        dsimp only
        rw [hnone, Array.append_empty]
        exact ascending_append_extract s.ascending ho hs
      · have hnone : s.zones.extract j = #[] := by simpa using hj
        dsimp only
        rw [hnone, Array.append_empty]
        exact ascending_append_extract r.ascending ho hr

def union (r s : Region) : Region :=
  ⟨r.united s, r.ascending_united s⟩

end Region

end Whereabouts
