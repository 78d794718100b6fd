import Whereabouts.Zone.Region

/-!
# Members of regions

What the operations on regions do to the set of their members, and that this set is all there is to
a region: `Region.ext` makes two regions with the same members equal.
-/

namespace Whereabouts.Region

theorem mem_def {r : Region} {x : ZoneId} : x ∈ r ↔ x ∈ r.zones := Iff.rfl

theorem mem_toList {r : Region} {x : ZoneId} : x ∈ r.toList ↔ x ∈ r := Array.mem_toList_iff

theorem not_mem_empty (x : ZoneId) : x ∉ empty := Array.not_mem_empty x

/-- A member stands at its place. -/
theorem getElem?_place_iff {r : Region} {x : ZoneId} :
    r.zones[r.place x]? = some x ↔ x ∈ r := by
  constructor
  · exact Array.mem_of_getElem?
  · intro h
    obtain ⟨i, hi, rfl⟩ := Array.mem_iff_getElem.mp h
    have hplace := r.lt_iff_lt_place r.zones[i]
    have hge : ¬i < r.place r.zones[i] := fun hlt =>
      ZoneId.lt_irrefl _ ((hplace i hi).mpr hlt)
    by_cases he : r.place r.zones[i] = i
    · rw [he, Array.getElem?_eq_getElem hi]
    · have hlt := ascending_iff.mp r.ascending (r.place r.zones[i]) i (by omega) hi (by omega)
      exact absurd ((hplace _ _).mp hlt) (Nat.lt_irrefl _)

theorem contains_iff {r : Region} {x : ZoneId} : r.contains x = true ↔ x ∈ r := by
  rw [contains, beq_iff_eq, getElem?_place_iff]

theorem mem_insert {r : Region} {z x : ZoneId} : x ∈ r.insert z ↔ x ∈ r ∨ x = z := by
  unfold insert
  split
  · next h =>
    have hz := getElem?_place_iff.mp h
    exact ⟨.inl, fun h => h.elim id fun he => he ▸ hz⟩
  · rw [mem_def, ← Array.mem_toList_iff, Array.toList_insertIdx,
      List.mem_insertIdx (by simpa using r.place_le z), Array.mem_toList_iff, or_comm, mem_def]

theorem mem_foldl_insert {zs : List ZoneId} {r : Region} {x : ZoneId} :
    x ∈ zs.foldl insert r ↔ x ∈ r ∨ x ∈ zs := by
  induction zs generalizing r with
  | nil => simp
  | cons z zs ih => rw [List.foldl_cons, ih, mem_insert, List.mem_cons, or_assoc]

theorem mem_ofList {zs : List ZoneId} {x : ZoneId} : x ∈ ofList zs ↔ x ∈ zs := by
  rw [ofList, mem_foldl_insert]
  exact or_iff_right (not_mem_empty x)

theorem mem_merge (xs ys out : Array ZoneId) (i j : Nat) (x : ZoneId) :
    let (out', i', j') := merge xs ys i j out
    x ∈ out' ∨ x ∈ xs.toList.drop i' ∨ x ∈ ys.toList.drop j' ↔
      x ∈ out ∨ x ∈ xs.toList.drop i ∨ x ∈ ys.toList.drop j := by
  have hdrop : ∀ (zs : Array ZoneId) k (h : k < zs.size),
      x ∈ zs.toList.drop k ↔ x = zs[k] ∨ x ∈ zs.toList.drop (k + 1) := fun zs k h => by
    rw [List.drop_eq_getElem_cons (by simpa using h), List.mem_cons, Array.getElem_toList]
  fun_induction merge xs ys i j out with
  | case1 i j out h hlt ih =>
    refine ih.trans ?_
    rw [Array.mem_push, hdrop ys j h.2, or_assoc, or_left_comm (a := x = ys[j])]
  | case2 i j out h hlt ih =>
    refine ih.trans ?_
    rw [Array.mem_push, hdrop xs i h.1, or_assoc, or_assoc]
    split
    · next heq =>
      rw [hdrop ys j h.2, ← heq]
      grind
    · rfl
  | case3 i j out h => exact Iff.rfl

theorem mem_extract {xs : Array ZoneId} {i : Nat} {x : ZoneId} :
    x ∈ xs.extract i ↔ x ∈ xs.toList.drop i := by
  rw [← Array.mem_toList_iff, toList_extract_rest]

theorem mem_union {r s : Region} {x : ZoneId} : x ∈ r.union s ↔ x ∈ r ∨ x ∈ s := by
  have hnone : ∀ q : Region, q.isEmpty → x ∉ q := by
    intro q hq hx
    rw [isEmpty, Array.isEmpty_iff] at hq
    rw [mem_def, hq] at hx
    exact Array.not_mem_empty x hx
  change x ∈ r.united s ↔ x ∈ r ∨ x ∈ s
  unfold united
  split
  · next hs => exact (or_iff_left (hnone s hs)).symm
  · split
    · next hr => exact (or_iff_right (hnone r hr)).symm
    · have hmerge := mem_merge r.zones s.zones #[] 0 0 x
      generalize merge r.zones s.zones 0 0 #[] = merged at *
      obtain ⟨out, i, j⟩ := merged
      simp only [Array.mem_append, mem_extract, or_assoc]
      simpa [mem_def] using hmerge

theorem nodup (r : Region) : r.zones.toList.Nodup :=
  List.Pairwise.imp (fun {a b} (h : a < b) (he : a = b) => ZoneId.lt_irrefl b (he ▸ h)) r.ascending

theorem ext {r s : Region} (h : ∀ x, x ∈ r ↔ x ∈ s) : r = s := by
  have hp : r.zones.toList.Perm s.zones.toList :=
    (List.perm_ext_iff_of_nodup r.nodup s.nodup).mpr fun x => by simpa [mem_def] using h x
  have he : r.zones.toList = s.zones.toList :=
    hp.eq_of_pairwise (fun a b _ _ hab hba => absurd (ZoneId.lt_trans hab hba) (ZoneId.lt_irrefl a))
      r.ascending s.ascending
  cases r
  cases s
  simpa using Array.toList_inj.mp he

end Whereabouts.Region
