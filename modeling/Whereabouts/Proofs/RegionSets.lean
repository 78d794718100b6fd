import Mathlib.Data.Finset.Sort
import Whereabouts.Zone.Region.Members

/-!
# Regions as finite sets

However regions are built, by adding zones, by collecting lists, by uniting them with each other or
with themselves and by clearing them, each is the ascending list of one finite set of zones, the set
that the same operations build. So regions are equal when their sets are, and the laws of sets are
laws of regions.
-/

namespace Whereabouts

/-- Zones are in the order of their numbers. -/
instance : LinearOrder ZoneId where
  le a b := a.index ≤ b.index
  lt a b := a.index < b.index
  le_refl a := UInt32.le_refl a.index
  le_trans _ _ _ hab hbc := UInt32.le_trans hab hbc
  lt_iff_le_not_ge a b := by
    rw [UInt32.not_le]
    exact ⟨fun h => ⟨UInt32.le_of_lt h, h⟩, And.right⟩
  le_antisymm a b hab hba := ZoneId.eq_of_not_lt (UInt32.not_lt.mpr hba) (UInt32.not_lt.mpr hab)
  le_total a b := UInt32.le_total a.index b.index
  toDecidableLE a b := inferInstanceAs (Decidable (a.index ≤ b.index))
  toDecidableLT a b := inferInstanceAs (Decidable (a.index < b.index))
  toDecidableEq := inferInstance

/-- What is asked of the regions of a family. -/
inductive RegionRequest (ι : Type) where
  | insert (i : ι) (z : ZoneId)
  /-- Unite a region with another one of the family, or with itself. -/
  | union (i j : ι)
  | collect (i : ι) (zones : List ZoneId)
  | clear (i : ι)

section Families

variable {ι : Type} [DecidableEq ι]

/-- The regions of a family after a request. -/
def RegionRequest.onRegions (regions : ι → Region) : RegionRequest ι → ι → Region
  | .insert i z => Function.update regions i ((regions i).insert z)
  | .union i j => Function.update regions i ((regions i).union (regions j))
  | .collect i zones => Function.update regions i (.ofList zones)
  | .clear i => Function.update regions i .empty

/-- The same request of finite sets. -/
def RegionRequest.onSets (sets : ι → Finset ZoneId) : RegionRequest ι → ι → Finset ZoneId
  | .insert i z => Function.update sets i (Insert.insert z (sets i))
  | .union i j => Function.update sets i (sets i ∪ sets j)
  | .collect i zones => Function.update sets i zones.toFinset
  | .clear i => Function.update sets i ∅

def regionsAfter (requests : List (RegionRequest ι)) : ι → Region :=
  requests.foldl RegionRequest.onRegions fun _ => .empty

def setsAfter (requests : List (RegionRequest ι)) : ι → Finset ZoneId :=
  requests.foldl RegionRequest.onSets fun _ => ∅

end Families

namespace Region

/-- The region has the members of the set. -/
def Has (r : Region) (s : Finset ZoneId) : Prop :=
  ∀ z, z ∈ r ↔ z ∈ s

variable {r r' : Region} {s s' : Finset ZoneId}

lemma Has.toList_eq (h : r.Has s) : r.toList = s.sort := by
  have hset : r.toList.toFinset = s := by
    ext z
    rw [List.mem_toFinset, mem_toList, h z]
  have hle : r.toList.Pairwise (· ≤ ·) := List.Pairwise.imp le_of_lt r.ascending
  rw [← hset]
  exact ((List.toFinset_sort (· ≤ ·) r.nodup).mpr hle).symm

lemma Has.eq_iff (h : r.Has s) (h' : r'.Has s') : r = r' ↔ s = s' := by
  constructor
  · rintro rfl
    ext z
    rw [← h z, h' z]
  · rintro rfl
    exact ext fun z => (h z).trans (h' z).symm

lemma has_empty : empty.Has ∅ := by
  intro z
  exact iff_of_false (not_mem_empty z) (Finset.notMem_empty z)

lemma Has.insert (h : r.Has s) (z : ZoneId) : (r.insert z).Has (Insert.insert z s) := by
  intro x
  rw [mem_insert, Finset.mem_insert, h x, or_comm]

lemma Has.union (h : r.Has s) (h' : r'.Has s') : (r.union r').Has (s ∪ s') := by
  intro x
  rw [mem_union, Finset.mem_union, h x, h' x]

lemma has_ofList (zones : List ZoneId) : (ofList zones).Has zones.toFinset := by
  intro x
  rw [mem_ofList, List.mem_toFinset]

section Families

variable {ι : Type} [DecidableEq ι] {regions : ι → Region} {sets : ι → Finset ZoneId}

/-- To put a region and its set into a family changes nothing for the others. -/
lemma has_update (h : ∀ i, (regions i).Has (sets i)) (hrs : r.Has s) (i j : ι) :
    (Function.update regions i r j).Has (Function.update sets i s j) := by
  by_cases hj : j = i
  · subst hj
    rwa [Function.update_self, Function.update_self]
  · rw [Function.update_of_ne hj, Function.update_of_ne hj]
    exact h j

lemma has_onRegions (h : ∀ i, (regions i).Has (sets i)) (request : RegionRequest ι) (j : ι) :
    (request.onRegions regions j).Has (request.onSets sets j) := by
  cases request with
  | insert i z => exact has_update h ((h i).insert z) i j
  | union i i' => exact has_update h ((h i).union (h i')) i j
  | collect i zones => exact has_update h (has_ofList zones) i j
  | clear i => exact has_update h has_empty i j

theorem has_after (requests : List (RegionRequest ι)) (i : ι) :
    (regionsAfter requests i).Has (setsAfter requests i) := by
  have hfold : ∀ (regions : ι → Region) (sets : ι → Finset ZoneId),
      (∀ i, (regions i).Has (sets i)) →
      ((requests.foldl RegionRequest.onRegions regions) i).Has
        ((requests.foldl RegionRequest.onSets sets) i) := by
    induction requests with
    | nil => exact fun _ _ h => h i
    | cons request requests ih => exact fun _ _ h => ih _ _ (has_onRegions h request)
  exact hfold _ _ fun _ => has_empty

end Families

end Region

/-- After every run of requests the regions of a family are strictly ascending and have the members
of the sets that the same requests build, in their order, and two of them are equal exactly when
their sets are. So a collected region depends on the members of the list only, and the union, which
is the merge that is computed, obeys the laws of the union of sets. -/
theorem regions_act_as_sets {ι : Type} [DecidableEq ι] (requests : List (RegionRequest ι)) :
    (∀ i, (regionsAfter requests i).toList.Pairwise (· < ·)) ∧
    (∀ i z, (regionsAfter requests i).contains z = true ↔ z ∈ setsAfter requests i) ∧
    (∀ i, (regionsAfter requests i).toList = (setsAfter requests i).sort ∧
      (∀ k, (regionsAfter requests i).get? k = (setsAfter requests i).sort[k]?) ∧
      (regionsAfter requests i).size = (setsAfter requests i).card) ∧
    (∀ i j, (regionsAfter requests i == regionsAfter requests j) = true ↔
      setsAfter requests i = setsAfter requests j) ∧
    (∀ zones zones' : List ZoneId, (∀ z, z ∈ zones ↔ z ∈ zones') →
      Region.ofList zones = Region.ofList zones') ∧
    ∀ r s t : Region, (r.union s).zones = r.united s ∧
      r.union s = s.union r ∧ (r.union s).union t = r.union (s.union t) ∧
      r.union r = r ∧ r.union .empty = r ∧ Region.empty.union r = r := by
  have hhas := Region.has_after requests
  refine ⟨?_, ?_, ?_, ?_, ?_, ?_⟩
  · intro i
    exact (regionsAfter requests i).ascending
  · intro i z
    rw [Region.contains_iff]
    exact hhas i z
  · intro i
    have hsort := (hhas i).toList_eq
    refine ⟨hsort, ?_, ?_⟩
    · intro k
      rw [← hsort, Region.get?, Region.toList, Array.getElem?_toList]
    · rw [← Finset.length_sort (· ≤ ·), ← hsort]
      rfl
  · intro i j
    rw [beq_iff_eq]
    exact (hhas i).eq_iff (hhas j)
  · intro zones zones' hmem
    apply Region.ext
    intro z
    rw [Region.mem_ofList, Region.mem_ofList, hmem]
  · intro r s t
    refine ⟨rfl, ?_, ?_, ?_, ?_, ?_⟩
    · exact Region.ext fun z => by rw [Region.mem_union, Region.mem_union, or_comm]
    · exact Region.ext fun z => by simp only [Region.mem_union, or_assoc]
    · exact Region.ext fun z => by rw [Region.mem_union, or_self]
    · exact Region.ext fun z => by rw [Region.mem_union, or_iff_left (Region.not_mem_empty z)]
    · exact Region.ext fun z => by rw [Region.mem_union, or_iff_right (Region.not_mem_empty z)]

end Whereabouts
