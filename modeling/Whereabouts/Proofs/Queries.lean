import Whereabouts.Proofs.Agreement
import Whereabouts.Proofs.Walks

/-!
# What queries come by

A walk over a region of a map comes by everything that stands in one segment of its zones. Since
each thing on a map stands in one zone, and there once, the walk comes by nothing twice.
-/

namespace Whereabouts

lemma mem_segmentAt {g : Grid} {s : Segment} {z : ZoneId} {t : Handle} :
    t ∈ g.segmentAt s z ↔ ∃ zone, g.zone? z = some zone ∧ t ∈ (zone.segment s).toList := by
  unfold Grid.segmentAt
  cases g.zone? z with
  | none => simp
  | some zone => simp

lemma ahead_ofRegion (g : Grid) {region : Region} (h : ∃ z, z ∈ region) :
    (ZoneWalk.ofRegion g region).ahead = region.toList := by
  have hne : ¬region.isEmpty := by
    obtain ⟨z, hz⟩ := h
    intro hempty
    rw [Region.isEmpty, Array.isEmpty_iff] at hempty
    rw [Region.mem_def, hempty] at hz
    exact Array.not_mem_empty z hz
  exact if_neg hne

namespace Occupancy

variable {o : Occupancy} {z z' : ZoneId}

/-- In a segment of a zone stand the things of its kinds that are listed there. -/
lemma Sound.mem_segmentAt_iff (ho : o.Sound) {s : Segment} {t : Handle} :
    t ∈ o.grid.segmentAt s z ↔
      ∃ e ∈ o.roster.listed, e.zone = some z ∧ s.admits e.kind ∧ e.thing = t := by
  rw [mem_segmentAt]
  constructor
  · rintro ⟨zone, hz, ht⟩
    rw [← Multiset.mem_coe, ho.holds.segment hz, Multiset.mem_map] at ht
    obtain ⟨e, he, het⟩ := ht
    obtain ⟨he, hez, hkind⟩ := Multiset.mem_filter.mp he
    exact ⟨e, he, hez, hkind, het⟩
  · rintro ⟨e, he, hez, hkind, rfl⟩
    obtain ⟨zone, hz⟩ := Grid.contains_iff.mp (ho.holds.inside e he z hez)
    refine ⟨zone, hz, ?_⟩
    rw [← Multiset.mem_coe, ho.holds.segment hz]
    exact Multiset.mem_map_of_mem _ (Multiset.mem_filter.mpr ⟨he, hez, hkind⟩)

lemma Sound.nodup_segmentAt (ho : o.Sound) (s : Segment) (z : ZoneId) :
    (o.grid.segmentAt s z).Nodup := by
  unfold Grid.segmentAt
  cases hz : o.grid.zone? z with
  | none => exact List.nodup_nil
  | some zone =>
    have hlisted : (o.roster.listed.map Entry.thing).Nodup := ho.indexed.nodup
    rw [Option.map_some, Option.getD_some, ← Multiset.coe_nodup, ho.holds.segment hz]
    exact Multiset.nodup_of_le (Multiset.map_le_map (Multiset.filter_le _ _)) hlisted

lemma Sound.disjoint_segmentAt (ho : o.Sound) (s : Segment) (hne : z ≠ z') :
    (o.grid.segmentAt s z).Disjoint (o.grid.segmentAt s z') := by
  rw [List.disjoint_left]
  intro t ht ht'
  obtain ⟨e, he, hez, -, het⟩ := ho.mem_segmentAt_iff.mp ht
  obtain ⟨e', he', hez', -, het'⟩ := ho.mem_segmentAt_iff.mp ht'
  rw [ho.indexed.entry_unique he he' (het.trans het'.symm), hez'] at hez
  exact hne (Option.some.inj hez).symm

/-- A walk over a region comes by each thing in one segment of its zones, and by each once. -/
theorem Sound.exists_yields (ho : o.Sound) {region : Region} (hsome : ∃ z, z ∈ region)
    (hinside : ∀ z ∈ region, o.grid.contains z) (s : Segment) :
    ∃ seen, ((ZoneWalk.ofRegion o.grid region).narrow s).Yields seen ∧ seen.Nodup ∧
      ∀ t, t ∈ seen ↔ ∃ z ∈ region, t ∈ o.grid.segmentAt s z := by
  have hahead := ahead_ofRegion o.grid hsome
  have hthings : ((ZoneWalk.ofRegion o.grid region).narrow s).ahead =
      region.toList.flatMap (o.grid.segmentAt s) := by
    rw [← hahead]
    rfl
  refine ⟨region.toList.flatMap (o.grid.segmentAt s), ?_, ?_, ?_⟩
  · rw [← hthings]
    apply ThingWalk.yields_ahead
    intro z hz
    have hz' : z ∈ (ZoneWalk.ofRegion o.grid region).ahead := hz
    rw [hahead] at hz'
    exact hinside z (Region.mem_toList.mp hz')
  · rw [List.nodup_flatMap]
    refine ⟨fun z _ => ho.nodup_segmentAt s z, ?_⟩
    exact region.nodup.imp (fun hne => ho.disjoint_segmentAt s hne)
  · intro t
    simp only [List.mem_flatMap, Region.mem_toList]

/-- A thing that can move is in the moving segment of the zone it is recorded in. -/
lemma Sound.mem_moving (ho : o.Sound) {e : Entry} (he : e ∈ o.roster.listed)
    (hk : e.kind.movable) (hz : e.zone = some z) : e.thing ∈ o.grid.segmentAt .moving z :=
  ho.mem_segmentAt_iff.mpr ⟨e, he, hz, hk, rfl⟩

end Occupancy

end Whereabouts
