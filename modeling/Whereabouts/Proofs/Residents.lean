import Whereabouts.Proofs.Cells
import Whereabouts.Proofs.ZoneParts
import Whereabouts.Roster
import Whereabouts.Zone.Region.Members

/-!
# What a grid holds

A grid holds a collection of entries when each part of each of its zones has exactly the things
that the entries place there. Placing and taking out one thing keeps that up with the collection,
and neither touches the notes of where things went.
-/

namespace Whereabouts

/-- The things that entries place in one part of a zone. -/
def residents (es : Multiset Entry) (z : ZoneId) (p : Part) : Multiset Handle :=
  (es.filter fun e => e.zone = some z ∧ e.kind.part = p).map Entry.thing

lemma residents_cons (e : Entry) (es : Multiset Entry) (z : ZoneId) (p : Part) :
    residents (e ::ₘ es) z p =
      (if e.zone = some z ∧ e.kind.part = p then {e.thing} else 0) + residents es z p := by
  unfold residents
  rw [Multiset.filter_cons, Multiset.map_add]
  congr 1
  split
  · rfl
  · rfl

lemma mem_residents {es : Multiset Entry} {z : ZoneId} {p : Part} {t : Handle} :
    t ∈ residents es z p ↔ ∃ e ∈ es, e.zone = some z ∧ e.kind.part = p ∧ e.thing = t := by
  simp only [residents, Multiset.mem_map, Multiset.mem_filter]
  constructor
  · rintro ⟨e, ⟨he, hz, hp⟩, ht⟩
    exact ⟨e, he, hz, hp, ht⟩
  · rintro ⟨e, he, hz, hp, ht⟩
    exact ⟨e, ⟨he, hz, hp⟩, ht⟩

/-- Whether things of a kind stand in a segment. -/
def Segment.admits : Segment → Kind → Bool
  | .characters, kind => kind == .character
  | .moving, kind => kind.movable
  | .fixed, kind => !kind.movable
  | .all, _ => true

/-- The parts that make up a segment. -/
def Segment.parts : Segment → List Part
  | .characters => [.characters]
  | .moving => [.characters, .others]
  | .fixed => [.fixed]
  | .all => [.characters, .others, .fixed]

lemma Segment.mem_parts_iff (s : Segment) (kind : Kind) :
    kind.part ∈ s.parts ↔ s.admits kind = true := by
  cases s <;> cases kind <;> decide

lemma Segment.nodup_parts (s : Segment) : s.parts.Nodup := by
  cases s <;> decide

lemma Zone.toList_segment (z : Zone) (s : Segment) :
    (z.segment s).toList = s.parts.flatMap z.part := by
  cases s with
  | characters => simp [segment, Segment.parts, part]
  | moving => simp [toList_segment_moving, Segment.parts]
  | fixed => simp [segment, Segment.parts, part]
  | all => simp [segment, Segment.parts, toList_things]

namespace Grid

@[simp] lemma shape_edit (g : Grid) (z : ZoneId) (f : Zone → Zone) :
    (g.edit z f).shape = g.shape := rfl

@[simp] lemma shape_forgetDepartures (g : Grid) : g.forgetDepartures.shape = g.shape := rfl

lemma contains_edit (g : Grid) (z : ZoneId) (f : Zone → Zone) (z' : ZoneId) :
    (g.edit z f).contains z' = g.contains z' :=
  contains_congr (g.shape_edit z f) z'

lemma zone?_edit (g : Grid) (z : ZoneId) (f : Zone → Zone) (z' : ZoneId) :
    (g.edit z f).zone? z' = if z' = z then (g.zone? z).map f else g.zone? z' := by
  simp only [edit, zone?, Array.getElem?_modify]
  by_cases hz : z' = z
  · simp [hz]
  · have hne : z.index.toNat ≠ z'.index.toNat := fun h => hz (ZoneId.toNat_inj.mp h).symm
    rw [if_neg hne, if_neg hz]

/-- An edit depends only on what it does to the zone that is there. -/
lemma edit_congr {g : Grid} {z : ZoneId} {f f' : Zone → Zone}
    (h : ∀ zone, g.zone? z = some zone → f zone = f' zone) : g.edit z f = g.edit z f' := by
  have hzones : g.zones.modify z.index.toNat f = g.zones.modify z.index.toNat f' := by
    apply Array.ext_getElem?
    intro i
    rw [Array.getElem?_modify, Array.getElem?_modify]
    split
    · next hi =>
      subst hi
      cases hz : g.zones[z.index.toNat]? with
      | none => rfl
      | some zone => rw [Option.map_some, Option.map_some, h zone hz]
    · rfl
  simp only [edit, hzones]

lemma zone_eq {g : Grid} {z : ZoneId} {zone : Zone} (h : g.zone? z = some zone) :
    g.zone z = .ok zone := by
  unfold Grid.zone
  rw [h]

/-- A zone of the grid can be edited. -/
lemma modify_eq {g : Grid} {z : ZoneId} (hz : g.contains z) (f : Zone → Zone) :
    g.modify z f = .ok (g.edit z f) :=
  if_pos hz

structure Holds (g : Grid) (es : Multiset Entry) : Prop where
  inside : ∀ e ∈ es, ∀ z, e.zone = some z → g.contains z
  parts : ∀ z zone, g.zone? z = some zone →
    ∀ p, (zone.part p : Multiset Handle) = residents es z p

lemma Holds.flatMap_part {g : Grid} {es : Multiset Entry} (hg : g.Holds es) {z : ZoneId}
    {zone : Zone} (hz : g.zone? z = some zone) {ps : List Part} (hps : ps.Nodup) :
    (ps.flatMap zone.part : Multiset Handle) =
      (es.filter fun e => e.zone = some z ∧ e.kind.part ∈ ps).map Entry.thing := by
  induction ps with
  | nil => simp
  | cons p ps ih =>
    obtain ⟨hp, hps⟩ := List.nodup_cons.mp hps
    have hboth : es.filter (fun e => (e.zone = some z ∧ e.kind.part = p) ∧
        e.zone = some z ∧ e.kind.part ∈ ps) = 0 := by
      rw [Multiset.filter_eq_nil]
      rintro e - ⟨⟨-, rfl⟩, -, hmem⟩
      exact hp hmem
    rw [List.flatMap_cons, ← Multiset.coe_add, ih hps, hg.parts z zone hz, residents,
      ← Multiset.map_add, Multiset.filter_add_filter, hboth, add_zero]
    simp only [List.mem_cons, and_or_left]

/-- A segment of a zone has exactly the things of its kinds that the entries place there. -/
theorem Holds.segment {g : Grid} {es : Multiset Entry} (hg : g.Holds es) {z : ZoneId}
    {zone : Zone} (hz : g.zone? z = some zone) (s : Segment) :
    ((zone.segment s).toList : Multiset Handle) =
      (es.filter fun e => e.zone = some z ∧ s.admits e.kind).map Entry.thing := by
  rw [zone.toList_segment, hg.flatMap_part hz s.nodup_parts]
  simp only [s.mem_parts_iff]

lemma Holds.cons_unplaced {g : Grid} {es : Multiset Entry} (hg : g.Holds es) {e : Entry}
    (he : e.zone = none) : g.Holds (e ::ₘ es) where
  inside e' he' z hz := by
    rcases Multiset.mem_cons.mp he' with rfl | h
    · simp [he] at hz
    · exact hg.inside e' h z hz
  parts z zone hzone p := by
    rw [residents_cons, if_neg (by simp [he]), zero_add]
    exact hg.parts z zone hzone p

lemma Holds.of_cons_unplaced {g : Grid} {es : Multiset Entry} {e : Entry}
    (hg : g.Holds (e ::ₘ es)) (he : e.zone = none) : g.Holds es where
  inside e' he' := hg.inside e' (Multiset.mem_cons_of_mem he')
  parts z zone hzone p := by
    rw [hg.parts z zone hzone p, residents_cons, if_neg (by simp [he]), zero_add]

/-- An edit that leaves the parts of zones alone. -/
lemma Holds.edit {g : Grid} {es : Multiset Entry} (hg : g.Holds es) {f : Zone → Zone}
    (hf : ∀ zone p, (f zone).part p = zone.part p) (z : ZoneId) : (g.edit z f).Holds es where
  inside e he z' hz' := by
    rw [contains_edit]
    exact hg.inside e he z' hz'
  parts z' zone hzone p := by
    rw [zone?_edit] at hzone
    by_cases hz : z' = z
    · rw [if_pos hz, Option.map_eq_some_iff] at hzone
      obtain ⟨old, hold, rfl⟩ := hzone
      rw [hf]
      exact hg.parts z' old (hz ▸ hold) p
    · rw [if_neg hz] at hzone
      exact hg.parts z' zone hzone p

/-- Adding a thing where an entry places it. -/
theorem Holds.insert {g : Grid} {es : Multiset Entry} (hg : g.Holds es) {e : Entry} {z : ZoneId}
    (he : e.zone = some z) (hz : g.contains z) :
    (g.edit z (·.insert e.thing e.kind)).Holds (e ::ₘ es) where
  inside e' he' z' hz' := by
    rw [contains_edit]
    rcases Multiset.mem_cons.mp he' with rfl | h
    · rw [he, Option.some.injEq] at hz'
      exact hz' ▸ hz
    · exact hg.inside e' h z' hz'
  parts z' zone hzone p := by
    rw [residents_cons, he]
    rw [zone?_edit] at hzone
    by_cases hz' : z' = z
    · rw [if_pos hz', Option.map_eq_some_iff] at hzone
      obtain ⟨old, hold, rfl⟩ := hzone
      rw [Zone.coe_part_insert, hg.parts z' old (hz' ▸ hold) p]
      congr 1
      simp only [hz', true_and, eq_comm (a := p)]
    · rw [if_neg hz'] at hzone
      rw [hg.parts z' zone hzone p, if_neg, zero_add]
      simp [Ne.symm hz']

/-- A thing that is found in a zone is taken out. -/
lemma erase_eq {g : Grid} {z : ZoneId} {zone : Zone} (hz : g.zone? z = some zone) {t : Handle}
    {kind : Kind} {i : Nat} (hi : zone.place? t kind = some i) :
    g.erase z t kind = .ok ⟨(true, g.edit z (·.eraseAt i)), []⟩ := by
  simp only [Grid.erase, zone_eq hz, modify_eq (contains_iff.mpr ⟨zone, hz⟩), bind, Except.bind, hi]
  rfl

/-- A thing that an entry places is where the entry says, so it can be taken out. -/
theorem Holds.erase {g : Grid} {es : Multiset Entry} {e : Entry} {z : ZoneId}
    (hg : g.Holds (e ::ₘ es)) (he : e.zone = some z) :
    ∃ zone i, g.zone? z = some zone ∧ zone.place? e.thing e.kind = some i ∧
      g.erase z e.thing e.kind = .ok ⟨(true, g.edit z (·.eraseAt i)), []⟩ ∧
      (g.edit z (·.eraseAt i)).Holds es := by
  have hinside := hg.inside e (Multiset.mem_cons_self e es) z he
  obtain ⟨zone, hzone⟩ := contains_iff.mp hinside
  have hpart := hg.parts z zone hzone e.kind.part
  rw [residents_cons, if_pos ⟨he, rfl⟩] at hpart
  have hmem : e.thing ∈ zone.part e.kind.part := by
    rw [← Multiset.mem_coe, hpart, Multiset.mem_add]
    exact .inl (Multiset.mem_singleton_self _)
  obtain ⟨i, hi⟩ := Zone.place?_isSome hmem
  refine ⟨zone, i, hzone, hi, erase_eq hzone hi, ?_, ?_⟩
  · intro e' he' z' hz'
    rw [contains_edit]
    exact hg.inside e' (Multiset.mem_cons_of_mem he') z' hz'
  · intro z' zone' hzone' p
    rw [zone?_edit] at hzone'
    by_cases hz : z' = z
    · rw [if_pos hz, hzone, Option.map_some, Option.some.injEq] at hzone'
      have hold := hg.parts z zone hzone p
      rw [zone.coe_part_eraseAt hi, residents_cons, he, hzone'] at hold
      have hif : (if p = e.kind.part then ({e.thing} : Multiset Handle) else 0) =
          if some z = some z ∧ e.kind.part = p then {e.thing} else 0 := by
        simp only [true_and, eq_comm (a := p)]
      rw [hif] at hold
      rw [hz]
      exact add_left_cancel hold
    · rw [if_neg hz] at hzone'
      rw [hg.parts z' zone' hzone' p, residents_cons, he, if_neg, zero_add]
      simp [Ne.symm hz]

/-- In this tick something left `z` for `x`. -/
def Departed (g : Grid) (z x : ZoneId) : Prop :=
  ∃ zone, g.zone? z = some zone ∧ x ∈ zone.departures

lemma departed_edit {g : Grid} {f : Zone → Zone}
    (hf : ∀ zone, (f zone).departures = zone.departures) (z : ZoneId) {y x : ZoneId} :
    (g.edit z f).Departed y x ↔ g.Departed y x := by
  unfold Departed
  rw [zone?_edit]
  by_cases hy : y = z
  · rw [if_pos hy, hy]
    cases g.zone? z with
    | none => simp
    | some zone => simp [hf]
  · rw [if_neg hy]

lemma departed_noteDeparture {g : Grid} {z : ZoneId} (hz : g.contains z) (target : ZoneId)
    {y x : ZoneId} :
    (g.edit z (·.noteDeparture target)).Departed y x ↔ g.Departed y x ∨ y = z ∧ x = target := by
  obtain ⟨zone, hzone⟩ := contains_iff.mp hz
  unfold Departed
  rw [zone?_edit]
  by_cases hy : y = z
  · subst hy
    simp [hzone, Zone.noteDeparture, Region.mem_insert]
  · simp [hy]

lemma zone?_forgetDepartures (g : Grid) (z : ZoneId) :
    g.forgetDepartures.zone? z = (g.zone? z).map (·.forgetDepartures) := by
  simp [forgetDepartures, zone?]

lemma not_departed_forgetDepartures (g : Grid) (z x : ZoneId) :
    ¬g.forgetDepartures.Departed z x := by
  rintro ⟨zone, hzone, hx⟩
  rw [zone?_forgetDepartures, Option.map_eq_some_iff] at hzone
  obtain ⟨old, -, rfl⟩ := hzone
  unfold Zone.forgetDepartures at hx
  split at hx
  · next hempty =>
    rw [Region.isEmpty, Array.isEmpty_iff] at hempty
    rw [Region.mem_def, hempty] at hx
    exact Array.not_mem_empty x hx
  · exact Region.not_mem_empty x hx

lemma Holds.forgetDepartures {g : Grid} {es : Multiset Entry} (hg : g.Holds es) :
    g.forgetDepartures.Holds es where
  inside e he z hz := by
    rw [contains_congr g.shape_forgetDepartures]
    exact hg.inside e he z hz
  parts z zone hzone p := by
    rw [zone?_forgetDepartures, Option.map_eq_some_iff] at hzone
    obtain ⟨old, hold, rfl⟩ := hzone
    have hpart : old.forgetDepartures.part p = old.part p := by
      unfold Zone.forgetDepartures
      split
      · rfl
      · cases p <;> rfl
    rw [hpart]
    exact hg.parts z old hold p

end Grid

end Whereabouts
