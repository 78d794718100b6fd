import Whereabouts.Grid.Walk
import Whereabouts.Proofs.Cells

/-!
# What walks come by

A walk has a list of zones ahead of it, and a walk over things a list of things; each call of
`next` takes the head of the list. As long as the grid has all zones ahead nothing goes wrong, and
the answers are the list, in order, and nothing for ever after.
-/

namespace Whereabouts

namespace ZoneWalk

/-- The zones that are left, the current one first. -/
def ahead (w : ZoneWalk) : List ZoneId :=
  if w.region.isEmpty then
    (List.range' w.pos (w.grid.size - w.pos)).map fun i => ⟨UInt32.ofNat i⟩
  else w.region.toList.drop w.pos

/-- The grid has all zones that are left. -/
def Inside (w : ZoneWalk) : Prop :=
  ∀ z ∈ w.ahead, w.grid.contains z

lemma here?_eq (w : ZoneWalk) : w.here? = w.ahead.head? := by
  unfold here? ahead
  by_cases hempty : w.region.isEmpty
  · rw [if_pos hempty, if_pos hempty, List.head?_map, List.head?_range']
    by_cases hpos : w.pos < w.grid.size
    · rw [if_pos hpos, if_neg (by omega)]
      rfl
    · rw [if_neg hpos, if_pos (by omega)]
      rfl
  · rw [if_neg hempty, if_neg hempty, List.head?_drop]
    exact Array.getElem?_toList.symm

lemma ahead_succ (w : ZoneWalk) : ahead { w with pos := w.pos + 1 } = w.ahead.tail := by
  unfold ahead
  by_cases hempty : w.region.isEmpty
  · rw [if_pos hempty, if_pos hempty, ← List.map_tail, List.tail_range', Nat.sub_sub]
  · rw [if_neg hempty, if_neg hempty, List.tail_drop]

lemma next_of_ahead_nil {w : ZoneWalk} (h : w.ahead = []) : w.next = .ok none := by
  unfold next zoneHere
  rw [here?_eq, h]
  rfl

lemma next_of_ahead_cons {w : ZoneWalk} {z : ZoneId} {zs : List ZoneId} (h : w.ahead = z :: zs)
    {zone : Zone} (hz : w.grid.zone? z = some zone) :
    w.next = .ok (some (zone, { w with pos := w.pos + 1 })) := by
  unfold next zoneHere
  rw [here?_eq, h, List.head?_cons]
  dsimp only [Grid.zone]
  rw [hz]
  rfl

/-- As long as zones are left a call of `next` takes the first of them. -/
lemma Inside.next {w : ZoneWalk} (hw : w.Inside) {z : ZoneId} {zs : List ZoneId}
    (h : w.ahead = z :: zs) :
    ∃ zone w', w.grid.zone? z = some zone ∧ w.next = .ok (some (zone, w')) ∧ w'.grid = w.grid ∧
      w'.ahead = zs ∧ w'.Inside := by
  have htail : ahead { w with pos := w.pos + 1 } = zs := by
    rw [ahead_succ, h, List.tail_cons]
  obtain ⟨zone, hzone⟩ := Grid.contains_iff.mp (hw z (by simp [h]))
  refine ⟨zone, _, hzone, next_of_ahead_cons h hzone, rfl, htail, ?_⟩
  intro z' hz'
  rw [htail] at hz'
  exact hw z' (by simp [h, hz'])

end ZoneWalk

/-- One segment of a zone, which is empty when the grid has no such zone. -/
def Grid.segmentAt (g : Grid) (s : Segment) (z : ZoneId) : List Handle :=
  ((g.zone? z).map fun zone => (zone.segment s).toList).getD []

namespace ThingWalk

/-- The things that are left. -/
def ahead (w : ThingWalk) : List Handle :=
  w.pending ++ w.zones.ahead.flatMap (w.zones.grid.segmentAt w.segment)

lemma next_of_pending (zones : ZoneWalk) (segment : Segment) (t : Handle) (rest : List Handle) :
    next ⟨zones, segment, t :: rest⟩ = .ok (some t, ⟨zones, segment, rest⟩) := by
  rw [next]

lemma next_of_end {zones : ZoneWalk} (h : zones.next = .ok none) (segment : Segment) :
    next ⟨zones, segment, []⟩ = .ok (none, ⟨zones, segment, []⟩) := by
  rw [next]
  dsimp only
  split
  · next he => simp [h] at he
  · rfl
  · next he => simp [h] at he

lemma next_of_zone {zones zones' : ZoneWalk} {zone : Zone}
    (h : zones.next = .ok (some (zone, zones'))) (segment : Segment) :
    next ⟨zones, segment, []⟩ = next ⟨zones', segment, (zone.segment segment).toList⟩ := by
  rw [next]
  dsimp only
  split
  · next he => simp [h] at he
  · next he => simp [h] at he
  · next he =>
    rw [h, Except.ok.injEq, Option.some.injEq, Prod.mk.injEq] at he
    rw [he.1, he.2]

/-- A call of `next` takes the first thing that is left, or nothing when nothing is left. -/
lemma next_spec {w : ThingWalk} (hw : w.zones.Inside) :
    ∃ w', w.next = .ok (w.ahead.head?, w') ∧ w'.ahead = w.ahead.tail ∧ w'.zones.Inside := by
  obtain ⟨zones, segment, pending⟩ := w
  generalize hzs : zones.ahead = zs
  induction zs generalizing zones pending with
  | nil =>
    cases pending with
    | cons t rest => exact ⟨_, next_of_pending zones segment t rest, rfl, hw⟩
    | nil =>
      have hahead : ahead ⟨zones, segment, []⟩ = [] := by
        simp [ahead, hzs]
      rw [hahead]
      exact ⟨_, next_of_end (ZoneWalk.next_of_ahead_nil hzs) segment, hahead, hw⟩
  | cons z zs ih =>
    cases pending with
    | cons t rest => exact ⟨_, next_of_pending zones segment t rest, rfl, hw⟩
    | nil =>
      have hinside : zones.Inside := hw
      obtain ⟨zone, zones', hzone, hnext, hgrid, htail, hin⟩ := hinside.next hzs
      have hhere : zones.grid.segmentAt segment z = (zone.segment segment).toList := by
        rw [Grid.segmentAt, hzone]
        rfl
      have hsame : ahead ⟨zones, segment, []⟩ =
          ahead ⟨zones', segment, (zone.segment segment).toList⟩ := by
        simp only [ahead, hzs, htail, hgrid, List.nil_append, List.flatMap_cons, hhere]
      rw [next_of_zone hnext, hsame]
      exact ih zones' _ hin htail

/-- Every number of calls of `next` gives the things of a list in order, and then nothing. -/
def Yields (w : ThingWalk) (ts : List Handle) : Prop :=
  ∀ n, w.take n = .ok ((List.range n).map (ts[·]?))

lemma takeAux_eq {w : ThingWalk} (hw : w.zones.Inside) (n : Nat) (seen : List (Option Handle)) :
    w.takeAux n seen = .ok (seen.reverse ++ (List.range n).map (w.ahead[·]?)) := by
  induction n generalizing w seen with
  | zero => simp [takeAux]
  | succ n ih =>
    obtain ⟨w', hnext, hahead, hw'⟩ := next_spec hw
    rw [takeAux, hnext]
    dsimp only
    rw [ih hw', hahead, List.range_succ_eq_map, List.map_cons, List.map_map]
    simp [Function.comp_def, List.head?_eq_getElem?]

theorem yields_ahead {w : ThingWalk} (hw : w.zones.Inside) : w.Yields w.ahead := by
  intro n
  exact takeAux_eq hw n []

end ThingWalk

end Whereabouts
