import Whereabouts.Proofs.Bounds

/-!
# The itinerary of a walk

Before a walk over a region sets out it has an itinerary: the zones of the region in ascending
order, or all zones of the grid when the region is empty. However many calls of `next` were made,
the walk is at the next zone of the itinerary, counts the zones behind it right, and comes by them
in order and then by nothing for ever after; and so does the walk over the things of a segment that
starts from there.
-/

namespace Whereabouts

/-- The zones of a walk over a region, in the order in which they come. -/
def Grid.itinerary (g : Grid) (region : Region) : List ZoneId :=
  if region.isEmpty then g.numbers else region.toList

namespace ZoneWalk

/-- The least and the most zones that may still come. -/
def sizeHint (w : ZoneWalk) : Nat × Option Nat :=
  (w.left, some w.left)

/-- The answer of one call of `next`, and the walk behind it, which stays where it is at the end. -/
def call (w : ZoneWalk) : Except OutsideGrid (Option Zone × ZoneWalk) :=
  match w.next with
  | .error e => .error e
  | .ok none => .ok (none, w)
  | .ok (some (zone, w')) => .ok (some zone, w')

/-- The answers of the next `n` calls of `next`, and the walk behind them. -/
def calls (w : ZoneWalk) : Nat → Except OutsideGrid (List (Option Zone) × ZoneWalk)
  | 0 => .ok ([], w)
  | n + 1 =>
    match w.call with
    | .error e => .error e
    | .ok (answer, w') =>
      match w'.calls n with
      | .error e => .error e
      | .ok (answers, w'') => .ok (answer :: answers, w'')

/-- The zones that are left, as the grid has them. -/
def zonesAhead (w : ZoneWalk) : List Zone :=
  w.ahead.filterMap w.grid.zone?

variable {w w' : ZoneWalk}

lemma ahead_ofRegion_eq (g : Grid) (region : Region) :
    (ofRegion g region).ahead = g.itinerary region := by
  unfold Grid.itinerary
  split
  · next hempty =>
    obtain ⟨zones, hascending⟩ := region
    obtain rfl : zones = #[] := Array.isEmpty_iff.mp hempty
    exact Grid.ahead_ofGrid g
  · next hempty => exact if_neg hempty

lemma left_eq (w : ZoneWalk) : w.left = w.ahead.length := by
  unfold left total ahead
  by_cases hempty : w.region.isEmpty
  · rw [if_pos hempty, if_pos hempty, List.length_map, List.length_range']
  · rw [if_neg hempty, if_neg hempty, List.length_drop]
    rfl

lemma Inside.map_zone? (hw : w.Inside) : w.ahead.map w.grid.zone? = w.zonesAhead.map some := by
  unfold zonesAhead
  have hall : ∀ z ∈ w.ahead, (w.grid.zone? z).isSome := by
    intro z hz
    rw [Option.isSome_iff_exists]
    exact Grid.contains_iff.mp (hw z hz)
  generalize w.ahead = zs at *
  induction zs with
  | nil => rfl
  | cons z zs ih =>
    obtain ⟨zone, hzone⟩ := Option.isSome_iff_exists.mp (hall z List.mem_cons_self)
    rw [List.filterMap_cons_some hzone, List.map_cons, List.map_cons, hzone,
      ih (fun z' hz' => hall z' (List.mem_cons_of_mem z hz'))]

lemma zonesAhead_of_nil (h : w.ahead = []) : w.zonesAhead = [] := by
  rw [zonesAhead, h, List.filterMap_nil]

lemma zonesAhead_of_cons {z : ZoneId} {zs : List ZoneId} {zone : Zone} (h : w.ahead = z :: zs)
    (hzone : w.grid.zone? z = some zone) (hgrid : w'.grid = w.grid) (htail : w'.ahead = zs) :
    w.zonesAhead = zone :: w'.zonesAhead := by
  rw [zonesAhead, h, List.filterMap_cons_some hzone, zonesAhead, hgrid, htail]

/-- A call of `next` answers with the first zone that is left and leaves the ones behind it. -/
lemma Inside.call (hw : w.Inside) :
    ∃ w', w.call = .ok (w.zonesAhead.head?, w') ∧ w'.grid = w.grid ∧ w'.ahead = w.ahead.tail ∧
      w'.zonesAhead = w.zonesAhead.tail ∧ w'.Inside := by
  unfold ZoneWalk.call
  cases hzs : w.ahead with
  | nil =>
    rw [next_of_ahead_nil hzs, zonesAhead_of_nil hzs]
    exact ⟨w, rfl, rfl, hzs, zonesAhead_of_nil hzs, hw⟩
  | cons z zs =>
    obtain ⟨zone, w', hzone, hnext, hgrid, htail, hin⟩ := hw.next hzs
    rw [hnext, zonesAhead_of_cons hzs hzone hgrid htail]
    exact ⟨w', rfl, hgrid, htail, rfl, hin⟩

lemma collect_of_end (h : w.next = .ok none) (seen : List Zone) :
    w.collect seen = .ok seen.reverse := by
  rw [collect]
  split
  · next he => simp [h] at he
  · rfl
  · next he => simp [h] at he

lemma collect_of_zone {zone : Zone} (h : w.next = .ok (some (zone, w'))) (seen : List Zone) :
    w.collect seen = w'.collect (zone :: seen) := by
  rw [collect]
  split
  · next he => simp [h] at he
  · next he => simp [h] at he
  · next he =>
    rw [h, Except.ok.injEq, Option.some.injEq, Prod.mk.injEq] at he
    rw [he.1, he.2]

/-- Calls of `next` answer with the zones that are left, one after the other, and then with nothing,
and leave the ones behind those. -/
theorem Inside.calls (hw : w.Inside) (n : Nat) :
    ∃ w', w.calls n = .ok ((List.range n).map (w.zonesAhead[·]?), w') ∧ w'.grid = w.grid ∧
      w'.ahead = w.ahead.drop n ∧ w'.zonesAhead = w.zonesAhead.drop n ∧ w'.Inside := by
  induction n generalizing w with
  | zero => exact ⟨w, rfl, rfl, rfl, rfl, hw⟩
  | succ n ih =>
    obtain ⟨w', hcall, hgrid, htail, hzones, hin⟩ := hw.call
    obtain ⟨w'', hcalls, hgrid', hdrop, hzones', hin'⟩ := ih hin
    refine ⟨w'', ?_, hgrid'.trans hgrid, ?_, ?_, hin'⟩
    · rw [ZoneWalk.calls, hcall]
      dsimp only
      rw [hcalls, hzones, List.range_succ_eq_map, List.map_cons, List.map_map]
      simp [Function.comp_def, List.head?_eq_getElem?]
    · rw [hdrop, htail, List.drop_tail]
    · rw [hzones', hzones, List.drop_tail]

lemma collect_eq (hw : w.Inside) (seen : List Zone) :
    w.collect seen = .ok (seen.reverse ++ w.zonesAhead) := by
  generalize hzs : w.ahead = zs
  induction zs generalizing w seen with
  | nil =>
    rw [collect_of_end (next_of_ahead_nil hzs), zonesAhead_of_nil hzs, List.append_nil]
  | cons z zs ih =>
    obtain ⟨zone, w', hzone, hnext, hgrid, htail, hin⟩ := hw.next hzs
    rw [collect_of_zone hnext, ih hin _ htail, zonesAhead_of_cons hzs hzone hgrid htail,
      List.reverse_cons, List.append_assoc, List.singleton_append]

/-- A walk that is gone through at once comes by the zones that are left. -/
theorem Inside.rest_eq (hw : w.Inside) : w.rest = .ok w.zonesAhead :=
  collect_eq hw []

lemma ahead_narrow (w : ZoneWalk) (s : Segment) :
    (w.narrow s).ahead = w.zonesAhead.flatMap fun zone => (zone.segment s).toList := by
  have hflat : ∀ zs : List ZoneId, zs.flatMap (w.grid.segmentAt s) =
      (zs.filterMap w.grid.zone?).flatMap fun zone => (zone.segment s).toList := by
    intro zs
    induction zs with
    | nil => rfl
    | cons z zs ih =>
      rw [List.flatMap_cons, ih, Grid.segmentAt]
      cases hzone : w.grid.zone? z with
      | none =>
        rw [List.filterMap_cons_none hzone]
        rfl
      | some zone =>
        rw [List.filterMap_cons_some hzone, List.flatMap_cons]
        rfl
  exact hflat w.ahead

lemma Inside.rest_narrow (hw : w.Inside) (s : Segment) :
    (w.narrow s).rest = .ok (w.zonesAhead.flatMap fun zone => (zone.segment s).toList) := by
  have hrest : (w.narrow s).zones.rest = .ok w.zonesAhead := hw.rest_eq
  rw [ThingWalk.rest, hrest]
  rfl

end ZoneWalk

/-- On a grid that is small enough, and over a region of zones that it has, a walk comes by the
zones of its itinerary. After any number of calls of `next` it is at the zone of that place in the
itinerary, tells how many zones are left, and comes by these and then by nothing any more. The walk
over a segment that starts from there comes by what the zones that are left have in the segment, zone
after zone, and then by nothing any more. -/
theorem walks_follow_itinerary {g : Grid} (hg : g.Numbered) {region : Region}
    (hregion : ∀ z ∈ region, g.contains z) :
    ∃ zones : List Zone, (g.itinerary region).map g.zone? = zones.map some ∧
      ∀ k, ∃ w, (ZoneWalk.ofRegion g region).calls k = .ok ((List.range k).map (zones[·]?), w) ∧
        w.here? = (g.itinerary region)[k]? ∧
        w.left = (zones.drop k).length ∧
        w.sizeHint = ((zones.drop k).length, some (zones.drop k).length) ∧
        (∀ n, ∃ w', w.calls n = .ok ((List.range n).map ((zones.drop k)[·]?), w')) ∧
        w.rest = .ok (zones.drop k) ∧
        ∀ s, (w.narrow s).Yields ((zones.drop k).flatMap fun zone => (zone.segment s).toList) ∧
          (w.narrow s).rest = .ok ((zones.drop k).flatMap fun zone => (zone.segment s).toList) := by
  have hstart := ZoneWalk.inside_ofRegion hg hregion
  have hahead := ZoneWalk.ahead_ofRegion_eq g region
  refine ⟨(ZoneWalk.ofRegion g region).zonesAhead, ?_, ?_⟩
  · rw [← hahead]
    exact hstart.map_zone?
  · intro k
    obtain ⟨w, hcalls, -, hdrop, hzones, hw⟩ := hstart.calls k
    have hleft : w.left = w.zonesAhead.length := by
      rw [w.left_eq, ← List.length_map w.grid.zone?, hw.map_zone?, List.length_map]
    rw [← hzones]
    refine ⟨w, hcalls, ?_, hleft, ?_, ?_, hw.rest_eq, ?_⟩
    · rw [w.here?_eq, hdrop, hahead, List.head?_drop]
    · rw [ZoneWalk.sizeHint, hleft]
    · intro n
      obtain ⟨w', hcalls', -⟩ := hw.calls n
      exact ⟨w', hcalls'⟩
    · intro s
      refine ⟨?_, hw.rest_narrow s⟩
      rw [← w.ahead_narrow s]
      exact ThingWalk.yields_ahead hw

/-- A walk over two zones, narrowed when it has left the first one behind. -/
theorem walks_follow_itinerary_halfway :
    let g := ((Grid.ofLayout World.plaza).edit ⟨1⟩ (·.insert ⟨0, .first⟩ .character)).edit ⟨5⟩
      (·.insert ⟨1, .first⟩ .fixed)
    let region := Region.ofList [⟨5⟩, ⟨1⟩]
    g.Numbered ∧ (∀ z ∈ region, g.contains z) ∧
      ∃ answers w, (ZoneWalk.ofRegion g region).calls 1 = .ok (answers, w) ∧ w.here? = some ⟨5⟩ ∧
        w.left = 1 ∧ (w.narrow .all).Yields [⟨1, .first⟩] ∧ (w.narrow .moving).Yields [] := by
  intro g region
  have hg : g.Numbered := by
    unfold Grid.Numbered
    decide +kernel
  have hregion : ∀ z ∈ region, g.contains z := by
    intro z hz
    rw [Region.mem_ofList] at hz
    simp only [List.mem_cons, List.not_mem_nil, or_false] at hz
    rcases hz with rfl | rfl
    · decide +kernel
    · decide +kernel
  have hitinerary : g.itinerary region = [⟨1⟩, ⟨5⟩] := by decide +kernel
  obtain ⟨zones, hzones, hwalk⟩ := walks_follow_itinerary hg hregion
  obtain ⟨w, hcalls, hhere, hleft, -, -, -, hthings⟩ := hwalk 1
  have htwo : zones =
      [Zone.empty.insert ⟨0, .first⟩ .character, Zone.empty.insert ⟨1, .first⟩ .fixed] := by
    apply List.map_injective_iff.mpr (Option.some_injective Zone)
    rw [← hzones, hitinerary]
    rfl
  rw [hitinerary] at hhere
  subst htwo
  exact ⟨hg, hregion, _, w, hcalls, hhere, hleft, (hthings .all).1, (hthings .moving).1⟩

end Whereabouts
