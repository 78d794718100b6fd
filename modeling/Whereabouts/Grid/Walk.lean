import Whereabouts.Grid

/-!
# Walks

A `ZoneWalk` goes through the zones of a region in ascending order, or through the whole grid when
the region is empty; a `ThingWalk` goes through one segment of the zones that are left. Both only
go forward and stay at the end. A region may name zones that the grid does not have: the walk stops
with `OutsideGrid` when it comes to one.
-/

namespace Whereabouts

structure ZoneWalk where
  grid : Grid
  region : Region
  pos : Nat

namespace ZoneWalk

def ofRegion (grid : Grid) (region : Region) : ZoneWalk :=
  { grid, region, pos := 0 }

def ofGrid (grid : Grid) : ZoneWalk :=
  ofRegion grid .empty

/-- How many zones the walk has in all. -/
def total (w : ZoneWalk) : Nat :=
  if w.region.isEmpty then w.grid.size else w.region.size

/-- How many zones are left, the current one among them. -/
def left (w : ZoneWalk) : Nat :=
  w.total - w.pos

def here? (w : ZoneWalk) : Option ZoneId :=
  if w.region.isEmpty then
    if w.pos < w.grid.size then some ⟨UInt32.ofNat w.pos⟩ else none
  else w.region.get? w.pos

/-- The zone the walk is at, unless it is at the end. -/
def zoneHere (w : ZoneWalk) : Except OutsideGrid (Option Zone) :=
  match w.here? with
  | none => .ok none
  | some id => (w.grid.zone id).map some

/-- The current zone and the walk behind it. -/
def next (w : ZoneWalk) : Except OutsideGrid (Option (Zone × ZoneWalk)) :=
  match w.zoneHere with
  | .error e => .error e
  | .ok none => .ok none
  | .ok (some z) => .ok (some (z, { w with pos := w.pos + 1 }))

theorem pos_lt_total {w : ZoneWalk} {id : ZoneId} (h : w.here? = some id) :
    w.pos < w.total := by
  unfold here? at h
  unfold total
  split at h
  · next he =>
    split at h
    · simpa [he] using by assumption
    · simp at h
  · next he =>
    rw [if_neg he]
    exact (Array.getElem?_eq_some_iff.mp h).1

theorem left_lt_of_next {w w' : ZoneWalk} {z : Zone} (h : w.next = .ok (some (z, w'))) :
    w'.left < w.left := by
  unfold next at h
  split at h
  · simp at h
  · simp at h
  · next hz =>
    unfold zoneHere at hz
    split at hz
    · simp at hz
    · next hid =>
      have := pos_lt_total hid
      simp only [Except.ok.injEq, Option.some.injEq, Prod.mk.injEq] at h
      obtain ⟨-, rfl⟩ := h
      simp only [left, total] at *
      omega

/-- The zones that are left, behind those in `seen`, which holds the last one first. -/
def collect (w : ZoneWalk) (seen : List Zone) : Except OutsideGrid (List Zone) :=
  match _h : w.next with
  | .error e => .error e
  | .ok none => .ok seen.reverse
  | .ok (some (z, w')) => collect w' (z :: seen)
termination_by w.left
decreasing_by exact left_lt_of_next (by assumption)

/-- The zones that are left. -/
def rest (w : ZoneWalk) : Except OutsideGrid (List Zone) :=
  w.collect []

end ZoneWalk

structure ThingWalk where
  zones : ZoneWalk
  segment : Segment
  /-- What is left of the zone the walk is in. -/
  pending : List Handle

/-- The things of one segment in the zones that are left. -/
def ZoneWalk.narrow (w : ZoneWalk) (segment : Segment) : ThingWalk :=
  { zones := w, segment, pending := [] }

namespace ThingWalk

/-- The next thing, if there is one, and the walk behind it. -/
def next (w : ThingWalk) : Except OutsideGrid (Option Handle × ThingWalk) :=
  match w.pending with
  | t :: rest => .ok (some t, { w with pending := rest })
  | [] =>
    match _h : w.zones.next with
    | .error e => .error e
    | .ok none => .ok (none, w)
    | .ok (some (z, zones)) => next { w with zones, pending := (z.segment w.segment).toList }
termination_by w.zones.left
decreasing_by exact ZoneWalk.left_lt_of_next (by assumption)

/-- The answers of the next `n` calls of `next`, behind those in `seen`, the last one first. -/
def takeAux (w : ThingWalk) (n : Nat) (seen : List (Option Handle)) :
    Except OutsideGrid (List (Option Handle)) :=
  match n with
  | 0 => .ok seen.reverse
  | n + 1 =>
    match w.next with
    | .error e => .error e
    | .ok (t, w') => takeAux w' n (t :: seen)

/-- The answers of the next `n` calls of `next`. -/
def take (w : ThingWalk) (n : Nat) : Except OutsideGrid (List (Option Handle)) :=
  w.takeAux n []

/-- All things that are left. -/
def rest (w : ThingWalk) : Except OutsideGrid (List Handle) :=
  match w.zones.rest with
  | .error e => .error e
  | .ok zones => .ok (w.pending ++ zones.flatMap fun z => (z.segment w.segment).toList)

end ThingWalk

end Whereabouts
