import Whereabouts.Grid.Walk
import Whereabouts.Occupancy
import Whereabouts.Refusal

/-!
# Maps

A map under its number and name, with everything that stands on it. A thing on a map refers back to
it, so things enter and leave together with the population they live in. The queries answer with
a walk over the zones that may hold what is asked for. What looks zones up fails with `OutsideGrid`
when one is not there.
-/

namespace Whereabouts

structure GameMap where
  id : MapId
  name : String
  layout : Layout
  occupancy : Occupancy

namespace GameMap

/-- An empty map. -/
def build (id : MapId) (name : String) (layout : Layout) : GameMap :=
  { id, name, layout, occupancy := .ofLayout layout }

def grid (m : GameMap) : Grid :=
  m.occupancy.grid

def size (m : GameMap) : Nat :=
  m.occupancy.size

def entry? (m : GameMap) (t : Handle) : Option Entry :=
  m.occupancy.entry? t

def contains (m : GameMap) (t : Handle) : Bool :=
  (m.entry? t).isSome

/-- Every thing on the map, placed or not. -/
def things (m : GameMap) : List Handle :=
  m.occupancy.roster.things

/-- The thing that holds a public id here. -/
def holder (m : GameMap) (id : PublicId) : Option Handle :=
  m.occupancy.ids.holder id

/-- List a living thing and let it refer to this map. Only a visible thing is placed. -/
def receive (m : GameMap) (people : Population) (t : Handle) (thing : Thing)
    (publicId : Option PublicId) : Except OutsideGrid (GameMap × Population) := do
  let position := if thing.visible then some thing.position else none
  let occupancy ← m.occupancy.enlist t thing.kind position publicId
  return ({ m with occupancy }, people.modify t (·.enter m.id publicId))

/-- Put a thing on the map. A visible movable thing gets a public id, which is the value; when none
is left the thing stays off the map. -/
def insert (m : GameMap) (people : Population) (t : Handle) :
    Except OutsideGrid (Report (Except Refusal (Option PublicId) × GameMap × Population)) := do
  match people.get? t with
  | none => return ⟨(.error (.unknownThing t), m, people), []⟩
  | some thing =>
    match thing.map with
    | some other => return ⟨(.error (.alreadyOnMap t other), m, people), []⟩
    | none =>
      if thing.visible && thing.movable then
        let r := m.occupancy.reserve t
        let m := { m with occupancy := r.value.2 }
        match r.value.1 with
        | none =>
          return ⟨(.error (.idsExhausted m.id), m, people), r.events ++ [.noIdLeft m.name t]⟩
        | some id =>
          let received ← m.receive people t thing (some id)
          return ⟨(.ok (some id), received), r.events⟩
      else
        let received ← m.receive people t thing none
        return ⟨(.ok none, received), []⟩

/-- Take a thing off the map, also one that has ended since. -/
def erase (m : GameMap) (people : Population) (t : Handle) :
    Except OutsideGrid (Report (Except Refusal Unit × GameMap × Population)) := do
  let r ← m.occupancy.strike t
  let m := { m with occupancy := r.value.2 }
  match r.value.1 with
  | none => return ⟨(.error (.notOnMap t m.id), m, people), r.events⟩
  | some _ =>
    if people.contains t then return ⟨(.ok (), m, people.modify t Thing.leave), r.events⟩
    else return ⟨(.ok (), m, people), r.events ++ [.staleRemoved m.name t]⟩

/-- End the tick: every thing that went elsewhere changes zone. The value is how many did. -/
def settle (m : GameMap) (people : Population) : Except OutsideGrid (Report (Nat × GameMap)) := do
  let r ← m.occupancy.settle people
  let n := r.value.1
  return ⟨(n, { m with occupancy := r.value.2 }),
    if n = 0 then r.events else r.events ++ [.crossings m.name n]⟩

/-- Take everything off the map at once. The value is what was on it. -/
def clear (m : GameMap) (people : Population) : List Handle × GameMap × Population :=
  let things := m.things
  (things, .build m.id m.name m.layout,
    things.foldl (fun people t => people.modify t Thing.leave) people)

/-- The zones within a radius of a point, counted along each axis. -/
def near (m : GameMap) (center : Point) (radius : UInt32) : ZoneWalk :=
  .ofRegion m.grid (m.grid.around center radius)

/-- The zones around a thing. -/
def nearThing (m : GameMap) (thing : Thing) (radius : UInt32) : ZoneWalk :=
  m.near thing.position radius

/-- The zones that meet a rectangle. -/
def within (m : GameMap) (r : Rect) : ZoneWalk :=
  .ofRegion m.grid (m.grid.overlapping r)

/-- The zones around where a thing was when the tick began, those that things left there for, and
the zones around where it is now. -/
def inSight (m : GameMap) (thing : Thing) (radius : UInt32) : Except OutsideGrid ZoneWalk := do
  let before := m.grid.around thing.tickStart radius
  let leftFor ← before.toList.foldlM (fun region z => do
    let zone ← m.grid.zone z
    return region.union zone.departures) before
  return .ofRegion m.grid (m.grid.fillAround leftFor thing.position radius)

/-- All zones of the map. -/
def everywhere (m : GameMap) : ZoneWalk :=
  .ofGrid m.grid

end GameMap

end Whereabouts
