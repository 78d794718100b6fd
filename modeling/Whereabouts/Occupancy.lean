import Whereabouts.Grid
import Whereabouts.Population
import Whereabouts.PublicId.Pool
import Whereabouts.Roster

/-!
# Occupancy

What stands on one map: the grid that holds the placed things, the pool of their public ids and the
roster of all things, placed or not. Once per tick `settle` moves the things that went elsewhere
into the zones they are in now, and leaves in each zone a note of where things went from there.
-/

namespace Whereabouts

structure Occupancy where
  grid : Grid
  ids : IdPool
  roster : Roster

namespace Occupancy

def ofLayout (l : Layout) : Occupancy where
  grid := .ofLayout l
  ids := .empty
  roster := .empty

def size (o : Occupancy) : Nat :=
  o.roster.size

def entry? (o : Occupancy) (t : Handle) : Option Entry :=
  o.roster.get? t

/-- Take a public id for a thing. -/
def reserve (o : Occupancy) (t : Handle) : Report (Option PublicId × Occupancy) :=
  let r := o.ids.grant t
  ⟨(r.value.1, { o with ids := r.value.2 }), r.events⟩

/-- List a thing. One with a position is also placed in the zone of that position. -/
def enlist (o : Occupancy) (t : Handle) (kind : Kind) (position : Option Point)
    (publicId : Option PublicId) : Except OutsideGrid Occupancy := do
  let zone := position.map o.grid.zoneAt
  let grid ← match zone with
    | some z => o.grid.insert z t kind
    | none => pure o.grid
  return { o with grid, roster := o.roster.add { thing := t, kind, zone, publicId } }

/-- Strike a thing off the roster, take it out of its zone and release its public id. -/
def strike (o : Occupancy) (t : Handle) :
    Except OutsideGrid (Report (Option Entry × Occupancy)) := do
  match o.roster.erase t with
  | (none, roster) => return ⟨(none, { o with roster }), []⟩
  | (some e, roster) =>
    let grid : Report Grid ← match e.zone with
      | some z => do
        let r ← o.grid.erase z t e.kind
        pure ⟨r.value.2, r.events⟩
      | none => pure ⟨o.grid, []⟩
    let ids : Report IdPool := match e.publicId with
      | some id => o.ids.release id
      | none => ⟨o.ids, []⟩
    return ⟨(some e, { grid := grid.value, ids := ids.value, roster }), grid.events ++ ids.events⟩

/-- How far `settle` has come: the grid so far, the crossings and, the last one first, the events
met. -/
structure Settling where
  grid : Grid
  crossings : Nat
  events : List Event

/-- Settle one entry: the zone it is in from now on. A thing stays in its zone if it is fixed, has
ended, has not moved in this tick, is still in the same zone, or is missing from that zone. -/
def settleEntry (people : Population) (s : Settling) (e : Entry) :
    Except OutsideGrid (Settling × Option ZoneId) := do
  match e.zone with
  | none => return (s, none)
  | some source =>
    if !e.kind.movable then return (s, some source)
    else match people.get? e.thing with
      | none => return ({ s with events := .listedButDead e.thing :: s.events }, some source)
      | some t =>
        let target := s.grid.zoneAt t.position
        if !t.moved || source == target then return (s, some source)
        else
          let r ← s.grid.erase source e.thing e.kind
          let events := r.events ++ s.events
          if r.value.1 then
            let grid ← r.value.2.noteDeparture source target
            let grid ← grid.insert target e.thing e.kind
            let crossed := .crossed e.thing source target t.tickStart t.position
            return ({ grid, crossings := s.crossings + 1, events := crossed :: events }, some target)
          else return ({ s with grid := r.value.2, events }, some source)

/-- Forget where things went in the last tick and move every placed thing that went elsewhere in
this one. The value is how many did. -/
def settle (o : Occupancy) (people : Population) :
    Except OutsideGrid (Report (Nat × Occupancy)) := do
  let start : Settling := { grid := o.grid.forgetDepartures, crossings := 0, events := [] }
  let (s, roster) ← o.roster.rezone (settleEntry people) start
  return ⟨(s.crossings, { grid := s.grid, ids := o.ids, roster }), s.events.reverse⟩

end Occupancy

end Whereabouts
