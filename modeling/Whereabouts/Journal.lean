import Whereabouts.Thing
import Whereabouts.Thing.Handle
import Whereabouts.Zone.Id

/-!
# Journal

Operations that can meet something worth telling return a `Report`: their value and the events met
on the way, oldest first. An event is data; its level and its wording are given here once.
-/

namespace Whereabouts

inductive Level where
  | trace
  | debug
  | warn
  | error
deriving DecidableEq

def Level.text : Level → String
  | trace => "TRACE"
  | debug => "DEBUG"
  | warn => "WARN"
  | error => "ERROR"

inductive Event where
  /-- A block of public ids was opened. -/
  | blockOpened (block : Nat)
  /-- A public id was released whose block was never opened. -/
  | blockNeverOpened (id : PublicId)
  /-- A slot was released that nothing held. -/
  | slotAlreadyFree (slot : UInt8)
  /-- A thing was not in the zone it was to be taken out of. -/
  | missingFromZone (thing : Handle) (kind : Kind)
  /-- A thing ended while a map still listed it. -/
  | despawnedOnMap (thing : Handle) (map : MapId)
  /-- A map lists a thing that has ended. -/
  | listedButDead (thing : Handle)
  /-- A thing went from one zone to another. -/
  | crossed (thing : Handle) (source target : ZoneId) (before after : Point)
  /-- So many things changed zone on a map. -/
  | crossings (map : String) (count : Nat)
  /-- A thing was turned away because the map has no public id left. -/
  | noIdLeft (map : String) (thing : Handle)
  /-- A thing was taken off a map after it had ended. -/
  | staleRemoved (map : String) (thing : Handle)
  | loaded (id : MapId) (map : String) (columns rows zoneSize : UInt32)
  | unloaded (id : MapId) (map : String) (detached : Nat)
deriving DecidableEq

namespace Event

def level : Event → Level
  | blockOpened _ => .debug
  | blockNeverOpened _ => .error
  | slotAlreadyFree _ => .error
  | missingFromZone _ _ => .error
  | despawnedOnMap _ _ => .warn
  | listedButDead _ => .warn
  | crossed _ _ _ _ _ => .trace
  | crossings _ _ => .debug
  | noIdLeft _ _ => .warn
  | staleRemoved _ _ => .warn
  | loaded _ _ _ _ _ => .debug
  | unloaded _ _ _ => .debug

def message : Event → String
  | blockOpened block => s!"creating id bucket {block}"
  | blockNeverOpened id => s!"{id.tagged} released from a bucket never created"
  | slotAlreadyFree slot => s!"slot {slot.toNat} released twice"
  | missingFromZone thing kind =>
    s!"{thing.tagged} ({kind.text}) is not in the zone it was recorded in"
  | despawnedOnMap thing map => s!"{thing.tagged} despawned while still on {map.text}"
  | listedButDead thing => s!"{thing.tagged} is registered but no longer alive"
  | crossed thing source target before after =>
    s!"{thing.tagged} crossed {source.tagged} -> {target.tagged} ({before.text} -> {after.text})"
  | crossings map count => s!"{map}: {count} zone crossings"
  | noIdLeft map thing => s!"{map}: no public id left for {thing.tagged}"
  | staleRemoved map thing => s!"{map}: removed stale {thing.tagged}"
  | loaded id map columns rows zoneSize =>
    s!"loaded {id.text} ({map}): {columns.toNat}x{rows.toNat} zones of {zoneSize.toNat}px"
  | unloaded id map detached => s!"unloaded {id.text} ({map}), detached {detached} things"

def line (e : Event) : String :=
  s!"{e.level.text} {e.message}"

end Event

/-- What an operation gives back, with the events it met, oldest first. -/
structure Report (α : Type) where
  value : α
  events : List Event := []

end Whereabouts
