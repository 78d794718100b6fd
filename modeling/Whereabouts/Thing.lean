import Whereabouts.Plane
import Whereabouts.PublicId

/-!
# Things

A thing is anything that can stand on a map. It remembers where it stood when the current tick
began, and, while it is on a map, which map that is and the public id it holds there. Fixed things
have no history: they are always where they started.
-/

namespace Whereabouts

inductive Kind where
  | character
  | monster
  | npc
  | fixed
deriving DecidableEq

namespace Kind

/-- Movable things change position between ticks and hold a public id while they are visible. -/
def movable : Kind → Bool
  | character | monster | npc => true
  | fixed => false

def text : Kind → String
  | character => "Character"
  | monster => "Monster"
  | npc => "Npc"
  | fixed => "Fixed"

end Kind

/-- The number a map is loaded under. -/
structure MapId where
  number : UInt32
deriving DecidableEq, Hashable

def MapId.text (m : MapId) : String :=
  s!"map#{m.number.toNat}"

structure Thing where
  kind : Kind
  visible : Bool
  position : Point
  /-- Where a movable thing stood when the tick began. -/
  origin : Point
  map : Option MapId
  publicId : Option PublicId
deriving DecidableEq

namespace Thing

/-- A thing that stands still and is on no map. -/
def fresh (kind : Kind) (visible : Bool) (position : Point) : Thing :=
  { kind, visible, position, origin := position, map := none, publicId := none }

def movable (t : Thing) : Bool :=
  t.kind.movable

/-- Where the thing stood when the tick began; a fixed thing never stood anywhere else. -/
def tickStart (t : Thing) : Point :=
  if t.movable then t.origin else t.position

def moved (t : Thing) : Bool :=
  t.tickStart != t.position

/-- Moving a fixed thing moves its past along. -/
def moveTo (t : Thing) (p : Point) : Thing :=
  { t with position := p, origin := if t.movable then t.origin else p }

/-- Begin a tick here. -/
def beginTick (t : Thing) : Thing :=
  { t with origin := t.position }

/-- Enter a map, which restarts the tick at the current position. -/
def enter (t : Thing) (m : MapId) (id : Option PublicId) : Thing :=
  { t.beginTick with map := some m, publicId := id }

def leave (t : Thing) : Thing :=
  { t with map := none, publicId := none }

end Thing

end Whereabouts
