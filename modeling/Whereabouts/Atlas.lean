import Std.Data.TreeMap
import Whereabouts.GameMap

/-!
# The atlas

The maps that are loaded, by number. Only a layout that passes its check is loaded, each number
once; a map that is unloaded lets go of everything on it.
-/

namespace Whereabouts

structure Atlas where
  maps : Std.TreeMap UInt32 GameMap

namespace Atlas

def empty : Atlas := ⟨∅⟩

instance : Inhabited Atlas := ⟨empty⟩

def size (a : Atlas) : Nat :=
  a.maps.size

def find? (a : Atlas) (id : MapId) : Option GameMap :=
  a.maps[id.number]?

def contains (a : Atlas) (id : MapId) : Bool :=
  a.maps.contains id.number

/-- The maps by ascending number. -/
def toList (a : Atlas) : List GameMap :=
  a.maps.values

/-- Take a map out, to work on it, and put it back with `put`. -/
def take? (a : Atlas) (id : MapId) : Option GameMap × Atlas :=
  match a.find? id with
  | none => (none, a)
  | some m => (some m, ⟨a.maps.erase id.number⟩)

/-- Keep a map under its number. -/
def put (a : Atlas) (m : GameMap) : Atlas :=
  ⟨a.maps.insert m.id.number m⟩

/-- Load an empty map. -/
def load (a : Atlas) (id : MapId) (name : String) (layout : Layout) :
    Report (Except Refusal Atlas) :=
  match layout.check with
  | .error fault => ⟨.error (.invalidLayout fault), []⟩
  | .ok () =>
    if a.contains id then ⟨.error (.mapAlreadyLoaded id), []⟩
    else ⟨.ok (a.put (.build id name layout)),
      [.loaded id name layout.columns layout.rows layout.zoneSize]⟩

/-- Unload a map and take everything off it. The value is the empty map. -/
def unload (a : Atlas) (people : Population) (id : MapId) :
    Report (Except Refusal GameMap × Atlas × Population) :=
  match a.take? id with
  | (none, a) => ⟨(.error (.mapNotLoaded id), a, people), []⟩
  | (some m, a) =>
    let (things, m, people) := m.clear people
    ⟨(.ok m, a, people), [.unloaded id m.name things.length]⟩

/-- End the tick on one more map and add up how many things changed zone. -/
def settleNext (people : Population) (total : Report (Nat × Atlas)) (number : UInt32)
    (m : GameMap) : Except OutsideGrid (Report (Nat × Atlas)) := do
  let r ← m.settle people
  return ⟨(total.value.1 + r.value.1, ⟨total.value.2.maps.insert number r.value.2⟩),
    total.events ++ r.events⟩

/-- End the tick on every map. The value is how many things changed zone in all. -/
def settleAll (a : Atlas) (people : Population) : Except OutsideGrid (Report (Nat × Atlas)) :=
  a.maps.foldlM (settleNext people) ⟨(0, a), []⟩

end Atlas

end Whereabouts
