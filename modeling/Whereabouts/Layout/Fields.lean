import Whereabouts.Refusal

/-!
# Layouts from texts

A layout is written down by its fields under their names; the zone size may be left out. How a text
is read is not settled here: `ofJson` takes the reader as a parameter and accepts, of the layouts
that it reads, those that pass their check.
-/

namespace Whereabouts.Layout

inductive Field where
  | width
  | height
  | zoneSize
deriving DecidableEq

namespace Field

def all : List Field :=
  [width, height, zoneSize]

/-- The name of the field in a text. -/
def name : Field → String
  | width => "width"
  | height => "height"
  | zoneSize => "zone_size"

/-- What the field is when a text leaves it out. A text must not leave out a side. -/
def default? : Field → Option UInt32
  | width | height => none
  | zoneSize => some defaultZoneSize

def ofName? (name : String) : Option Field :=
  all.find? fun f => f.name = name

end Field

/-- The layout that a text describes, if a map can be built from it. -/
def ofJson (read : String → Except Json.Fault Layout) (text : String) : Except Refusal Layout :=
  match read text with
  | .error fault => .error (.unreadableLayout fault)
  | .ok l =>
    match l.check with
    | .error fault => .error (.invalidLayout fault)
    | .ok () => .ok l

end Whereabouts.Layout
