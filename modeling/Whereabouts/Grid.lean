import Whereabouts.Layout
import Whereabouts.Zone

/-!
# Grids

A grid covers a map with zones, row by row. Every point belongs to a zone: one off the map belongs
to the zone of the nearest point on it. `fillAround` and `fillOverlapping` add the zones that a box
meets to a region; the box is taken in exact arithmetic, so it may reach beyond the map and beyond
32 bits. Zones are looked up by their numbers, and whatever looks one up fails with `OutsideGrid`
when the grid has none of this number.
-/

namespace Whereabouts

/-- A zone was looked up that the grid does not have. -/
structure OutsideGrid where
  zone : ZoneId
deriving DecidableEq

structure Grid where
  columns : UInt32
  rows : UInt32
  zoneSize : UInt32
  zones : Array Zone
  columns_pos : 0 < columns.toNat
  rows_pos : 0 < rows.toNat
  zoneSize_pos : 0 < zoneSize.toNat
  size_zones : zones.size = columns.toNat * rows.toNat

namespace Grid

def ofLayout (l : Layout) : Grid where
  columns := l.columns
  rows := l.rows
  zoneSize := Layout.side l.zoneSize
  zones := Array.replicate (l.columns.toNat * l.rows.toNat) .empty
  columns_pos := Layout.cover_pos _ _
  rows_pos := Layout.cover_pos _ _
  zoneSize_pos := Layout.side_pos _
  size_zones := Array.size_replicate

def size (g : Grid) : Nat :=
  g.zones.size

def zone? (g : Grid) (z : ZoneId) : Option Zone :=
  g.zones[z.index.toNat]?

/-- Whether the grid has a zone of this number. -/
def contains (g : Grid) (z : ZoneId) : Bool :=
  z.index.toNat < g.zones.size

/-- The column of a pixel column; those off the map count to the nearest one. -/
def column (g : Grid) (x : Int) : UInt32 :=
  UInt32.ofNat (min (x.toNat / g.zoneSize.toNat) (g.columns.toNat - 1))

/-- The row of a pixel row; those off the map count to the nearest one. -/
def row (g : Grid) (y : Int) : UInt32 :=
  UInt32.ofNat (min (y.toNat / g.zoneSize.toNat) (g.rows.toNat - 1))

def zoneAt (g : Grid) (p : Point) : ZoneId :=
  .ofCell (g.column p.x.toInt) (g.row p.y.toInt) g.columns

/-- The numbers from `a` to `b`, both included, and none when `b` comes first. -/
def span (a b : UInt32) : List UInt32 :=
  (List.range' a.toNat (b.toNat + 1 - a.toNat)).map UInt32.ofNat

/-- Add the zones between the zones of two corners to a region, one by one and row by row. There are
none between corners that are the wrong way round. -/
def fillBox (g : Grid) (region : Region) (left top right bottom : Int) : Region :=
  (span (g.row top) (g.row bottom)).foldl (fun region y =>
    (span (g.column left) (g.column right)).foldl (fun region x =>
      region.insert (.ofCell x y g.columns)) region) region

/-- Add the zones that meet the square of side `2 * radius` around a point. -/
def fillAround (g : Grid) (region : Region) (center : Point) (radius : UInt32) : Region :=
  let x := center.x.toInt
  let y := center.y.toInt
  g.fillBox region (x - radius.toNat) (y - radius.toNat) (x + radius.toNat) (y + radius.toNat)

/-- Add the zones that meet a rectangle. -/
def fillOverlapping (g : Grid) (region : Region) (r : Rect) : Region :=
  let x := r.x.toInt
  let y := r.y.toInt
  g.fillBox region x y (x + r.w.toInt) (y + r.h.toInt)

/-- The zones that meet the square of side `2 * radius` around a point. -/
def around (g : Grid) (center : Point) (radius : UInt32) : Region :=
  g.fillAround .empty center radius

/-- The zones that meet a rectangle. -/
def overlapping (g : Grid) (r : Rect) : Region :=
  g.fillOverlapping .empty r

/-- Look a zone up. -/
def zone (g : Grid) (z : ZoneId) : Except OutsideGrid Zone :=
  match g.zone? z with
  | some zone => .ok zone
  | none => .error ⟨z⟩

/-- The grid with one zone edited, if there is one of this number. -/
def edit (g : Grid) (z : ZoneId) (f : Zone → Zone) : Grid :=
  { g with
    zones := g.zones.modify z.index.toNat f
    size_zones := by rw [Array.size_modify, g.size_zones] }

/-- Look a zone up and edit it. -/
def modify (g : Grid) (z : ZoneId) (f : Zone → Zone) : Except OutsideGrid Grid :=
  if g.contains z then .ok (g.edit z f) else .error ⟨z⟩

def insert (g : Grid) (z : ZoneId) (t : Handle) (kind : Kind) : Except OutsideGrid Grid :=
  g.modify z (·.insert t kind)

def noteDeparture (g : Grid) (z target : ZoneId) : Except OutsideGrid Grid :=
  g.modify z (·.noteDeparture target)

/-- Take a thing out of one zone. A thing that is not there changes nothing. -/
def erase (g : Grid) (z : ZoneId) (t : Handle) (kind : Kind) :
    Except OutsideGrid (Report (Bool × Grid)) := do
  let zone ← g.zone z
  match zone.place? t kind with
  | some i =>
    let g ← g.modify z (·.eraseAt i)
    return ⟨(true, g), []⟩
  | none => return ⟨(false, g), [.missingFromZone t kind]⟩

def forgetDepartures (g : Grid) : Grid :=
  { g with
    zones := g.zones.map (·.forgetDepartures)
    size_zones := by rw [Array.size_map, g.size_zones] }

end Grid

end Whereabouts
