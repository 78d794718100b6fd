/-!
# Zone numbers

The zones of a grid are numbered row by row. Numbers and grid coordinates are 32-bit words, and a
number computed from coordinates wraps when the grid is larger than that.
-/

namespace Whereabouts

structure ZoneId where
  index : UInt32
deriving DecidableEq, Hashable

namespace ZoneId

/-- The zone in column `x` and row `y` of a grid with this many columns. -/
def ofCell (x y columns : UInt32) : ZoneId :=
  ⟨y * columns + x⟩

/-- Column and row of a zone; a grid without columns has no cells. -/
def cell? (z : ZoneId) (columns : UInt32) : Option (UInt32 × UInt32) :=
  if columns = 0 then none else some (z.index % columns, z.index / columns)

/-- The form used in messages. -/
def tagged (z : ZoneId) : String :=
  s!"ZoneId({z.index.toNat})"

end ZoneId

end Whereabouts
