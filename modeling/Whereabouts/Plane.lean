/-!
# The pixel plane

Points and rectangles on a map. Coordinates are signed 32-bit pixels, so the far edges of a
rectangle wrap around when they leave that range.
-/

namespace Whereabouts

/-- A position in pixels. -/
structure Point where
  x : Int32
  y : Int32
deriving DecidableEq, Inhabited

/-- A rectangle, given by its top left corner and its extent. -/
structure Rect where
  x : Int32
  y : Int32
  w : Int32
  h : Int32
deriving DecidableEq, Inhabited

namespace Point

def origin : Point := ⟨0, 0⟩

def text (p : Point) : String :=
  s!"({p.x.toInt}, {p.y.toInt})"

end Point

/-- The four edges belong to the rectangle. -/
def Rect.contains (r : Rect) (p : Point) : Bool :=
  r.x ≤ p.x && p.x ≤ r.x + r.w && r.y ≤ p.y && p.y ≤ r.y + r.h

end Whereabouts
