/-!
# Layouts

A layout gives the size of a map in pixels and the side of its square zones. Each side of the map
is cut into as many zones as it takes to cover it, and never into none. `check` turns away what no
map should be built from.
-/

namespace Whereabouts

structure Layout where
  width : UInt32
  height : UInt32
  zoneSize : UInt32
deriving DecidableEq

/-- Why no map can be built from a layout. -/
inductive LayoutFault where
  | emptyMap (width height : UInt32)
  | emptyZones
  | tooManyZones (columns rows zoneSize : UInt32)
deriving DecidableEq

namespace Layout

/-- The side of a tile in pixels. -/
def tileSize : Nat := 32

def defaultZoneSize : UInt32 := 256

/-- The largest number of zones on one map. -/
def maxZones : Nat := 1 <<< 20

def ofPixels (width height : UInt32) : Layout :=
  { width, height, zoneSize := defaultZoneSize }

/-- A length given in tiles, or the longest there is when it does not fit. -/
def tilesToPixels (tiles : UInt32) : UInt32 :=
  UInt32.ofNat (min (tiles.toNat * tileSize) (UInt32.size - 1))

def ofTiles (width height : UInt32) : Layout :=
  ofPixels (tilesToPixels width) (tilesToPixels height)

/-- The same map, cut into zones of another size. -/
def withZoneSize (l : Layout) (zoneSize : UInt32) : Layout :=
  { l with zoneSize }

/-- The side of a zone; zones are at least a pixel wide. -/
def side (zoneSize : UInt32) : UInt32 :=
  if zoneSize = 0 then 1 else zoneSize

/-- How many zones it takes to cover a length, and at least one. -/
def cover (length zoneSize : UInt32) : UInt32 :=
  UInt32.ofNat (max 1 ((length.toNat + (side zoneSize).toNat - 1) / (side zoneSize).toNat))

theorem side_pos (zoneSize : UInt32) : 0 < (side zoneSize).toNat := by
  unfold side
  split
  · decide
  · next h =>
    exact Nat.pos_of_ne_zero fun h0 => h (UInt32.toNat_inj.mp h0)

theorem toNat_cover (length zoneSize : UInt32) : (cover length zoneSize).toNat =
    max 1 ((length.toNat + (side zoneSize).toNat - 1) / (side zoneSize).toNat) := by
  have hl := length.toNat_lt
  have hs := side_pos zoneSize
  refine UInt32.toNat_ofNat_of_lt' (Nat.max_lt.mpr ⟨by decide, ?_⟩)
  generalize length.toNat = l at *
  obtain ⟨s, hs'⟩ := Nat.exists_eq_succ_of_ne_zero (Nat.pos_iff_ne_zero.mp hs)
  rw [hs']
  cases l with
  | zero => rw [Nat.div_eq_of_lt (by omega)]; decide
  | succ l =>
    have hmul : (s + 1) * (l + 1) = s * l + s + l + 1 := by
      simp only [Nat.add_mul, Nat.mul_add, Nat.mul_one, Nat.one_mul]
      omega
    have : (l + 1 + s.succ - 1) / s.succ ≤ l + 1 :=
      Nat.div_le_of_le_mul (by rw [Nat.succ_eq_add_one, hmul]; omega)
    exact Nat.lt_of_le_of_lt this hl

theorem cover_pos (length zoneSize : UInt32) : 0 < (cover length zoneSize).toNat := by
  rw [toNat_cover]
  omega

def columns (l : Layout) : UInt32 :=
  cover l.width l.zoneSize

def rows (l : Layout) : UInt32 :=
  cover l.height l.zoneSize

def check (l : Layout) : Except LayoutFault Unit :=
  if l.width = 0 ∨ l.height = 0 then .error (.emptyMap l.width l.height)
  else if l.zoneSize = 0 then .error .emptyZones
  else if l.columns.toNat * l.rows.toNat ≤ maxZones then .ok ()
  else .error (.tooManyZones l.columns l.rows l.zoneSize)

end Layout

def LayoutFault.message : LayoutFault → String
  | emptyMap width height => s!"map must not be empty ({width.toNat}x{height.toNat})"
  | emptyZones => "zone size must be positive"
  | tooManyZones columns rows zoneSize =>
    s!"{columns.toNat}x{rows.toNat} zones of {zoneSize.toNat} px exceed the limit of {Layout.maxZones}"

end Whereabouts
