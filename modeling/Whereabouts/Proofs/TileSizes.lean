import Whereabouts.Proofs.Tilings

/-!
# Maps measured in tiles

A side that is given in tiles is 32 pixels to a tile, or cut short to the longest side there is. A
side that was cut short takes more zones than a map may have, and so the layout does not pass its
check, as long as zones are smaller than 4096 pixels. From that size on they are few enough for
some layouts to pass whose sides were cut short.
-/

namespace Whereabouts

namespace Layout

/-- The sides of the layout are 32 pixels to a tile. -/
def Spans (l : Layout) (width height : UInt32) : Prop :=
  l.width.toNat = 32 * width.toNat ∧ l.height.toNat = 32 * height.toNat

variable {zoneSize : UInt32}

lemma toNat_tilesToPixels (tiles : UInt32) :
    (tilesToPixels tiles).toNat = min (32 * tiles.toNat) (2 ^ 32 - 1) := by
  have htile : tiles.toNat * tileSize = 32 * tiles.toNat := Nat.mul_comm _ _
  rw [tilesToPixels, htile]
  apply UInt32.toNat_ofNat_of_lt'
  exact Nat.lt_of_le_of_lt (Nat.min_le_right _ _) (by decide)

/-- A length is exact unless it was cut short to the longest one. -/
lemma tilesToPixels_cases (tiles : UInt32) :
    (tilesToPixels tiles).toNat = 32 * tiles.toNat ∨
      (tilesToPixels tiles).toNat = 2 ^ 32 - 1 := by
  rw [toNat_tilesToPixels]
  omega

/-- Small zones cannot cover the longest side unless there are too many of them. -/
lemma crowded_of_longest (hzone : 0 < zoneSize.toNat) (hsmall : zoneSize.toNat < 4096) :
    2 ^ 20 < ⌈((2 ^ 32 - 1 : Nat) : ℚ) / zoneSize.toNat⌉₊ := by
  have hpos : (0 : ℚ) < zoneSize.toNat := Nat.cast_pos.mpr hzone
  rw [Nat.lt_ceil, lt_div_iff₀ hpos]
  have hlt : 2 ^ 20 * zoneSize.toNat < 2 ^ 32 - 1 := by omega
  exact_mod_cast hlt

lemma ceil_div_pos {length : Nat} (hlength : 0 < length) (hzone : 0 < zoneSize.toNat) :
    0 < ⌈(length : ℚ) / zoneSize.toNat⌉₊ :=
  Nat.ceil_pos.mpr (div_pos (Nat.cast_pos.mpr hlength) (Nat.cast_pos.mpr hzone))

/-- No side of a layout with small zones that passes its check is the longest one. -/
lemma sides_ne_longest {l : Layout} (hl : l.check = .ok ()) (hsmall : l.zoneSize.toNat < 4096) :
    l.width.toNat ≠ 2 ^ 32 - 1 ∧ l.height.toNat ≠ 2 ^ 32 - 1 := by
  obtain ⟨⟨hwidth, hheight, hzone⟩, hcount⟩ := l.check_eq_ok_iff.mp hl
  have hcrowded := crowded_of_longest hzone hsmall
  have hacross : 0 < l.across := ceil_div_pos hwidth hzone
  have hdown : 0 < l.down := ceil_div_pos hheight hzone
  constructor
  · intro hlongest
    rw [← hlongest] at hcrowded
    exact absurd (hcrowded.trans_le (Nat.le_mul_of_pos_right _ hdown)) (Nat.not_lt.mpr hcount)
  · intro hlongest
    rw [← hlongest] at hcrowded
    exact absurd (hcrowded.trans_le (Nat.le_mul_of_pos_left _ hacross)) (Nat.not_lt.mpr hcount)

/-- Large zones cover a row of 2 ^ 27 tiles that was cut short, and are not too many. -/
lemma cut_row_passes (hlarge : 4096 ≤ zoneSize.toNat) :
    ((ofTiles 134217728 1).withZoneSize zoneSize).check = .ok () := by
  have hzone : 0 < zoneSize.toNat := by omega
  have hpos : (0 : ℚ) < zoneSize.toNat := Nat.cast_pos.mpr hzone
  have hwidth : ((ofTiles 134217728 1).withZoneSize zoneSize).width.toNat = 2 ^ 32 - 1 :=
    toNat_tilesToPixels _
  have hheight : ((ofTiles 134217728 1).withZoneSize zoneSize).height.toNat = 32 :=
    toNat_tilesToPixels _
  have hacross : ((ofTiles 134217728 1).withZoneSize zoneSize).across ≤ 2 ^ 20 := by
    rw [across, hwidth, Nat.ceil_le, withZoneSize, div_le_iff₀ hpos]
    have hle : 2 ^ 32 - 1 ≤ 2 ^ 20 * zoneSize.toNat := by omega
    exact_mod_cast hle
  have hdown : ((ofTiles 134217728 1).withZoneSize zoneSize).down ≤ 1 := by
    rw [down, hheight, Nat.ceil_le, withZoneSize, div_le_iff₀ hpos]
    have hle : 32 ≤ 1 * zoneSize.toNat := by omega
    exact_mod_cast hle
  rw [check_eq_ok_iff, Positive, hwidth, hheight]
  refine ⟨⟨by decide, by decide, hzone⟩, ?_⟩
  calc
    _ ≤ 2 ^ 20 * 1 := Nat.mul_le_mul hacross hdown
    _ = 2 ^ 20 := Nat.mul_one _

end Layout

/-- A layout measured in tiles has 32 pixels to a tile exactly when both sides fit, and else a side
is cut short to the longest there is. Every such layout that passes its check has 32 pixels to a
tile if and only if zones are smaller than 4096 pixels. -/
theorem tiles_kept_whole (zoneSize : UInt32) :
    (∀ width height,
      let l := (Layout.ofTiles width height).withZoneSize zoneSize
      l.zoneSize = zoneSize ∧
      l.width.toNat = min (32 * width.toNat) (2 ^ 32 - 1) ∧
      l.height.toNat = min (32 * height.toNat) (2 ^ 32 - 1) ∧
      (l.Spans width height ↔ 32 * width.toNat < 2 ^ 32 ∧ 32 * height.toNat < 2 ^ 32)) ∧
    ((∀ width height,
      let l := (Layout.ofTiles width height).withZoneSize zoneSize
      l.check = .ok () → l.Spans width height) ↔ zoneSize.toNat < 4096) := by
  constructor
  · intro width height l
    have hwidth : l.width.toNat = _ := Layout.toNat_tilesToPixels width
    have hheight : l.height.toNat = _ := Layout.toNat_tilesToPixels height
    refine ⟨rfl, hwidth, hheight, ?_⟩
    rw [Layout.Spans, hwidth, hheight]
    omega
  · constructor
    · intro hspans
      by_contra hlarge
      obtain ⟨hwidth, -⟩ := hspans _ _ (Layout.cut_row_passes (Nat.not_lt.mp hlarge))
      have hcut := (Layout.toNat_tilesToPixels 134217728).symm.trans hwidth
      exact absurd hcut (by decide)
    · intro hsmall width height l hl
      have hsides := Layout.sides_ne_longest hl hsmall
      exact ⟨(Layout.tilesToPixels_cases width).resolve_right hsides.1,
        (Layout.tilesToPixels_cases height).resolve_right hsides.2⟩

/-- A map of 4294967295 by 10 tiles keeps about a 32nd part of its width, and passes its check when
zones are large. -/
theorem cut_short_tiles_pass :
    let l := (Layout.ofTiles 4294967295 10).withZoneSize 4096
    l.check = .ok () ∧ l.width.toNat = 4294967295 ∧
      l.width.toNat ≠ 32 * (4294967295 : UInt32).toNat := by
  decide

end Whereabouts
