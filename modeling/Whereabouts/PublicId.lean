/-!
# Public ids

A public id names one movable thing on one map in 16 bits. Ids come in blocks of 256: the high
byte is the block, the low byte the slot inside it, and `ofParts` undoes the two projections.
-/

namespace Whereabouts

structure PublicId where
  raw : UInt16
deriving DecidableEq, Hashable

namespace PublicId

def ofParts (block slot : UInt8) : PublicId :=
  ⟨block.toUInt16 * 256 + slot.toUInt16⟩

def block (id : PublicId) : UInt8 :=
  (id.raw / 256).toUInt8

def slot (id : PublicId) : UInt8 :=
  id.raw.toUInt8

def text (id : PublicId) : String :=
  toString id.raw.toNat

/-- The form used in messages, which shows both parts. -/
def tagged (id : PublicId) : String :=
  s!"PublicId({id.block.toNat}:{id.slot.toNat})"

theorem block_ofParts (b s : UInt8) : (ofParts b s).block = b := by
  apply UInt8.toNat_inj.mp
  have hb := b.toNat_lt
  have hs := s.toNat_lt
  simp only [block, ofParts, UInt16.toNat_toUInt8, UInt16.toNat_div, UInt16.toNat_add,
    UInt16.toNat_mul, UInt8.toNat_toUInt16, UInt16.toNat_ofNat, Nat.reducePow, Nat.reduceMod]
  omega

theorem slot_ofParts (b s : UInt8) : (ofParts b s).slot = s := by
  apply UInt8.toNat_inj.mp
  have hb := b.toNat_lt
  have hs := s.toNat_lt
  simp only [slot, ofParts, UInt16.toNat_toUInt8, UInt16.toNat_add, UInt16.toNat_mul,
    UInt8.toNat_toUInt16, UInt16.toNat_ofNat, Nat.reducePow, Nat.reduceMod]
  omega

theorem ofParts_block_slot (id : PublicId) : ofParts id.block id.slot = id := by
  obtain ⟨raw⟩ := id
  have hr := raw.toNat_lt
  simp only [ofParts, block, slot, PublicId.mk.injEq]
  apply UInt16.toNat_inj.mp
  simp only [UInt16.toNat_toUInt8, UInt16.toNat_div, UInt16.toNat_add, UInt16.toNat_mul,
    UInt8.toNat_toUInt16, UInt16.toNat_ofNat, Nat.reducePow, Nat.reduceMod]
  omega

end PublicId

end Whereabouts
