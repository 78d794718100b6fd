import Whereabouts.Journal

/-!
# Blocks of public ids

A block has 256 slots. Four words hold one bit per slot, set while the slot is free, and beside
them stands who holds each slot. The next slot to give out is the one after the slot given out
last, or else the lowest free one of the first word that has any, searching from that slot's word
on and round again.
-/

namespace Whereabouts

structure IdBlock where
  words : Vector UInt64 4
  free : Nat
  /-- The slot to try first. -/
  hint : UInt8
  holders : Vector (Option Handle) 256

namespace IdBlock

def size : Nat := 256

def empty : IdBlock where
  words := .replicate 4 (UInt64.ofNat (UInt64.size - 1))
  free := size
  hint := 0
  holders := .replicate 256 none

instance : Inhabited IdBlock := ⟨empty⟩

/-- The word that holds the bit of a slot. -/
def wordOf (slot : UInt8) : Fin 4 :=
  ⟨slot.toNat / 64, Nat.div_lt_of_lt_mul slot.toNat_lt⟩

def maskOf (slot : UInt8) : UInt64 :=
  1 <<< (slot.toUInt64 % 64)

def isFree (b : IdBlock) (slot : UInt8) : Bool :=
  b.words[wordOf slot] &&& maskOf slot != 0

def isFull (b : IdBlock) : Bool :=
  b.free == 0

def holder (b : IdBlock) (slot : UInt8) : Option Handle :=
  b.holders.get ⟨slot.toNat, slot.toNat_lt⟩

/-- The slots of a word, from the lowest on. -/
def slotsOf (word : Nat) : List UInt8 :=
  (List.range' (64 * word) 64).map UInt8.ofNat

/-- The lowest free slot of the first word that has one, from a word on and round again. -/
def scan (b : IdBlock) (start : Nat) : Option UInt8 :=
  (List.range 4).findSome? fun i => (slotsOf ((start + i) % 4)).find? b.isFree

/-- The slot to give out next. -/
def candidate? (b : IdBlock) : Option UInt8 :=
  if b.isFull then none
  else if b.isFree b.hint then some b.hint
  else b.scan (b.hint.toNat / 64)

/-- Give a free slot to a thing. -/
def take (b : IdBlock) (slot : UInt8) (t : Handle) : IdBlock where
  words := b.words.set (wordOf slot) (b.words[wordOf slot] &&& ~~~maskOf slot)
  free := b.free - 1
  hint := slot + 1
  holders := b.holders.set slot.toNat (some t) slot.toNat_lt

/-- Make a taken slot free. -/
def vacate (b : IdBlock) (slot : UInt8) : IdBlock :=
  { b with
    words := b.words.set (wordOf slot) (b.words[wordOf slot] ||| maskOf slot)
    free := b.free + 1
    holders := b.holders.set slot.toNat none slot.toNat_lt }

/-- Give the next slot to a thing. -/
def grant (b : IdBlock) (t : Handle) : Option UInt8 × IdBlock :=
  match b.candidate? with
  | none => (none, b)
  | some slot => (some slot, b.take slot t)

/-- Make a slot free. One that is free already stays as it is. -/
def release (b : IdBlock) (slot : UInt8) : Report IdBlock :=
  if b.isFree slot then ⟨b, [.slotAlreadyFree slot]⟩ else ⟨b.vacate slot, []⟩

/-- The form used in messages. -/
def tagged (b : IdBlock) : String :=
  s!"IdBucket \x7b free: {b.free}, next: {b.hint.toNat}, .. \x7d"

end IdBlock

end Whereabouts
