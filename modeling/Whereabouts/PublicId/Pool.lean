import Whereabouts.PublicId.Block

/-!
# The public ids of a map

A pool gives out the 65536 public ids of one map from blocks of 256, which it opens one after the
other. An id comes from the block that gave out the last one, or else from the first block with a
free slot; a new block is opened only when every opened one is full.
-/

namespace Whereabouts

structure IdPool where
  blocks : Array IdBlock
  /-- The block that gave out the last id. -/
  last : Nat

namespace IdPool

def maxBlocks : Nat := 256

def empty : IdPool := ⟨#[], 0⟩

instance : Inhabited IdPool := ⟨empty⟩

/-- A block that has been opened, or the block that would be. -/
def block (p : IdPool) (i : Nat) : IdBlock :=
  p.blocks[i]?.getD .empty

/-- The block that gives out the next id, and the slot it gives out. -/
def candidate? (p : IdPool) : Option (Nat × UInt8) :=
  match p.blocks[p.last]?.bind IdBlock.candidate? with
  | some slot => some (p.last, slot)
  | none => (List.range maxBlocks).findSome? fun i => (p.block i).candidate?.map (i, ·)

/-- Give an id to a thing, unless all of them are taken. -/
def grant (p : IdPool) (t : Handle) : Report (Option PublicId × IdPool) :=
  match p.candidate? with
  | none => ⟨(none, p), []⟩
  | some (i, slot) =>
    let id := PublicId.ofParts (UInt8.ofNat i) slot
    if i < p.blocks.size then
      ⟨(some id, { blocks := p.blocks.modify i (·.take slot t), last := i }), []⟩
    else
      ⟨(some id, { blocks := p.blocks.push (IdBlock.empty.take slot t), last := i }),
        [.blockOpened i]⟩

/-- Take an id back. One that is not taken stays as it is. -/
def release (p : IdPool) (id : PublicId) : Report IdPool :=
  match p.blocks[id.block.toNat]? with
  | none => ⟨p, [.blockNeverOpened id]⟩
  | some b =>
    if b.isFree id.slot then ⟨p, [.slotAlreadyFree id.slot]⟩
    else ⟨{ p with blocks := p.blocks.modify id.block.toNat (·.vacate id.slot) }, []⟩

/-- The thing that holds an id. -/
def holder (p : IdPool) (id : PublicId) : Option Handle :=
  p.blocks[id.block.toNat]?.bind (·.holder id.slot)

def isTaken (p : IdPool) (id : PublicId) : Bool :=
  p.blocks[id.block.toNat]?.any fun b => !b.isFree id.slot

/-- How many ids are taken. -/
def taken (p : IdPool) : Nat :=
  p.blocks.foldl (fun n b => n + (IdBlock.size - b.free)) 0

end IdPool

end Whereabouts
