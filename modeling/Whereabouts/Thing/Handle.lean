/-!
# Handles

A handle names a thing by the slot it is stored in and the generation of that slot, so a handle
kept after its thing is gone never names the thing that took the slot over.
-/

namespace Whereabouts

structure Generation where
  count : UInt32
deriving DecidableEq, Hashable

namespace Generation

def first : Generation := ⟨0⟩

/-- The count starts again after 2 ^ 32 generations. -/
def next (g : Generation) : Generation :=
  ⟨g.count + 1⟩

def text (g : Generation) : String :=
  s!"gen{g.count.toNat}"

end Generation

structure Handle where
  index : UInt32
  generation : Generation
deriving DecidableEq, Hashable

namespace Handle

def text (h : Handle) : String :=
  s!"{h.index.toNat}v{h.generation.count.toNat}"

/-- The form used in messages. -/
def tagged (h : Handle) : String :=
  s!"Thing({h.text})"

end Handle

end Whereabouts
