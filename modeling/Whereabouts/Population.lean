import Whereabouts.Journal

/-!
# Population

All things of a world, each in a slot of its own and reached through a handle. A slot whose thing
has ended is used again, the one freed last first, under the next generation.
-/

namespace Whereabouts

structure Slot where
  generation : Generation
  thing : Option Thing
deriving DecidableEq

structure Population where
  slots : Array Slot
  /-- Slots without a thing, the one freed last first. -/
  vacant : List UInt32
  alive : Nat
  vacant_lt : ∀ i ∈ vacant, i.toNat < slots.size := by simp

namespace Population

def empty : Population where
  slots := #[]
  vacant := []
  alive := 0

instance : Inhabited Population := ⟨empty⟩

/-- Store a thing in the slot freed last, or in a new one. -/
def spawn (p : Population) (t : Thing) : Handle × Population :=
  match h : p.vacant with
  | [] =>
    (⟨UInt32.ofNat p.slots.size, .first⟩,
      { slots := p.slots.push ⟨.first, some t⟩
        vacant := []
        alive := p.alive + 1 })
  | i :: rest =>
    have hi : i.toNat < p.slots.size := p.vacant_lt i (by simp [h])
    let generation := p.slots[i.toNat].generation
    (⟨i, generation⟩,
      { slots := p.slots.set i.toNat ⟨generation, some t⟩
        vacant := rest
        alive := p.alive + 1
        vacant_lt := fun j hj => by simpa using p.vacant_lt j (by simp [h, hj]) })

/-- The thing behind a handle, as long as it lives. -/
def get? (p : Population) (h : Handle) : Option Thing :=
  match p.slots[h.index.toNat]? with
  | some s => if s.generation = h.generation then s.thing else none
  | none => none

def contains (p : Population) (h : Handle) : Bool :=
  (p.get? h).isSome

theorem index_lt_of_get? {p : Population} {h : Handle} {t : Thing} (hg : p.get? h = some t) :
    h.index.toNat < p.slots.size := by
  unfold get? at hg
  split at hg
  · next hs => exact (Array.getElem?_eq_some_iff.mp hs).1
  · simp at hg

/-- End a thing. Its slot goes to the next generation, so its handle is dead from here on. -/
def despawn (p : Population) (h : Handle) : Report (Option Thing × Population) :=
  match hg : p.get? h with
  | none => ⟨(none, p), []⟩
  | some t =>
    have hi := index_lt_of_get? hg
    { value :=
        (some t,
          { slots := p.slots.set h.index.toNat ⟨h.generation.next, none⟩
            vacant := h.index :: p.vacant
            alive := p.alive - 1
            vacant_lt := by simpa [hi] using p.vacant_lt })
      events := match t.map with
        | some m => [.despawnedOnMap h m]
        | none => [] }

/-- Edit the thing behind a handle; a dead handle edits nothing. -/
def modify (p : Population) (h : Handle) (f : Thing → Thing) : Population :=
  { p with
    slots := p.slots.modify h.index.toNat fun s =>
      if s.generation = h.generation then { s with thing := s.thing.map f } else s
    vacant_lt := by simpa using p.vacant_lt }

/-- Go with a state through the slots from place `i` on, and let `f` edit each thing. -/
def visitSlots {σ : Type} (f : σ → Handle → Thing → σ × Thing) (s : σ) (i : Nat) :
    List Slot → σ × List Slot
  | [] => (s, [])
  | ⟨g, none⟩ :: rest =>
    let (s', rest') := visitSlots f s (i + 1) rest
    (s', ⟨g, none⟩ :: rest')
  | ⟨g, some t⟩ :: rest =>
    let (s', t') := f s ⟨UInt32.ofNat i, g⟩ t
    let (s'', rest') := visitSlots f s' (i + 1) rest
    (s'', ⟨g, some t'⟩ :: rest')

theorem length_visitSlots {σ : Type} (f : σ → Handle → Thing → σ × Thing) (s : σ) (i : Nat)
    (slots : List Slot) : (visitSlots f s i slots).2.length = slots.length := by
  induction slots generalizing s i with
  | nil => rfl
  | cons slot rest ih =>
    obtain ⟨g, thing⟩ := slot
    cases thing with
    | none => simp [visitSlots, ih]
    | some t => simp [visitSlots, ih]

/-- Go through the living things by ascending slot with a state, and edit each. -/
def visit {σ : Type} (p : Population) (f : σ → Handle → Thing → σ × Thing) (s : σ) :
    σ × Population :=
  let r := visitSlots f s 0 p.slots.toList
  (r.1,
    { p with
      slots := r.2.toArray
      vacant_lt := by simpa [r, length_visitSlots] using p.vacant_lt })

/-- Edit every thing. -/
def mapThings (p : Population) (f : Thing → Thing) : Population :=
  (p.visit (fun _ _ t => ((), f t)) ()).2

/-- The living things with their handles, by ascending slot. -/
def entries (p : Population) : List (Handle × Thing) :=
  p.slots.toList.zipIdx.filterMap fun (s, i) =>
    s.thing.map fun t => (⟨UInt32.ofNat i, s.generation⟩, t)

end Population

end Whereabouts
