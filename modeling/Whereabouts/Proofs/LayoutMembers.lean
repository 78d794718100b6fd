import Mathlib.Tactic.Lemma
import Whereabouts.Layout.Fields
import Whereabouts.Proofs.JsonGrammar

/-!
# The layout that members describe

A layout may be written in countless ways: its members in any order, between any others, with any
blanks and escapes. `Describes` says which layout the members of an object describe, without a
reader. It asks for the values that each field has and for nothing else, so members of other names
make no difference to it.
-/

namespace Whereabouts.Layout

open Json

def get (l : Layout) : Field → UInt32
  | .width => l.width
  | .height => l.height
  | .zoneSize => l.zoneSize

/-- The members of this name give this number, or there are none. -/
def Given (ms : List Member) (name : String) : Option UInt32 → Prop
  | none => valuesOf name ms = []
  | some n => ∃ v, valuesOf name ms = [v] ∧ NumberText n v

/-- The layout that the members of an object describe: each field is the number that its one member
writes, or its default when it has no member. -/
def Describes (ms : List Member) (l : Layout) : Prop :=
  ∀ f : Field, Given ms f.name (some (l.get f)) ∨
    Given ms f.name none ∧ f.default? = some (l.get f)

lemma mem_valuesOf {name : String} {v : List Char} {ms : List Member} :
    v ∈ valuesOf name ms ↔ (name, v) ∈ ms := by
  simp [valuesOf]

lemma Describes.number {ms : List Member} {l : Layout} (h : Describes ms l) {f : Field}
    {v : List Char} (hv : (f.name, v) ∈ ms) : NumberText (l.get f) v := by
  rw [← mem_valuesOf] at hv
  rcases h f with ⟨v', hv', hn⟩ | ⟨hnone, -⟩
  · rw [hv', List.mem_singleton] at hv
    exact hv ▸ hn
  · rw [Given] at hnone
    rw [hnone] at hv
    contradiction

lemma Describes.default {ms : List Member} {l : Layout} (h : Describes ms l) {f : Field}
    (hf : valuesOf f.name ms = []) : f.default? = some (l.get f) := by
  rcases h f with ⟨v, hv, -⟩ | ⟨-, hdefault⟩
  · rw [hv] at hf
    contradiction
  · exact hdefault

end Whereabouts.Layout
