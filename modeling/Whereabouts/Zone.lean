import Whereabouts.Journal
import Whereabouts.Zone.Region

/-!
# Zones

A zone holds the handles of the things in one grid cell in a single array of three segments:
characters, then other movable things, then fixed things, so each segment is a slice of it. A
thing enters or leaves without shifting the array: at each border between segments that is in the
way, one thing goes to the other end of its own segment.
-/

namespace Whereabouts

/-- A part of a zone. -/
inductive Segment where
  | characters
  /-- All movable things, characters among them. -/
  | moving
  | fixed
  | all
deriving DecidableEq

structure Zone where
  things : Array Handle
  characters : Nat
  /-- How many things are movable, characters among them. -/
  moving : Nat
  /-- Where things went from here during this tick. -/
  departures : Region
  characters_le : characters ≤ moving := by omega
  moving_le : moving ≤ things.size := by omega

namespace Zone

def empty : Zone where
  things := #[]
  characters := 0
  moving := 0
  departures := .empty

instance : Inhabited Zone := ⟨empty⟩

def size (z : Zone) : Nat :=
  z.things.size

def fixed (z : Zone) : Nat :=
  z.things.size - z.moving

def contains (z : Zone) (t : Handle) : Bool :=
  z.things.contains t

def segment (z : Zone) : Segment → Array Handle
  | .characters => z.things.extract 0 z.characters
  | .moving => z.things.extract 0 z.moving
  | .fixed => z.things.extract z.moving
  | .all => z.things

/-- Add a character: one thing of each later segment goes to the other end of its own. -/
def insertCharacter (z : Zone) (t : Handle) : Zone :=
  let last := z.things.size
  have hm := z.moving_le
  have hc := z.characters_le
  let things := z.things.push t
  have hs : things.size = last + 1 := Array.size_push _
  { things := (things.swap z.moving last).swap z.characters z.moving
      (by simp; omega) (by simp; omega)
    characters := z.characters + 1
    moving := z.moving + 1
    departures := z.departures
    moving_le := by simp; omega }

/-- Add a movable thing that is no character. -/
def insertOther (z : Zone) (t : Handle) : Zone :=
  let last := z.things.size
  have hm := z.moving_le
  have hc := z.characters_le
  let things := z.things.push t
  have hs : things.size = last + 1 := Array.size_push _
  { things := things.swap z.moving last
    characters := z.characters
    moving := z.moving + 1
    departures := z.departures
    moving_le := by simp; omega }

/-- Add a fixed thing. -/
def insertFixed (z : Zone) (t : Handle) : Zone :=
  have hm := z.moving_le
  have hc := z.characters_le
  { things := z.things.push t
    characters := z.characters
    moving := z.moving
    departures := z.departures
    moving_le := by simp; omega }

/-- Add a thing at the end of its segment. -/
def insert (z : Zone) (t : Handle) (kind : Kind) : Zone :=
  match kind with
  | .character => z.insertCharacter t
  | .monster | .npc => z.insertOther t
  | .fixed => z.insertFixed t

/-- The first place from `lo` on and before `hi` that holds `t`. -/
def firstPlace? (things : Array Handle) (t : Handle) (lo hi : Nat) (hhi : hi ≤ things.size) :
    Option Nat :=
  if h : lo < hi then
    if things[lo] = t then some lo else firstPlace? things t (lo + 1) hi hhi
  else none
termination_by hi - lo

/-- The first place of a thing in the segment of its kind. -/
def place? (z : Zone) (t : Handle) (kind : Kind) : Option Nat :=
  have hm := z.moving_le
  have hc := z.characters_le
  match kind with
  | .character => firstPlace? z.things t 0 z.characters (by omega)
  | .monster | .npc => firstPlace? z.things t z.characters z.moving hm
  | .fixed => firstPlace? z.things t z.moving z.things.size (Nat.le_refl _)

/-- Take out what stands at `i`. The gap goes to the end of its segment, then to the end of each
later one, until it is the end of the array. -/
def eraseAt (z : Zone) (i : Nat) : Zone :=
  have hm := z.moving_le
  have hc := z.characters_le
  let size := z.things.size
  if hi : i < z.characters then
    { things := (((z.things.swap i (z.characters - 1)).swap (z.characters - 1) (z.moving - 1)
        (by simp; omega) (by simp; omega)).swap (z.moving - 1) (size - 1)
        (by simp; omega) (by simp; omega)).pop
      characters := z.characters - 1
      moving := z.moving - 1
      departures := z.departures
      moving_le := by simp; omega }
  else if hi' : i < z.moving then
    { things := ((z.things.swap i (z.moving - 1)).swap (z.moving - 1) (size - 1)
        (by simp; omega) (by simp; omega)).pop
      characters := z.characters
      moving := z.moving - 1
      departures := z.departures
      moving_le := by simp; omega }
  else if hi'' : i < size then
    { things := (z.things.swap i (size - 1)).pop
      characters := z.characters
      moving := z.moving
      departures := z.departures
      moving_le := by simp; omega }
  else z

/-- Take a thing out of the segment of its kind. A thing that is not there changes nothing. -/
def erase (z : Zone) (t : Handle) (kind : Kind) : Report (Bool × Zone) :=
  match z.place? t kind with
  | some i => ⟨(true, z.eraseAt i), []⟩
  | none => ⟨(false, z), [.missingFromZone t kind]⟩

def noteDeparture (z : Zone) (target : ZoneId) : Zone :=
  { z with departures := z.departures.insert target }

def forgetDepartures (z : Zone) : Zone :=
  if z.departures.isEmpty then z else { z with departures := .empty }

end Zone

end Whereabouts
