import Whereabouts.Json.Skip
import Whereabouts.Layout.Fields

/-!
# A reader of layouts

A layout is written as an object with the members `width`, `height` and, unless it is the default,
`zone_size`, in any order and among any others, or as an array of the two or three numbers.
`readText` reads the text to its end.
-/

namespace Whereabouts.Layout

open Json

/-- The members read so far. -/
structure Draft where
  width : Option UInt32 := none
  height : Option UInt32 := none
  zoneSize : Option UInt32 := none
deriving DecidableEq

namespace Draft

def get? (d : Draft) : Field → Option UInt32
  | .width => d.width
  | .height => d.height
  | .zoneSize => d.zoneSize

def set (d : Draft) (f : Field) (n : UInt32) : Draft :=
  match f with
  | .width => { d with width := some n }
  | .height => { d with height := some n }
  | .zoneSize => { d with zoneSize := some n }

/-- What the field is as far as it is known. -/
def value? (d : Draft) (f : Field) : Option UInt32 :=
  d.get? f <|> f.default?

/-- The layout, if its two sides are known. -/
def layout (d : Draft) : Except Fault Layout :=
  match d.value? .width, d.value? .height, d.value? .zoneSize with
  | some width, some height, some zoneSize => .ok { width, height, zoneSize }
  | _, _, _ => .error .mismatch

end Draft

/-- What is wrong with a value that is not of the kind asked for. An array or object is so from its
first character on, any other value must be complete to be a mismatch. -/
def otherValue (cs : List Char) : Fault :=
  let after := fun {α : Type} (r : Except Fault α) => match r with
    | .error e => e
    | .ok _ => Fault.mismatch
  match cs with
  | '[' :: _ | '{' :: _ => .mismatch
  | '"' :: rest => after (readString rest)
  | 'n' :: rest => after (readLiteral ['u', 'l', 'l'] rest)
  | 't' :: rest => after (readLiteral ['r', 'u', 'e'] rest)
  | 'f' :: rest => after (readLiteral ['a', 'l', 's', 'e'] rest)
  | _ => .malformed

/-- Read an unsigned 32-bit number. -/
def readNumber (cs : List Char) : Except Fault (UInt32 × List Char) :=
  match skipBlank cs with
  | [] => .error .ended
  | c :: rest =>
    if c = '-' ∨ isDigit c then
      match readNumeral .ended (c :: rest) with
      | .error e => .error e
      | .ok (n, rest) =>
        match n.toUInt32? with
        | some word => .ok (word, rest)
        | none => .error n.fault
    else .error (otherValue (c :: rest))

/-- Read a member behind the opening quote of its name. -/
def readMember (d : Draft) (cs : List Char) : Except Fault (Draft × List Char) :=
  match readString cs with
  | .error e => .error e
  | .ok (name, rest) =>
    match Field.ofName? name with
    | none =>
      match skipColon rest with
      | .error e => .error e
      | .ok rest => (skipValue rest).map (d, ·)
    | some f =>
      if (d.get? f).isSome then .error .mismatch
      else
        match skipColon rest with
        | .error e => .error e
        | .ok rest => (readNumber rest).map fun (n, rest) => (d.set f n, rest)

theorem length_readNumber_le {cs rest : List Char} {n : UInt32}
    (h : readNumber cs = .ok (n, rest)) : rest.length ≤ cs.length := by
  refine Nat.le_trans ?_ (length_skipBlank_le cs)
  unfold readNumber at h
  split at h
  · simp at h
  · next hs =>
    rw [hs]
    split at h
    · split at h
      · simp at h
      · next hr =>
        split at h
        · cases h
          exact Nat.le_of_lt (length_readNumeral hr)
        · simp at h
    · simp at h

theorem length_readMember {d d' : Draft} {cs rest : List Char}
    (h : readMember d cs = .ok (d', rest)) : rest.length < cs.length := by
  unfold readMember at h
  split at h
  · simp at h
  · next hs =>
    refine Nat.lt_trans ?_ (length_readString hs)
    split at h
    · split at h
      · simp at h
      · next rest' hc =>
        cases hv : skipValue rest' with
        | error e => rw [hv] at h; cases h
        | ok left =>
          rw [hv] at h
          cases h
          exact Nat.lt_of_le_of_lt (length_skipValue_le hv) (length_skipColon hc)
    · split at h
      · simp at h
      · split at h
        · simp at h
        · next rest' hc =>
          cases hn : readNumber rest' with
          | error e => rw [hn] at h; cases h
          | ok n =>
            rw [hn] at h
            cases h
            exact Nat.lt_of_le_of_lt (length_readNumber_le hn) (length_skipColon hc)

/-- Read the members of an object behind the opening quote of a name, up to its end. -/
def readMembers (d : Draft) (cs : List Char) : Except Fault (Layout × List Char) :=
  match _member : readMember d cs with
  | .error e => .error e
  | .ok (d, rest) =>
    match _next : skipBlank rest with
    | [] => .error .ended
    | '}' :: rest => d.layout.map (·, rest)
    | ',' :: rest' =>
      match _name : skipBlank rest' with
      | [] => .error .ended
      | '"' :: rest'' => readMembers d rest''
      | _ => .error .malformed
    | _ => .error .malformed
termination_by cs.length
decreasing_by
  have h₁ := length_readMember _member
  have h₂ := length_skipBlank_le rest
  have h₃ := length_skipBlank_le rest'
  simp only [_next, _name, List.length_cons] at h₂ h₃
  omega

/-- Read an object behind its opening brace. -/
def readObject (cs : List Char) : Except Fault (Layout × List Char) :=
  match skipBlank cs with
  | [] => .error .ended
  | '}' :: rest => ({} : Draft).layout.map (·, rest)
  | '"' :: rest => readMembers {} rest
  | _ => .error .malformed

/-- Read the first element of an array, or find that it has none. -/
def readFirst (cs : List Char) : Except Fault (Option UInt32 × List Char) :=
  match skipBlank cs with
  | [] => .error .ended
  | ']' :: rest => .ok (none, ']' :: rest)
  | rest => (readNumber rest).map fun (n, rest) => (some n, rest)

/-- Read a further element of an array with the comma before it, or find that it has no more. -/
def readFurther (cs : List Char) : Except Fault (Option UInt32 × List Char) :=
  match skipBlank cs with
  | [] => .error .ended
  | ']' :: rest => .ok (none, ']' :: rest)
  | ',' :: rest =>
    match skipBlank rest with
    | [] => .error .ended
    | ']' :: _ => .error .malformed
    | rest => (readNumber rest).map fun (n, rest) => (some n, rest)
  | _ => .error .malformed

/-- Read the end of an array. -/
def readArrayEnd (cs : List Char) : Except Fault (List Char) :=
  match skipBlank cs with
  | [] => .error .ended
  | ']' :: rest => .ok rest
  | _ => .error .malformed

/-- Read an array behind its opening bracket. -/
def readArray (cs : List Char) : Except Fault (Layout × List Char) := do
  let (some width, cs) ← readFirst cs | throw .mismatch
  let (some height, cs) ← readFurther cs | throw .mismatch
  let (zoneSize, cs) ← readFurther cs
  let rest ← readArrayEnd cs
  return ({ width, height, zoneSize := zoneSize.getD defaultZoneSize }, rest)

/-- Read a layout at the front of a text. -/
def readLayout (cs : List Char) : Except Fault (Layout × List Char) :=
  match skipBlank cs with
  | [] => .error .ended
  | '{' :: rest => readObject rest
  | '[' :: rest => readArray rest
  | c :: rest =>
    if c = '-' ∨ isDigit c then
      match readNumeral .ended (c :: rest) with
      | .error e => .error e
      | .ok (n, _) => .error n.fault
    else .error (otherValue (c :: rest))

/-- Read a text that is a layout and nothing else. -/
def readText (text : String) : Except Fault Layout :=
  match readLayout text.toList with
  | .error e => .error e
  | .ok (l, rest) => if (skipBlank rest).isEmpty then .ok l else .error .malformed

end Whereabouts.Layout
