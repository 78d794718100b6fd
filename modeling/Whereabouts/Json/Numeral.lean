import Whereabouts.Json.Text

/-!
# Numerals

A numeral is kept as it is written: a sign, the digits before and behind the point, and an exponent.
`toUInt32?` is the unsigned 32-bit number that it writes. Any other numeral is a mismatch, or malformed
when it is too large even for a number in double precision.
-/

namespace Whereabouts.Json

structure Numeral where
  negative : Bool
  whole : List Nat
  /-- The digits behind the point, if there is one. -/
  fraction : Option (List Nat)
  exponent : Option Int

def isDigit (c : Char) : Bool :=
  '0' ≤ c && c ≤ '9'

def digit (c : Char) : Nat :=
  c.toNat - '0'.toNat

/-- The digits at the front, and what follows them. -/
def readDigits (cs : List Char) : List Nat × List Char :=
  ((cs.takeWhile isDigit).map digit, cs.dropWhile isDigit)

/-- Extend a number by digits for as long as it fits 64 bits. The rest are the digits left over. -/
def accumulate (n : Nat) (digits : List Nat) : Nat × List Nat :=
  match digits with
  | [] => (n, [])
  | d :: rest => if 10 * n + d < UInt64.size then accumulate (10 * n + d) rest else (n, d :: rest)

/-- Read at least one digit; `atEnd` is the fault of a text that has none left. -/
def readDigits₁ (atEnd : Fault) (cs : List Char) : Except Fault (List Nat × List Char) :=
  match cs with
  | [] => .error atEnd
  | c :: _ => if isDigit c then .ok (readDigits cs) else .error .malformed

theorem length_readDigits₁ {atEnd : Fault} {cs rest : List Char} {ds : List Nat}
    (h : readDigits₁ atEnd cs = .ok (ds, rest)) : rest.length < cs.length := by
  unfold readDigits₁ at h
  split at h
  · simp at h
  · next c cs =>
    split at h
    · next hc =>
      simp only [readDigits, List.dropWhile_cons, hc, if_true, Except.ok.injEq,
        Prod.mk.injEq] at h
      rw [← h.2]
      exact Nat.lt_succ_of_le (List.dropWhile_sublist _).length_le
    · simp at h

/-- Read the digits before the point: a single zero, or digits that do not begin with one. -/
def readWhole (atEnd : Fault) (cs : List Char) : Except Fault (List Nat × List Char) :=
  match cs with
  | '0' :: c :: rest => if isDigit c then .error .malformed else .ok ([0], c :: rest)
  | cs => readDigits₁ atEnd cs

/-- Read the point and the digits behind it, if there is a point. -/
def readFraction (atEnd : Fault) (cs : List Char) : Except Fault (Option (List Nat) × List Char) :=
  match cs with
  | '.' :: rest =>
    match readDigits₁ atEnd rest with
    | .error e => .error e
    | .ok (ds, rest) => .ok (some ds, rest)
  | cs => .ok (none, cs)

/-- Whether an exponent is negative, and what follows its sign. -/
def readSign (cs : List Char) : Bool × List Char :=
  match cs with
  | '+' :: rest => (false, rest)
  | '-' :: rest => (true, rest)
  | cs => (false, cs)

/-- Read the exponent, if there is one. An exponent beyond 64 bits counts for the part that fits,
which is out of every range as well. -/
def readExponent (atEnd : Fault) (cs : List Char) : Except Fault (Option Int × List Char) :=
  match cs with
  | [] => .ok (none, [])
  | c :: rest =>
    if c = 'e' ∨ c = 'E' then
      let (negative, rest) := readSign rest
      match readDigits₁ atEnd rest with
      | .error e => .error e
      | .ok (ds, rest) =>
        let n : Int := (accumulate 0 ds).1
        .ok (some (if negative then -n else n), rest)
    else .ok (none, cs)

/-- Read a numeral behind its sign. -/
def readUnsigned (atEnd : Fault) (negative : Bool) (cs : List Char) :
    Except Fault (Numeral × List Char) :=
  match readWhole atEnd cs with
  | .error e => .error e
  | .ok (whole, cs) =>
    match readFraction atEnd cs with
    | .error e => .error e
    | .ok (fraction, cs) =>
      match readExponent atEnd cs with
      | .error e => .error e
      | .ok (exponent, cs) => .ok ({ negative, whole, fraction, exponent }, cs)

/-- Read a numeral; `atEnd` is the fault of a text that ends within it. -/
def readNumeral (atEnd : Fault) (cs : List Char) : Except Fault (Numeral × List Char) :=
  match cs with
  | '-' :: rest => readUnsigned atEnd true rest
  | cs => readUnsigned atEnd false cs

theorem length_readWhole {atEnd : Fault} {cs rest : List Char} {ds : List Nat}
    (h : readWhole atEnd cs = .ok (ds, rest)) : rest.length < cs.length := by
  unfold readWhole at h
  split at h
  · split at h
    · simp at h
    · simp only [Except.ok.injEq, Prod.mk.injEq] at h
      rw [← h.2]
      exact Nat.lt_succ_self _
  · exact length_readDigits₁ h

theorem length_readFraction {atEnd : Fault} {cs rest : List Char} {ds : Option (List Nat)}
    (h : readFraction atEnd cs = .ok (ds, rest)) : rest.length ≤ cs.length := by
  unfold readFraction at h
  split at h
  · split at h
    · simp at h
    · next hr =>
      simp only [Except.ok.injEq, Prod.mk.injEq] at h
      have := length_readDigits₁ hr
      rw [← h.2, List.length_cons]
      omega
  · simp only [Except.ok.injEq, Prod.mk.injEq] at h
    exact h.2 ▸ Nat.le_refl _

theorem length_readSign_le (cs : List Char) : (readSign cs).2.length ≤ cs.length := by
  unfold readSign
  split
  · exact Nat.le_succ _
  · exact Nat.le_succ _
  · exact Nat.le_refl _

theorem length_readExponent {atEnd : Fault} {cs rest : List Char} {n : Option Int}
    (h : readExponent atEnd cs = .ok (n, rest)) : rest.length ≤ cs.length := by
  unfold readExponent at h
  split at h
  · simp only [Except.ok.injEq, Prod.mk.injEq] at h
    exact h.2 ▸ Nat.le_refl _
  · next c cs =>
    split at h
    · have hs := length_readSign_le cs
      split at h
      next hsign =>
      rw [hsign] at hs
      split at h
      · simp at h
      · next hr =>
        simp only [Except.ok.injEq, Prod.mk.injEq] at h
        have := length_readDigits₁ hr
        dsimp only at hs
        rw [← h.2, List.length_cons]
        omega
    · simp only [Except.ok.injEq, Prod.mk.injEq] at h
      exact h.2 ▸ Nat.le_refl _

theorem length_readUnsigned {atEnd : Fault} {negative : Bool} {cs rest : List Char} {n : Numeral}
    (h : readUnsigned atEnd negative cs = .ok (n, rest)) : rest.length < cs.length := by
  unfold readUnsigned at h
  split at h
  · simp at h
  · next hw =>
    split at h
    · simp at h
    · next hf =>
      split at h
      · simp at h
      · next he =>
        simp only [Except.ok.injEq, Prod.mk.injEq] at h
        have := length_readWhole hw
        have := length_readFraction hf
        have := length_readExponent he
        rw [← h.2]
        omega

theorem length_readNumeral {atEnd : Fault} {cs rest : List Char} {n : Numeral}
    (h : readNumeral atEnd cs = .ok (n, rest)) : rest.length < cs.length := by
  unfold readNumeral at h
  split at h
  · exact Nat.lt_succ_of_lt (length_readUnsigned h)
  · exact length_readUnsigned h

/-- The nearest number with 53 significant bits, and the even one of two that are as near. -/
def roundToDouble (n : Nat) : Nat :=
  let unit := 1 <<< (n.log2 - 52)
  let down := n / unit
  let rest := 2 * (n % unit)
  if rest < unit ∨ (rest = unit ∧ down % 2 = 0) then down * unit else (down + 1) * unit

/-- The least number that rounds to more than every number in double precision. -/
def doubleLimit : Nat :=
  ((1 <<< 54) - 1) <<< 970

namespace Numeral

/-- Leading digits and a power of ten that stand for the numeral. Of the digits that do not fit 64
bits, those before the point count towards the power and those behind it not at all. -/
def scaled (n : Numeral) : Nat × Int :=
  let (significand, left) := accumulate 0 n.whole
  let fraction := n.fraction.getD []
  let (significand, left') := accumulate significand fraction
  (significand, left.length - (fraction.length - left'.length : Nat) + n.exponent.getD 0)

/-- Whether the numeral is too large for a number in double precision: the leading digits and the
power of ten, each rounded to double precision, have a product beyond it. -/
def exceedsDouble (n : Numeral) : Bool :=
  let (significand, power) := n.scaled
  significand != 0 &&
    match power with
    | .ofNat k => 308 < k || doubleLimit ≤ roundToDouble significand * roundToDouble (Nat.pow 10 k)
    | .negSucc _ => false

/-- The number, if the numeral is an unsigned 32-bit number. -/
def toUInt32? (n : Numeral) : Option UInt32 :=
  match n.negative, accumulate 0 n.whole, n.fraction, n.exponent with
  | false, (value, []), none, none =>
    if value < UInt32.size then some (UInt32.ofNat value) else none
  | _, _, _, _ => none

/-- What is wrong with a numeral that is not of the kind asked for. -/
def fault (n : Numeral) : Fault :=
  if n.exceedsDouble then .malformed else .mismatch

end Numeral

end Whereabouts.Json
