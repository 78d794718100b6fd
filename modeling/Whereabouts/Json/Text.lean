import Whereabouts.Json.Fault

/-!
# Blanks, words and strings

Readers for the smallest parts of a JSON text. Each takes the characters that are left and gives
back what it read and the characters left behind it; `length_readString` and its like say that a
reader that succeeds leaves fewer.
-/

namespace Whereabouts.Json

/-- The four characters that may stand between the parts of a text. -/
def isBlank (c : Char) : Bool :=
  c == ' ' || c == '\n' || c == '\t' || c == '\r'

def skipBlank (cs : List Char) : List Char :=
  cs.dropWhile isBlank

theorem length_skipBlank_le (cs : List Char) : (skipBlank cs).length ≤ cs.length :=
  (List.dropWhile_sublist _).length_le

/-- Read the rest of a word that has begun. -/
def readLiteral (word : List Char) (cs : List Char) : Except Fault (List Char) :=
  match word, cs with
  | [], cs => .ok cs
  | _ :: _, [] => .error .ended
  | w :: word, c :: cs => if c = w then readLiteral word cs else .error .malformed

theorem length_readLiteral_le {word cs rest : List Char} (h : readLiteral word cs = .ok rest) :
    rest.length ≤ cs.length := by
  fun_induction readLiteral word cs with
  | case1 cs => cases h; exact Nat.le_refl _
  | case2 => simp at h
  | case3 _ _ _ ih => exact Nat.le_succ_of_le (ih h)
  | case4 => simp at h

def hexDigit? (c : Char) : Option Nat :=
  if '0' ≤ c ∧ c ≤ '9' then some (c.toNat - '0'.toNat)
  else if 'a' ≤ c ∧ c ≤ 'f' then some (c.toNat - 'a'.toNat + 10)
  else if 'A' ≤ c ∧ c ≤ 'F' then some (c.toNat - 'A'.toNat + 10)
  else none

/-- Read four hexadecimal digits. The text has ended when fewer than four bytes of it are left. -/
def readHex (cs : List Char) : Except Fault (Nat × List Char) :=
  match cs with
  | a :: b :: c :: d :: rest =>
    match hexDigit? a, hexDigit? b, hexDigit? c, hexDigit? d with
    | some a, some b, some c, some d => .ok (a * 4096 + b * 256 + c * 16 + d, rest)
    | _, _, _, _ => .error .malformed
  | few => if few.foldl (fun n c => n + c.utf8Size) 0 < 4 then .error .ended else .error .malformed

theorem length_readHex {cs rest : List Char} {n : Nat} (h : readHex cs = .ok (n, rest)) :
    rest.length < cs.length := by
  unfold readHex at h
  split at h
  · split at h
    · cases h
      simp only [List.length_cons]
      omega
    · simp at h
  · split at h <;> simp at h

def isHighSurrogate (n : Nat) : Bool :=
  0xD800 ≤ n && n < 0xDC00

def isLowSurrogate (n : Nat) : Bool :=
  0xDC00 ≤ n && n < 0xE000

/-- Read the second half of a surrogate pair and put the pair together. -/
def readLow (high : Nat) (cs : List Char) : Except Fault (Char × List Char) :=
  match cs with
  | '\\' :: 'u' :: cs =>
    match readHex cs with
    | .error e => .error e
    | .ok (low, rest) =>
      if isLowSurrogate low then
        .ok (Char.ofNat (0x10000 + (high - 0xD800) * 0x400 + (low - 0xDC00)), rest)
      else .error .malformed
  | [] | ['\\'] => .error .ended
  | _ => .error .malformed

/-- Read the character of a `\u` escape. Where surrogates must be paired, a half on its own is a
fault; elsewhere it stands for no character in particular. -/
def readUnicode (paired : Bool) (cs : List Char) : Except Fault (Char × List Char) :=
  match readHex cs with
  | .error e => .error e
  | .ok (n, rest) =>
    if paired && isLowSurrogate n then .error .malformed
    else if paired && isHighSurrogate n then readLow n rest
    else .ok (Char.ofNat n, rest)

/-- What the letter of an escape of two characters stands for. -/
def escaped? (c : Char) : Option Char :=
  match c with
  | '"' => some '"'
  | '\\' => some '\\'
  | '/' => some '/'
  | 'b' => some '\x08'
  | 'f' => some '\x0c'
  | 'n' => some '\n'
  | 'r' => some '\r'
  | 't' => some '\t'
  | _ => none

/-- Read one character of a string; `none` is the closing quote. -/
def readChar (paired : Bool) (cs : List Char) : Except Fault (Option Char × List Char) :=
  match cs with
  | [] | ['\\'] => .error .ended
  | '"' :: rest => .ok (none, rest)
  | '\\' :: 'u' :: rest =>
    match readUnicode paired rest with
    | .error e => .error e
    | .ok (c, rest) => .ok (some c, rest)
  | '\\' :: c :: rest =>
    match escaped? c with
    | some c => .ok (some c, rest)
    | none => .error .malformed
  | c :: rest => if c < ' ' then .error .malformed else .ok (some c, rest)

theorem length_readLow {high : Nat} {cs rest : List Char} {c : Char}
    (h : readLow high cs = .ok (c, rest)) : rest.length < cs.length := by
  unfold readLow at h
  split at h
  · split at h
    · simp at h
    · next hr =>
      split at h
      · simp only [Except.ok.injEq, Prod.mk.injEq] at h
        obtain ⟨-, rfl⟩ := h
        have := length_readHex hr
        simp only [List.length_cons]
        omega
      · simp at h
  · simp at h
  · simp at h
  · simp at h

theorem length_readUnicode {paired : Bool} {cs rest : List Char} {c : Char}
    (h : readUnicode paired cs = .ok (c, rest)) : rest.length < cs.length := by
  unfold readUnicode at h
  split at h
  · simp at h
  · next hr =>
    have := length_readHex hr
    split at h
    · simp at h
    · split at h
      · have := length_readLow h
        omega
      · cases h
        exact this

theorem length_readChar {paired : Bool} {cs rest : List Char} {c : Option Char}
    (h : readChar paired cs = .ok (c, rest)) : rest.length < cs.length := by
  unfold readChar at h
  split at h
  · simp at h
  · simp at h
  · cases h; simp
  · split at h
    · simp at h
    · next hr =>
      cases h
      have := length_readUnicode hr
      simp only [List.length_cons]
      omega
  · split at h
    · cases h
      simp only [List.length_cons]
      omega
    · simp at h
  · split at h
    · simp at h
    · cases h; simp

/-- Read a string behind its opening quote. The characters read come behind those in `seen`, which
holds the last one first. -/
def readChars (paired : Bool) (cs : List Char) (seen : List Char) :
    Except Fault (List Char × List Char) :=
  match _h : readChar paired cs with
  | .error e => .error e
  | .ok (none, rest) => .ok (seen.reverse, rest)
  | .ok (some c, rest) => readChars paired rest (c :: seen)
termination_by cs.length
decreasing_by exact length_readChar (by assumption)

theorem length_readChars {paired : Bool} {cs seen rest s : List Char}
    (h : readChars paired cs seen = .ok (s, rest)) : rest.length < cs.length := by
  fun_induction readChars paired cs seen with
  | case1 => simp at h
  | case2 cs seen rest' hr =>
    cases h
    exact length_readChar hr
  | case3 cs seen c rest' hr ih =>
    exact Nat.lt_trans (ih h) (length_readChar hr)

/-- Read a string behind its opening quote. -/
def readString (cs : List Char) : Except Fault (String × List Char) :=
  match readChars true cs [] with
  | .error e => .error e
  | .ok (s, rest) => .ok (String.ofList s, rest)

/-- Pass over a string behind its opening quote. -/
def skipString (cs : List Char) : Except Fault (List Char) :=
  match readChars false cs [] with
  | .error e => .error e
  | .ok (_, rest) => .ok rest

theorem length_readString {cs rest : List Char} {s : String}
    (h : readString cs = .ok (s, rest)) : rest.length < cs.length := by
  unfold readString at h
  split at h
  · simp at h
  · next hr =>
    cases h
    exact length_readChars hr

theorem length_skipString {cs rest : List Char} (h : skipString cs = .ok rest) :
    rest.length < cs.length := by
  unfold skipString at h
  split at h
  · simp at h
  · next hr =>
    cases h
    exact length_readChars hr

end Whereabouts.Json
