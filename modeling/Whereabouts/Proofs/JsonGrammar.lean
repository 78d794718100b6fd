import Whereabouts.Json.Numeral

/-!
# The grammar of JSON

Which texts are JSON, stated as relations that do not know of any reader: blanks, strings, numerals
and, in one inductive definition over the kinds of phrases, values of any depth. Where the meaning
of a text matters it is part of the relation: `StringText` says which string a text writes, and
`NumberText` which number. `ObjectText` gives the members of an object, each with its name and with
the text of its value.
-/

namespace Whereabouts.Json

def Blanks (cs : List Char) : Prop :=
  ∀ c ∈ cs, c = ' ' ∨ c = '\n' ∨ c = '\t' ∨ c = '\r'

def lowerHex : List Char :=
  ['0', '1', '2', '3', '4', '5', '6', '7', '8', '9', 'a', 'b', 'c', 'd', 'e', 'f']

def upperHex : List Char :=
  ['0', '1', '2', '3', '4', '5', '6', '7', '8', '9', 'A', 'B', 'C', 'D', 'E', 'F']

/-- The character is the digit of base 16 for this number. -/
def HexDigit (n : Nat) (c : Char) : Prop :=
  lowerHex[n]? = some c ∨ upperHex[n]? = some c

/-- Four digits of base 16, and the number that they write. -/
inductive HexText : Nat → List Char → Prop where
  | digits {i j k l : Nat} {a b c d : Char} (ha : HexDigit i a) (hb : HexDigit j b)
      (hc : HexDigit k c) (hd : HexDigit l d) :
      HexText (((i * 16 + j) * 16 + k) * 16 + l) [a, b, c, d]

/-- The letters of the escapes of two characters, and what they stand for. -/
def shortEscapes : List (Char × Char) :=
  [('"', '"'), ('\\', '\\'), ('/', '/'), ('b', '\x08'), ('f', '\x0c'), ('n', '\n'), ('r', '\r'),
    ('t', '\t')]

/-- The character may stand for itself in a string. -/
def Plain (c : Char) : Prop :=
  ' ' ≤ c ∧ c ≠ '"' ∧ c ≠ '\\'

/-- What may stand between the quotes of a string, also when it writes no string because a half of a
surrogate pair is on its own. -/
inductive QuotedText : List Char → Prop where
  | nil : QuotedText []
  | plain {c : Char} {rest : List Char} (h : Plain c) (hrest : QuotedText rest) :
      QuotedText (c :: rest)
  | short {letter c : Char} {rest : List Char} (h : (letter, c) ∈ shortEscapes)
      (hrest : QuotedText rest) : QuotedText ('\\' :: letter :: rest)
  | number {n : Nat} {cs rest : List Char} (h : HexText n cs) (hrest : QuotedText rest) :
      QuotedText ('\\' :: 'u' :: (cs ++ rest))

def Digit (c : Char) : Prop :=
  '0' ≤ c ∧ c ≤ '9'

/-- The digits before the point: a single zero, or digits that do not begin with one. -/
inductive WholeText : List Char → Prop where
  | zero : WholeText ['0']
  | digits {c : Char} {cs : List Char} (hc : '1' ≤ c ∧ c ≤ '9') (hcs : ∀ d ∈ cs, Digit d) :
      WholeText (c :: cs)

inductive FractionText : List Char → Prop where
  | none : FractionText []
  | digits {cs : List Char} (hne : cs ≠ []) (hcs : ∀ d ∈ cs, Digit d) : FractionText ('.' :: cs)

inductive ExponentText : List Char → Prop where
  | none : ExponentText []
  | digits {e : Char} {sign cs : List Char} (he : e = 'e' ∨ e = 'E')
      (hsign : sign = [] ∨ sign = ['+'] ∨ sign = ['-']) (hne : cs ≠ []) (hcs : ∀ d ∈ cs, Digit d) :
      ExponentText (e :: (sign ++ cs))

inductive NumeralText : List Char → Prop where
  | parts {sign whole fraction exponent : List Char} (hsign : sign = [] ∨ sign = ['-'])
      (hwhole : WholeText whole) (hfraction : FractionText fraction)
      (hexponent : ExponentText exponent) :
      NumeralText (sign ++ (whole ++ (fraction ++ exponent)))

/-- The number that a row of decimal digits writes. -/
def decimal (cs : List Char) : Nat :=
  cs.foldl (fun n c => 10 * n + (c.toNat - '0'.toNat)) 0

/-- The text writes this unsigned 32-bit number: digits, and nothing but digits. -/
def NumberText (n : UInt32) (cs : List Char) : Prop :=
  WholeText cs ∧ decimal cs = n.toNat

/-- The kinds of phrases whose depth has no bound. Elements and members are what stands between the
brackets of an array and of an object that is not empty. -/
inductive Phrase where
  | value
  | elements
  | members

/-- The texts of the phrases of each kind. -/
inductive PhraseText : Phrase → List Char → Prop where
  | null : PhraseText .value ['n', 'u', 'l', 'l']
  | true : PhraseText .value ['t', 'r', 'u', 'e']
  | false : PhraseText .value ['f', 'a', 'l', 's', 'e']
  | numeral {cs : List Char} (h : NumeralText cs) : PhraseText .value cs
  | string {cs : List Char} (h : QuotedText cs) : PhraseText .value ('"' :: (cs ++ ['"']))
  | emptyArray {b : List Char} (hb : Blanks b) : PhraseText .value ('[' :: (b ++ [']']))
  | array {cs : List Char} (h : PhraseText .elements cs) : PhraseText .value ('[' :: (cs ++ [']']))
  | emptyObject {b : List Char} (hb : Blanks b) : PhraseText .value ('{' :: (b ++ ['}']))
  | object {cs : List Char} (h : PhraseText .members cs) :
      PhraseText .value ('{' :: (cs ++ ['}']))
  | lastElement {b v b' : List Char} (hb : Blanks b) (hv : PhraseText .value v) (hb' : Blanks b') :
      PhraseText .elements (b ++ (v ++ b'))
  | element {b v b' rest : List Char} (hb : Blanks b) (hv : PhraseText .value v) (hb' : Blanks b')
      (hrest : PhraseText .elements rest) : PhraseText .elements (b ++ (v ++ (b' ++ ',' :: rest)))
  | lastMember {b k b₁ b₂ v b' : List Char} (hb : Blanks b) (hk : QuotedText k) (hb₁ : Blanks b₁)
      (hb₂ : Blanks b₂) (hv : PhraseText .value v) (hb' : Blanks b') :
      PhraseText .members (b ++ '"' :: (k ++ '"' :: (b₁ ++ ':' :: (b₂ ++ (v ++ b')))))
  | member {b k b₁ b₂ v b' rest : List Char} (hb : Blanks b) (hk : QuotedText k) (hb₁ : Blanks b₁)
      (hb₂ : Blanks b₂) (hv : PhraseText .value v) (hb' : Blanks b')
      (hrest : PhraseText .members rest) :
      PhraseText .members
        (b ++ '"' :: (k ++ '"' :: (b₁ ++ ':' :: (b₂ ++ (v ++ (b' ++ ',' :: rest))))))

theorem PhraseText.whole {cs : List Char} (h : WholeText cs) : PhraseText .value cs := by
  have hnumeral := NumeralText.parts (.inl rfl) h .none .none
  rw [List.nil_append, List.append_nil, List.append_nil] at hnumeral
  exact .numeral hnumeral

/-- A member of an object: the name that its key writes, and the text of its value. -/
abbrev Member :=
  String × List Char

/-- The texts of the values that the members of this name have, in their order. -/
def valuesOf (name : String) (ms : List Member) : List (List Char) :=
  (ms.filter fun m => m.1 = name).map Prod.snd

end Whereabouts.Json
