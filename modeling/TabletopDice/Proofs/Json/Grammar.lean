import Mathlib.Data.List.Forall2

/-!
# Json — its texts

The texts of JSON, told by what they are made of and not by how they are read.  Blanks may stand
between any two of the tokens, and an item of a list or an object has a comma before it unless it is
the first (`Gap`, `Spaced`).

There are two ways to look at a string.  As a text it stands for its characters (`LiteralOf`), and
an escaped half of a pair stands for none; as a part of a value that nobody looks into it only has
to be of the right form (`IsLiteral`).  `IsValue` are the texts of all values, nested to any depth.
-/

namespace TabletopDice.Json

/-! ### Blanks and commas -/

/-- Nothing but blanks. -/
def Blank (ws : List Char) : Prop := ∀ c ∈ ws, c.isWhitespace

/-- What stands before an item: blanks, and among them a comma unless the item is the first. -/
inductive Gap : (first : Bool) → List Char → Prop where
  | first {ws : List Char} : Blank ws → Gap true ws
  | next {ws ws' : List Char} : Blank ws → Blank ws' → Gap false (ws ++ ',' :: ws')

/-- The text of items, with a gap before each of them and blanks after the last. -/
inductive Spaced : (first : Bool) → List (List Char) → List Char → Prop where
  | nil {first : Bool} {ws : List Char} : Blank ws → Spaced first [] ws
  | cons {first : Bool} {gap item cs : List Char} {items : List (List Char)} :
      Gap first gap → Spaced false items cs → Spaced first (item :: items) (gap ++ (item ++ cs))

/-- A member of an object: a key between quotes, a colon and the text of a value. -/
inductive MemberOf (IsKey : List Char → Prop) (value : List Char) : List Char → Prop where
  | mk {key ws ws' : List Char} : IsKey key → Blank ws → Blank ws' →
      MemberOf IsKey value ('"' :: (key ++ '"' :: (ws ++ ':' :: (ws' ++ value))))

/-! ### Strings -/

/-- A character that stands for itself in a string. -/
structure IsPlain (c : Char) : Prop where
  not_quote : c ≠ '"'
  not_backslash : c ≠ '\\'
  not_control : ¬ c.toNat < 0x20

/-- The letters of escapes, with the characters that they stand for. -/
def escapeLetters : List (Char × Char) :=
  [('"', '"'), ('\\', '\\'), ('/', '/'), ('b', '\x08'), ('f', '\x0c'), ('n', '\n'), ('r', '\r'),
    ('t', '\t')]

/-- A hexadecimal digit, in lower or upper case. -/
def HexDigit (c : Char) (d : Nat) : Prop :=
  d < 16 ∧ (c = Nat.digitChar d ∨ c = (Nat.digitChar d).toUpper)

/-- The escape of the number `n` by four hexadecimal digits. -/
inductive CodeEscape : List Char → Nat → Prop where
  | mk {a b c d : Char} {i j k l : Nat} : HexDigit a i → HexDigit b j → HexDigit c k →
      HexDigit d l → CodeEscape ['\\', 'u', a, b, c, d] (((i * 16 + j) * 16 + k) * 16 + l)

/-- What may stand between the quotes of a string. -/
inductive IsLiteral : List Char → Prop where
  | nil : IsLiteral []
  | plain {c : Char} {cs : List Char} : IsPlain c → IsLiteral cs → IsLiteral (c :: cs)
  | letter {l c : Char} {cs : List Char} : (l, c) ∈ escapeLetters → IsLiteral cs →
      IsLiteral ('\\' :: l :: cs)
  | code {es cs : List Char} {n : Nat} : CodeEscape es n → IsLiteral cs → IsLiteral (es ++ cs)

/-- What may stand between the quotes of a string with the characters `text`.  A character beyond
U+FFFF is escaped as a pair of halves, which have ten bits each. -/
inductive LiteralOf : List Char → (text : List Char) → Prop where
  | nil : LiteralOf [] []
  | plain {c : Char} {cs text : List Char} : IsPlain c → LiteralOf cs text →
      LiteralOf (c :: cs) (c :: text)
  | letter {l c : Char} {cs text : List Char} : (l, c) ∈ escapeLetters → LiteralOf cs text →
      LiteralOf ('\\' :: l :: cs) (c :: text)
  | code {c : Char} {es cs text : List Char} : CodeEscape es c.toNat → LiteralOf cs text →
      LiteralOf (es ++ cs) (c :: text)
  | pair {c : Char} {es es' cs text : List Char} : 0x10000 ≤ c.toNat →
      CodeEscape es (0xD800 + (c.toNat - 0x10000) / 0x400) →
      CodeEscape es' (0xDC00 + (c.toNat - 0x10000) % 0x400) → LiteralOf cs text →
      LiteralOf (es ++ (es' ++ cs)) (c :: text)

/-! ### Numbers -/

/-- Digits only, and at least one. -/
structure IsDigits (ds : List Char) : Prop where
  not_nil : ds ≠ []
  digit : ∀ c ∈ ds, c.isDigit

/-- The digits before the point of a number: there is no zero in front of another digit. -/
structure IsWhole (ds : List Char) : Prop extends IsDigits ds where
  no_zero : ds = ['0'] ∨ ds.head? ≠ some '0'

/-- Nothing, or a point and digits. -/
inductive IsFraction : List Char → Prop where
  | none : IsFraction []
  | digits {ds : List Char} : IsDigits ds → IsFraction ('.' :: ds)

/-- Nothing, or an exponent. -/
inductive IsExponent : List Char → Prop where
  | none : IsExponent []
  | digits {e : Char} {sign ds : List Char} : e ∈ ['e', 'E'] → sign ∈ [[], ['+'], ['-']] →
      IsDigits ds → IsExponent (e :: (sign ++ ds))

/-- A number of any size. -/
inductive IsNumber : List Char → Prop where
  | mk {sign whole fraction exponent : List Char} : sign ∈ [[], ['-']] → IsWhole whole →
      IsFraction fraction → IsExponent exponent →
      IsNumber (sign ++ (whole ++ (fraction ++ exponent)))

/-! ### Values -/

/-- The text of a value. -/
inductive IsValue : List Char → Prop where
  | word {word : String} : word ∈ ["null", "true", "false"] → IsValue word.toList
  | number {cs : List Char} : IsNumber cs → IsValue cs
  | string {cs : List Char} : IsLiteral cs → IsValue ('"' :: (cs ++ ['"']))
  | list {items : List (List Char)} {body : List Char} : (∀ item ∈ items, IsValue item) →
      Spaced true items body → IsValue ('[' :: (body ++ [']']))
  | object {values members : List (List Char)} {body : List Char} :
      (∀ value ∈ values, IsValue value) → List.Forall₂ (MemberOf IsLiteral) values members →
      Spaced true members body → IsValue ('\x7b' :: (body ++ ['\x7d']))

end TabletopDice.Json
