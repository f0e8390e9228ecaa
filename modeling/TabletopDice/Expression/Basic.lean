import TabletopDice.Modifier

/-!
# Expressions — the grammar of dice expressions

A dice expression is a word such as `2 x 3d6+1`: optionally a number of repetitions, an `x` and
blanks around it; then the number of dice, a `d` and the number of sides, where each number may
be missing; then optionally a modifier.  `Expression` is a derivation of such a word: its parts, in
order, as they are written.  `Expression.chars` is the word, and `Expression.WellFormed` says that
every part is written from its own characters.  So the words of the grammar are the texts
`e.chars` for well-formed `e`.
-/

namespace TabletopDice

namespace Expression

/-- The part of an expression that repeats the roll: digits, blanks, an `x`, blanks. -/
@[ext] structure Repetition where
  digits : List Char
  /-- The blanks before the `x`. -/
  before : List Char
  cross : Char
  /-- The blanks after the `x`. -/
  after : List Char
deriving DecidableEq

/-- The letters that stand between repetitions and dice. -/
def isCross (c : Char) : Bool := c = 'x' || c = 'X'

/-- The letters that stand between dice and sides. -/
def isDie (c : Char) : Bool := c = 'd' || c = 'D'

/-- A repetition as it is written. -/
def Repetition.chars (r : Repetition) : List Char :=
  r.digits ++ r.before ++ r.cross :: r.after

/-- Every part of a repetition is written from its own characters. -/
structure Repetition.WellFormed (r : Repetition) : Prop where
  digits_ne_nil : r.digits ≠ []
  isDigit : ∀ c ∈ r.digits, c.isDigit
  before_isBlank : ∀ c ∈ r.before, c.isWhitespace
  isCross : isCross r.cross
  after_isBlank : ∀ c ∈ r.after, c.isWhitespace

end Expression

/-- A dice expression by its parts, in the order in which they are written. -/
@[ext] structure Expression where
  /-- How often the roll is repeated. -/
  repetition? : Option Expression.Repetition
  dice : List Char
  die : Char
  sides : List Char
  /-- What is added to each roll. -/
  modifier? : Option (List Char)
deriving DecidableEq

/-- The words of modifiers: an operator before a number, or a sign before a marker letter. -/
inductive Modifier.Written : List Char → Prop where
  | number {operator : Char} {digits : List Char} (h : isOperator operator) (ne : digits ≠ [])
      (hd : ∀ c ∈ digits, c.isDigit) : Written (operator :: digits)
  | marker {sign letter : Char} (hs : isSign sign) (hl : isMarkerLetter letter) :
      Written [sign, letter]

namespace Expression

/-- The digits of the repetition; none without one. -/
def rolls (e : Expression) : List Char := (e.repetition?.map Repetition.digits).getD []

/-- An expression as it is written. -/
def chars (e : Expression) : List Char :=
  (e.repetition?.map Repetition.chars).getD [] ++ e.dice ++ e.die :: e.sides
    ++ e.modifier?.getD []

/-- Every part of an expression is written from its own characters. -/
structure WellFormed (e : Expression) : Prop where
  repetition : ∀ r ∈ e.repetition?, r.WellFormed
  dice_isDigit : ∀ c ∈ e.dice, c.isDigit
  isDie : isDie e.die
  sides_isDigit : ∀ c ∈ e.sides, c.isDigit
  modifier : ∀ m ∈ e.modifier?, Modifier.Written m

end Expression

end TabletopDice
