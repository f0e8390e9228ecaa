import TabletopDice.Expression.Basic

/-!
# Expressions — finding the first one in a text

`Expression.read?` reads an expression at the start of a text, every part as long as it goes: a
repetition is not given up once its `x` is read.  `Expression.find?` tries every position from the
left and gives the first expression that is there, with what stands before and after it.
-/

namespace TabletopDice.Expression

/-- The repetition that `cs` starts with, and the rest. -/
def Repetition.read? (cs : List Char) : Option (Repetition × List Char) :=
  let digits := cs.takeWhile Char.isDigit
  let rest := cs.dropWhile Char.isDigit
  if digits.isEmpty then none
  else match rest.dropWhile Char.isWhitespace with
    | [] => none
    | cross :: tail =>
      if isCross cross then
        some (⟨digits, rest.takeWhile Char.isWhitespace, cross, tail.takeWhile Char.isWhitespace⟩,
          tail.dropWhile Char.isWhitespace)
      else none

/-- The modifier that `cs` starts with, if it starts with one, and the rest. -/
def readModifier (cs : List Char) : Option (List Char) × List Char :=
  match Modifier.scan? cs with
  | some (m, rest) => (some m, rest)
  | none => (none, cs)

/-- The dice, sides and modifier that `cs` starts with, after the repetition `r`. -/
def readDice? (r : Option Repetition) (cs : List Char) : Option (Expression × List Char) :=
  match cs.dropWhile Char.isDigit with
  | [] => none
  | die :: tail =>
    if isDie die then
      let (m, rest) := readModifier (tail.dropWhile Char.isDigit)
      some (⟨r, cs.takeWhile Char.isDigit, die, tail.takeWhile Char.isDigit, m⟩, rest)
    else none

/-- The expression that `cs` starts with, and the rest. -/
def read? (cs : List Char) : Option (Expression × List Char) :=
  match Repetition.read? cs with
  | some (r, rest) => readDice? (some r) rest
  | none => readDice? none cs

/-- An expression inside a text. -/
@[ext] structure Occurrence where
  /-- What stands before the expression. -/
  before : List Char
  expression : Expression
  /-- What stands after the expression. -/
  after : List Char
deriving DecidableEq

/-- The text that an occurrence is part of. -/
def Occurrence.text (o : Occurrence) : List Char := o.before ++ o.expression.chars ++ o.after

/-- The occurrence in a text that has one character more in front. -/
def Occurrence.cons (c : Char) (o : Occurrence) : Occurrence := { o with before := c :: o.before }

/-- The first occurrence of an expression in a text. -/
def find? : List Char → Option Occurrence
  | [] => none
  | c :: cs =>
    match read? (c :: cs) with
    | some (e, rest) => some ⟨[], e, rest⟩
    | none => (find? cs).map (.cons c)

end TabletopDice.Expression
