import TabletopDice.Expression.Search
import TabletopDice.Notice

/-!
# Interpretations — from a text to a roll

`interpret` takes the first expression in a text and makes it a roll.  A count that is missing, zero
or too large becomes its default, each on its own; a text without an expression gives
`Roll.standard`.  Under the strict policy such a text is rejected instead (`interpretUnder`).

An interpretation keeps its notices: a warning for each count that was written and not used, in the
order repetitions, dice, sides, and then one notice of what was read.
-/

namespace TabletopDice

/-- A roll read from a text, with the notices of the reading. -/
@[ext] structure Interpretation where
  roll : Roll
  /-- What there is to report, in order. -/
  notices : List Notice
deriving DecidableEq

/-- What to do with a text that holds no expression. -/
inductive Policy where
  /-- Take the standard roll. -/
  | lenient
  /-- Reject the text. -/
  | strict
deriving DecidableEq

/-- Why a text is rejected. -/
inductive Rejection where
  | noExpression (text : String)
deriving DecidableEq

def Rejection.message : Rejection → String
  | .noExpression text => "No dice notation found in " ++ Text.quoted text

/-! ### Expressions -/

/-- What there is to report of the digits of a part. -/
def Roll.Part.notices (part : Part) (digits : List Char) : List Notice :=
  match Count.read digits with
  | .zero => [.zeroCount part]
  | .tooLarge => [.largeCount part digits]
  | .absent | .count _ => []

/-- The count that the digits of a part give. -/
def Roll.Part.count (part : Part) (digits : List Char) : Count :=
  (Count.read digits).getD part.fallback

namespace Expression

/-- The roll that an expression says. -/
def roll (e : Expression) : Roll where
  repeats := Roll.Part.repeats.count e.rolls
  dice := Roll.Part.dice.count e.dice
  sides := Roll.Part.sides.count e.sides
  modifier := (e.modifier?.map fun m => ⟨String.ofList m⟩).getD .zero
  excerpt := some (String.ofList e.chars)

/-- The interpretation of an expression. -/
def interpretation (e : Expression) : Interpretation where
  roll := e.roll
  notices := Roll.Part.repeats.notices e.rolls ++ Roll.Part.dice.notices e.dice
    ++ Roll.Part.sides.notices e.sides ++ [.found (String.ofList e.chars) e.roll]

end Expression

/-! ### Texts -/

/-- The interpretation of a text by its first expression, if there is one. -/
def interpret? (text : String) : Option Interpretation :=
  (Expression.find? text.toList).map fun o => o.expression.interpretation

/-- The interpretation of a text; without an expression, the standard roll. -/
def interpret (text : String) : Interpretation :=
  (interpret? text).getD ⟨.standard, [.missing text]⟩

theorem interpret_of_find? {text : String} {o : Expression.Occurrence}
    (h : Expression.find? text.toList = some o) :
    interpret text = o.expression.interpretation := by
  rw [interpret, interpret?, h, Option.map_some, Option.getD_some]

theorem interpret_of_find?_eq_none {text : String} (h : Expression.find? text.toList = none) :
    interpret text = ⟨.standard, [.missing text]⟩ := by
  rw [interpret, interpret?, h, Option.map_none, Option.getD_none]

/-- The interpretation of a text under a policy. -/
def interpretUnder (policy : Policy) (text : String) : Except Rejection Interpretation :=
  match policy with
  | .lenient => .ok (interpret text)
  | .strict =>
    match interpret? text with
    | some i => .ok i
    | none => .error (.noExpression text)

end TabletopDice
