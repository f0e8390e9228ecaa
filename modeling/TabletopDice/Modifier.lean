import TabletopDice.Amount
import TabletopDice.Text.Numeral

/-!
# Modifiers — what is added to each roll

A modifier is a short text after the dice: an operator and a number (`+2`, `-1`, `*3`, `/2`), or a
sign and a marker letter (`+L`, `-h`).  `Modifier.kind` tells these apart and `Modifier.value` is
the amount that the modifier adds to a roll.  Only the sign takes part in the arithmetic: `*3` and
`/3` add three as `+3` does, and a marker adds nothing.

`Modifier.scan?` reads a modifier at the start of a text.  A scanned modifier always has a
recognized kind; a modifier that comes from elsewhere may hold any text.
-/

namespace TabletopDice

/-- A modifier, as it is written. -/
@[ext] structure Modifier where
  text : String
deriving DecidableEq

namespace Modifier

/-- The modifier that adds nothing. -/
def zero : Modifier := ⟨"+0"⟩

theorem toList_zero : zero.text.toList = ['+', '0'] := by decide

/-- The forms of a modifier. -/
inductive Kind where
  | add
  | subtract
  | multiply
  | divide
  | lowMarker
  | highMarker
  | unrecognized
deriving DecidableEq

/-- Whether a kind is carried along without a number. -/
def Kind.isMarker : Kind → Bool
  | .lowMarker | .highMarker => true
  | _ => false

/-- The kind of an operator before a number. -/
def Kind.ofOperator (operator : Char) : Kind :=
  if operator = '+' then .add
  else if operator = '-' then .subtract
  else if operator = '*' then .multiply
  else if operator = '/' then .divide
  else .unrecognized

/-- The kind of a sign before a letter. -/
def Kind.ofMarker (sign letter : Char) : Kind :=
  if sign = '+' ∨ sign = '-' then
    if letter = 'L' ∨ letter = 'l' then .lowMarker
    else if letter = 'H' ∨ letter = 'h' then .highMarker
    else .unrecognized
  else .unrecognized

def kind (m : Modifier) : Kind :=
  match m.text.toList with
  | [] => .unrecognized
  | first :: rest =>
    if Text.isNumeral rest then .ofOperator first
    else match rest with
      | [letter] => .ofMarker first letter
      | _ => .unrecognized

/-! ### The amount that a modifier adds -/

/-- The number after the first character, where there is one. -/
def magnitude? (m : Modifier) : Option Nat :=
  match m.text.toList with
  | [] => none
  | _ :: rest => if Text.isNumeral rest then some (Nat.ofDigitChars 10 rest 0) else none

/-- Whether the number after the first character lies outside the range of amounts. -/
def outOfRange (m : Modifier) : Bool :=
  m.magnitude?.any fun n => Amount.greatest < n

/-- Whether the number counts downwards. -/
def isNegated (m : Modifier) : Bool := m.text.toList.head? = some '-'

/-- The amount that the modifier adds to each roll: its number, negated after a minus sign, and
zero where there is no number or it is out of range. -/
def value (m : Modifier) : Amount :=
  if m.outOfRange then 0
  else if m.isNegated then -Amount.clamp (m.magnitude?.getD 0)
  else Amount.clamp (m.magnitude?.getD 0)

/-! ### Reading a modifier -/

/-- The operators that take a number. -/
def isOperator (c : Char) : Bool := c = '+' || c = '-' || c = '*' || c = '/'

/-- The signs that take a letter. -/
def isSign (c : Char) : Bool := c = '+' || c = '-'

def isMarkerLetter (c : Char) : Bool := c = 'l' || c = 'L' || c = 'h' || c = 'H'

/-- The modifier that `cs` starts with, with as many digits as there are, and the rest. -/
def scan? : List Char → Option (List Char × List Char)
  | [] => none
  | first :: rest =>
    let digits := rest.takeWhile Char.isDigit
    if isOperator first && !digits.isEmpty then
      some (first :: digits, rest.dropWhile Char.isDigit)
    else match rest with
      | letter :: rest =>
        if isSign first && isMarkerLetter letter then some ([first, letter], rest) else none
      | [] => none

end Modifier

end TabletopDice
