import TabletopDice.Count
import TabletopDice.Modifier

/-!
# Rolls — what is to be rolled, and the range of its total

A `Roll` says how often a group of dice is rolled, how many dice a group has, how many sides each
die has, and what modifier is added once to each group.  The three numbers are `Count`s; where a
number is missing or unusable its part of a roll has a default, `1x1d20` altogether
(`Roll.Part.fallback`).

`Roll.totalRange` is the range of the totals: the repetitions times one group's lowest and highest
sum, in the saturating arithmetic of `Amount`.
-/

namespace TabletopDice

/-- What is rolled: `repeats` groups of `dice` dice with `sides` sides, each group with the
modifier added once. -/
@[ext] structure Roll where
  repeats : Count
  dice : Count
  sides : Count
  modifier : Modifier
  /-- The part of a text that the roll was read from, if it was read from one. -/
  excerpt : Option String
deriving DecidableEq

/-- The totals that a roll can have, both ends included. -/
@[ext] structure TotalRange where
  lower : Amount
  upper : Amount
deriving DecidableEq

/-- The faces that a die can show, both ends included. -/
@[ext] structure FaceRange where
  lower : UInt32
  upper : UInt32
deriving DecidableEq

/-- Whether a total lies in a range. -/
def TotalRange.contains (range : TotalRange) (total : Amount) : Bool :=
  range.lower ≤ total && total ≤ range.upper

namespace Roll

/-- The parts of a roll that are counts. -/
inductive Part where
  | repeats
  | dice
  | sides
deriving DecidableEq

/-- How a part is called in notices. -/
def Part.label : Part → String
  | .repeats => "roll count"
  | .dice => "dice count"
  | .sides => "sides"

/-- What a part is when it is not given: one repetition, one die, twenty sides. -/
def Part.fallback : Part → Count
  | .repeats | .dice => ⟨1, by decide⟩
  | .sides => ⟨20, by decide⟩

/-- One twenty-sided die, and nothing added. -/
def standard : Roll where
  repeats := Part.repeats.fallback
  dice := Part.dice.fallback
  sides := Part.sides.fallback
  modifier := .zero
  excerpt := none

/-- The roll with these numbers and this modifier; a zero and an empty modifier stand for the
defaults. -/
def ofWords (repeats dice sides : UInt32) (modifier : String) : Roll where
  repeats := .ofWord repeats Part.repeats.fallback
  dice := .ofWord dice Part.dice.fallback
  sides := .ofWord sides Part.sides.fallback
  modifier := if modifier = "" then .zero else ⟨modifier⟩
  excerpt := none

/-- The expression that says the roll in full, such as `1x2d6+0`. -/
def chars (r : Roll) : List Char :=
  Text.natural r.repeats.toNat ++ 'x' :: Text.natural r.dice.toNat
    ++ 'd' :: Text.natural r.sides.toNat ++ r.modifier.text.toList

/-- The expression that says the roll in full, as a text. -/
def written (r : Roll) : String := String.ofList r.chars

/-! ### Ranges -/

def totalRange (r : Roll) : TotalRange where
  lower := r.repeats.amount * (r.dice.amount + r.modifier.value)
  upper := r.repeats.amount * (r.dice.amount * r.sides.amount + r.modifier.value)

def faceRange (r : Roll) : FaceRange := ⟨1, r.sides.word⟩

end Roll

end TabletopDice
