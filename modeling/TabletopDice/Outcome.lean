import TabletopDice.Roll

/-!
# Outcomes — what was rolled

An `Outcome` records one performance of a roll: the total, the groups with every face in the order
drawn, the excerpt that the roll was read from, and the ranges of the roll.

`Outcome.chars` prints an outcome on one line, such as
`Rolled 2x2d6+1: [3, 4 +1] [6, 1 +1] = 16 (bounds 6..=26)`.
-/

namespace TabletopDice

/-- The sum of faces, without an end. -/
def faceSum (faces : List UInt32) : Nat := faces.foldr (fun face sum => face.toNat + sum) 0

/-- The dice of one group, and the modifier added to it. -/
@[ext] structure Group where
  /-- The faces, in the order drawn. -/
  faces : List UInt32
  modifier : Modifier
deriving DecidableEq

/-- The sum of the faces of a group, without its modifier.  It has no end, where a sum in a signed
64-bit word overflows at `2 ^ 63`: a group of more than `2 ^ 31` dice can get there. -/
def Group.sum (g : Group) : Nat := faceSum g.faces

/-- The record of a performed roll. -/
@[ext] structure Outcome where
  /-- The sum of all faces and modifiers. -/
  total : Amount
  /-- The part of a text that the roll was read from. -/
  excerpt : Option String
  /-- The groups, in the order rolled. -/
  groups : List Group
  totalRange : TotalRange
  faceRange : FaceRange
deriving DecidableEq

/-! ### Printing -/

/-- A group in brackets: its faces, and its modifier unless that adds nothing. -/
def Group.chars (g : Group) : List Char :=
  '[' :: [',', ' '].intercalate (g.faces.map fun f => Text.natural f.toNat)
    ++ (if g.modifier = .zero then [] else ' ' :: g.modifier.text.toList) ++ [']']

/-- A range with both ends included. -/
def TotalRange.chars (range : TotalRange) : List Char :=
  Text.integer range.lower.toInt ++ "..=".toList ++ Text.integer range.upper.toInt

/-- An outcome on one line. -/
def Outcome.chars (o : Outcome) : List Char :=
  "Rolled ".toList ++ (o.excerpt.getD "(default)").toList ++ ':'
    :: o.groups.flatMap (fun g => ' ' :: g.chars)
    ++ " = ".toList ++ Text.integer o.total.toInt
    ++ " (bounds ".toList ++ o.totalRange.chars ++ [')']

def Outcome.written (o : Outcome) : String := String.ofList o.chars

end TabletopDice
