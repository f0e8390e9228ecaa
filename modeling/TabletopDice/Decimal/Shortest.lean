/-!
# Decimals — the shortest digits of a binary fraction

A binary floating-point number stands for an interval of reals, those that round to it.  Its
shortest decimal is a point of the coarsest grid of multiples of a power of ten that has a point
in the interval: of two such points the nearer one, of two equally near ones the even one.

`Decimal.chars` writes a decimal: positionally if its leading digit stands for `10 ^ -5` to
`10 ^ 15`, and otherwise with an exponent.  A number in positional form always has a decimal point.
-/

namespace TabletopDice

/-- The number `mantissa * 2 ^ exponent`, with its neighbours. -/
structure Binary where
  mantissa : Nat
  exponent : Int
  /-- Whether the next smaller number is only half as far away as the next larger one. -/
  closeBelow : Bool
deriving DecidableEq

/-- The number `digits * 10 ^ place`. -/
structure Decimal where
  digits : Nat
  place : Int
deriving DecidableEq

namespace Binary

/-- The magnitude of a finite 64-bit floating-point number. -/
def ofFloat (f : Float) : Binary :=
  let bits : Nat := f.toBits.toNat % 0x8000000000000000
  let fraction := bits % 0x10000000000000
  let scale : Nat := bits / 0x10000000000000
  if scale = 0 then ⟨fraction, -1074, false⟩
  else ⟨0x10000000000000 + fraction, (scale : Int) - 1075, fraction = 0 && 1 < scale⟩

/-- A ratio `p / q` such that `x` quarters of the unit `2 ^ exponent` are `x * p / q` steps of the
grid `10 ^ place`. -/
def gridRatio (b : Binary) (place : Int) : Nat × Nat :=
  (Nat.pow 2 (b.exponent - 2).toNat * Nat.pow 10 (-place).toNat,
    Nat.pow 2 (2 - b.exponent).toNat * Nat.pow 10 place.toNat)

/-- Whether the grid point `d * 10 ^ place` rounds to `b`: it lies between the midpoints to the
neighbours, or on one of them if the mantissa is even. -/
def isRepresentedBy (b : Binary) (place : Int) (d : Nat) : Bool :=
  let (p, q) := b.gridRatio place
  let low := (4 * b.mantissa - if b.closeBelow then 1 else 2) * p
  let high := (4 * b.mantissa + 2) * p
  if b.mantissa % 2 = 0 then low ≤ d * q && d * q ≤ high else low < d * q && d * q < high

/-- The grid point below `b` or at it. -/
def gridFloor (b : Binary) (place : Int) : Nat :=
  let (p, q) := b.gridRatio place
  4 * b.mantissa * p / q

/-- Whether the point after `gridFloor` is the better of the two: nearer, or as near and even. -/
def prefersUpper (b : Binary) (place : Int) : Bool :=
  let (p, q) := b.gridRatio place
  let rest := 4 * b.mantissa * p % q
  q < 2 * rest || (2 * rest = q && b.gridFloor place % 2 = 1)

/-- The best point of a grid that rounds to `b`, if the grid has one. -/
def gridPoint? (b : Binary) (place : Int) : Option Nat :=
  let d := b.gridFloor place
  match b.isRepresentedBy place d, b.isRepresentedBy place (d + 1) with
  | true, true => some (if b.prefersUpper place then d + 1 else d)
  | true, false => some d
  | false, true => some (d + 1)
  | false, false => none

/-- The point of the coarsest grid that has one, from `place` down over `steps` finer grids. -/
def coarsest (b : Binary) : (steps : Nat) → (place : Int) → Decimal
  | 0, place => ⟨b.gridFloor place, place⟩
  | steps + 1, place =>
    match b.gridPoint? place with
    | some d => ⟨d, place⟩
    | none => b.coarsest steps (place - 1)

/-- The shortest decimal that rounds to `b`.  The grids run from above the greatest 64-bit number
down to below the least one. -/
def shortest (b : Binary) : Decimal := b.coarsest 640 309

end Binary

namespace Decimal

/-- A decimal as it is written. -/
def chars (d : Decimal) : List Char :=
  let digits := Nat.toDigits 10 d.digits
  let lead := d.place + digits.length - 1
  if lead < -5 ∨ 15 < lead then
    let fraction := digits.drop 1
    let sign := if lead < 0 then '-' else '+'
    digits.take 1 ++ (if fraction.isEmpty then [] else '.' :: fraction)
      ++ 'e' :: sign :: Nat.toDigits 10 lead.natAbs
  else if 0 ≤ d.place then digits ++ List.replicate d.place.toNat '0' ++ ['.', '0']
  else if 0 ≤ lead then
    digits.take (lead + 1).toNat ++ '.' :: digits.drop (lead + 1).toNat
  else '0' :: '.' :: List.replicate (-lead - 1).toNat '0' ++ digits

end Decimal

/-- A finite floating-point number in its shortest decimal form, with the sign of a negative zero.
-/
def Decimal.ofFloat (f : Float) : List Char :=
  let magnitude :=
    if (Binary.ofFloat f).mantissa = 0 then ['0', '.', '0']
    else (Binary.ofFloat f).shortest.chars
  if f.toBits.toNat < 0x8000000000000000 then magnitude else '-' :: magnitude

end TabletopDice
