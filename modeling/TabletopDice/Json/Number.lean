import TabletopDice.Decimal.Shortest
import TabletopDice.Json.Reader

/-!
# Json — numbers

A number is a sign, digits, and possibly a fraction and an exponent (`Numeral`).  A numeral without
fraction and exponent that fits 64 bits is an integer; any other is a floating-point number
(`Numeral.value`), and so is a negative zero.

The floating-point number is the one that the first significant digits give, as many as fit an
unsigned 64-bit word, scaled once by a power of ten.
-/

namespace TabletopDice.Json

/-- A number as it is written. -/
structure Numeral where
  /-- Whether there is a minus sign. -/
  negative : Bool
  whole : List Char
  /-- The digits after the point, if there is one. -/
  fraction? : Option (List Char)
  /-- Whether the exponent is negative and its digits, if there is one. -/
  exponent? : Option (Bool × List Char)
deriving DecidableEq

namespace Numeral

/-! ### Reading -/

def digits (cut : Fault) : Reader (List Char) :=
  .many cut (.malformed .invalidNumber) Char.isDigit

/-- Reads the digits before the point: a zero that no digit follows, or digits that do not begin
with one. -/
def wholeDigits (cut : Fault) : Reader (List Char) :=
  .peek cut fun c =>
    if c = '0' then
      ((Reader.skipTo ['0']).optionally Char.isDigit
        (.fault (.malformed .invalidNumber) : Reader Unit)).map Prod.fst
    else digits cut

/-- Reads the digits of an exponent with their sign. -/
def signedDigits (cut : Fault) : Reader (Bool × List Char) :=
  .peek cut fun c =>
    if c = '+' ∨ c = '-' then .skipThen ((digits cut).map fun ds => (c = '-', ds))
    else (digits cut).map fun ds => (false, ds)

/-- Reads a numeral without its sign. -/
def unsigned (cut : Fault) (negative : Bool) : Reader Numeral :=
  (((wholeDigits cut).optionally (· = '.') (.skipThen (digits cut))).optionally
    (fun c => c = 'e' || c = 'E') (.skipThen (signedDigits cut))).map
      fun parts => ⟨negative, parts.1.1, parts.1.2, parts.2⟩

/-- Reads a numeral; `cut` is the fault of a text that ends inside it. -/
def reader (cut : Fault) : Reader Numeral :=
  .peek cut fun c => if c = '-' then .skipThen (unsigned cut true) else unsigned cut false

/-! ### Value -/

/-- A number that was read. -/
inductive Value where
  /-- An integer of at most 64 bits. -/
  | integer (n : Int)
  /-- Any other number. -/
  | fraction (f : Float)

/-- Appends digits to a significand while it fits 64 bits; also gives how many digits were left
over. -/
def absorb (significand : Nat) : List Char → Nat × Nat
  | [] => (significand, 0)
  | d :: ds =>
    let n := 10 * significand + (d.toNat - '0'.toNat)
    if n < UInt64.size then absorb n ds else (significand, ds.length + 1)

/-- The power of ten that an exponent denotes. -/
def exponentValue : Option (Bool × List Char) → Int
  | none => 0
  | some (negative, ds) =>
    if negative then -(Nat.ofDigitChars 10 ds 0 : Int) else Nat.ofDigitChars 10 ds 0

/-- `f` divided by the power of ten `n`, in steps that stay in the range of floating-point
numbers. -/
def scaleDown (f : Float) (n : Nat) : Float :=
  if n ≤ 308 then f / Float.ofScientific 1 false n
  else if f == 0 then f
  else scaleDown (f / 1e308) (n - 308)
termination_by n

/-- `f` times the power of ten `n`, unless that is too large. -/
def scaleUp? (f : Float) (n : Nat) : Option Float :=
  if n ≤ 308 then
    let g := f * Float.ofScientific 1 false n
    if g.isInf then none else some g
  else if f == 0 then some f
  else none

/-- The floating-point number of a significand and a power of ten, unless it is too large. -/
def scale? (significand : Nat) (exponent : Int) : Option Float :=
  let f := (UInt64.ofNat significand).toFloat
  if 0 ≤ exponent then scaleUp? f exponent.toNat else some (scaleDown f exponent.natAbs)

/-- The number that a numeral denotes, unless it is too large. -/
def value (n : Numeral) : Except Fault Value :=
  let (significand, dropped) := absorb 0 n.whole
  if dropped = 0 ∧ n.fraction? = none ∧ n.exponent? = none then
    if n.negative then
      if 0 < significand ∧ significand ≤ 0x8000000000000000 then .ok (.integer (-significand))
      else .ok (.fraction (-(UInt64.ofNat significand).toFloat))
    else .ok (.integer significand)
  else
    let fraction := n.fraction?.getD []
    let (significand, unused) := absorb significand fraction
    let exponent : Int := dropped - (fraction.length - unused : Nat) + exponentValue n.exponent?
    match scale? significand exponent with
    | some f => .ok (.fraction (if n.negative then -f else f))
    | none => .error (.malformed .numberOutOfRange)

end Numeral

def number : Reader Numeral.Value :=
  (Numeral.reader (.ended .value)).andThen fun n =>
    match n.value with
    | .ok v => .done v
    | .error e => .fail e

/-- Passes over a number.  How a number breaks the rules makes no difference here, and how large
it is neither. -/
def numberSkipped : Reader Unit :=
  (Numeral.reader (.malformed .invalidNumber)).map fun _ => ()

end TabletopDice.Json
