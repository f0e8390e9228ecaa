/-!
# Text — decimal numerals

Numbers are written in base ten without padding, a negative number after a minus sign.
-/

namespace TabletopDice.Text

/-- The numeral of a natural number. -/
def natural (n : Nat) : List Char := Nat.toDigits 10 n

/-- The numeral of an integer. -/
def integer : Int → List Char
  | .ofNat n => natural n
  | .negSucc n => '-' :: natural (n + 1)

/-- Whether `cs` is a numeral: digits only, and at least one. -/
def isNumeral (cs : List Char) : Bool := !cs.isEmpty && cs.all Char.isDigit

/-- A numeral denotes the number that it was written from. -/
theorem ofDigitChars_natural (n : Nat) : Nat.ofDigitChars 10 (natural n) 0 = n :=
  Nat.ofDigitChars_toDigits (by decide) (by decide)

theorem isDigit_of_mem_natural {n : Nat} {c : Char} (h : c ∈ natural n) : c.isDigit :=
  Nat.isDigit_of_mem_toDigits (by decide) (by decide) h

end TabletopDice.Text
