import TabletopDice.Amount

/-!
# Counts — positive 32-bit numbers, and what a run of digits says about one

A `Count` is a positive number below `2 ^ 32`: how often a roll is repeated, how many dice it
takes, how many sides they have.  `Count.read` reads a run of digits of any length.  It keeps
apart the three ways in which digits fail to be a count (none at all, zero, too large), because
each of them is noted differently where a default takes the count's place.
-/

namespace TabletopDice

/-- A positive number below `2 ^ 32`. -/
@[ext] structure Count where
  /-- The number as a 32-bit word. -/
  word : UInt32
  ne_zero : word ≠ 0
deriving DecidableEq

namespace Count

def toNat (c : Count) : Nat := c.word.toNat

def amount (c : Count) : Amount := .clamp c.toNat

theorem toNat_pos (c : Count) : 0 < c.toNat :=
  Nat.pos_of_ne_zero fun h => c.ne_zero (UInt32.toNat_inj.mp h)

theorem toNat_lt (c : Count) : c.toNat < 4294967296 := c.word.toNat_lt

theorem toNat_inj {a b : Count} : a.toNat = b.toNat ↔ a = b := by
  rw [toNat, toNat, UInt32.toNat_inj, Count.ext_iff]

/-- The count that the number `n` is. -/
def ofNat (n : Nat) (pos : 0 < n) (lt : n < 4294967296) : Count where
  word := UInt32.ofNat n
  ne_zero h := by
    have := congrArg UInt32.toNat h
    rw [UInt32.toNat_ofNat_of_lt' lt] at this
    exact absurd this (Nat.ne_of_gt pos)

@[simp] theorem toNat_ofNat {n : Nat} (pos : 0 < n) (lt : n < 4294967296) :
    (ofNat n pos lt).toNat = n :=
  UInt32.toNat_ofNat_of_lt' lt

/-- The word `w` as a count; `fallback` where `w` is zero. -/
def ofWord (w : UInt32) (fallback : Count) : Count :=
  if h : w ≠ 0 then ⟨w, h⟩ else fallback

/-- Every count is in the range of amounts. -/
@[simp] theorem toInt_amount (c : Count) : c.amount.toInt = c.toNat := by
  have := c.toNat_lt
  exact Amount.toInt_clamp_of_mem (by simp only [Amount.least]; omega)
    (by simp only [Amount.greatest]; omega)

/-! ### Reading digits -/

/-- What a run of digits says about a count. -/
inductive Reading where
  /-- There are no digits. -/
  | absent
  | zero
  /-- The digits denote `2 ^ 32` or more. -/
  | tooLarge
  | count (c : Count)
deriving DecidableEq

/-- Reads a run of decimal digits. -/
def read (digits : List Char) : Reading :=
  if digits = [] then .absent
  else if pos : 0 < Nat.ofDigitChars 10 digits 0 then
    if lt : Nat.ofDigitChars 10 digits 0 < 4294967296 then .count (ofNat _ pos lt) else .tooLarge
  else .zero

/-- The count that was read, or `fallback`. -/
def Reading.getD (fallback : Count) : Reading → Count
  | .count c => c
  | _ => fallback

end Count

end TabletopDice
