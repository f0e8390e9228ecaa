/-!
# Amounts — whole numbers that stop at the ends of their range

An `Amount` is a whole number from `Amount.least` to `Amount.greatest`, the range of a signed
64-bit word.  Sums and products are exact while they stay in the range and otherwise stop at
its nearer end (`Amount.clamp`); they never wrap.  The lemmas state every operation through
`toInt`, so that a proof about amounts is a proof about integers and one `clamp`.
-/

namespace TabletopDice

/-- A whole number in the signed 64-bit range. -/
@[ext] structure Amount where
  toInt : Int
  least_le : -9223372036854775808 ≤ toInt
  le_greatest : toInt ≤ 9223372036854775807
deriving DecidableEq

namespace Amount

def least : Int := -9223372036854775808

def greatest : Int := 9223372036854775807

/-- The amount nearest to `n`. -/
def clamp (n : Int) : Amount where
  toInt := max least (min n greatest)
  least_le := by simp only [least, greatest]; omega
  le_greatest := by simp only [least, greatest]; omega

/-- `n` as an amount, if it is in the range. -/
def ofInt? (n : Int) : Option Amount :=
  if h : least ≤ n ∧ n ≤ greatest then some ⟨n, h.1, h.2⟩ else none

instance (n : Nat) : OfNat Amount n := ⟨clamp n⟩
instance : Inhabited Amount := ⟨0⟩
instance : Add Amount := ⟨fun a b => clamp (a.toInt + b.toInt)⟩
instance : Mul Amount := ⟨fun a b => clamp (a.toInt * b.toInt)⟩
instance : Neg Amount := ⟨fun a => clamp (-a.toInt)⟩
instance : LE Amount := ⟨fun a b => a.toInt ≤ b.toInt⟩
instance (a b : Amount) : Decidable (a ≤ b) := inferInstanceAs (Decidable (a.toInt ≤ b.toInt))

/-! ### The integer that an amount is -/

theorem toInt_clamp (n : Int) : (clamp n).toInt = max least (min n greatest) := rfl

theorem toInt_add (a b : Amount) :
    (a + b).toInt = max least (min (a.toInt + b.toInt) greatest) := rfl

theorem toInt_mul (a b : Amount) :
    (a * b).toInt = max least (min (a.toInt * b.toInt) greatest) := rfl

theorem toInt_neg (a : Amount) : (-a).toInt = max least (min (-a.toInt) greatest) := rfl

theorem le_iff {a b : Amount} : a ≤ b ↔ a.toInt ≤ b.toInt := Iff.rfl

/-- A number of the range is its own nearest amount. -/
theorem toInt_clamp_of_mem {n : Int} (lo : least ≤ n) (hi : n ≤ greatest) :
    (clamp n).toInt = n := by
  rw [toInt_clamp]; simp only [least, greatest] at *; omega

@[simp] theorem clamp_toInt (a : Amount) : clamp a.toInt = a :=
  Amount.ext (toInt_clamp_of_mem a.least_le a.le_greatest)

@[simp] theorem toInt_zero : (0 : Amount).toInt = 0 := rfl

end Amount

end TabletopDice
