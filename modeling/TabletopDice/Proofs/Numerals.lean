import Mathlib.Algebra.Ring.Nat
import TabletopDice.Text.Numeral

/-!
# Text — the number that digits write

A digit counts ones, tens, hundreds and so on, by the place at which it stands (`Text.value`).  The
readers of the library add digits up from the left instead, and come to the same number
(`ofDigitChars_eq_value`).  Zeros in front do not change it, however many there are
(`value_zeros_append`), and only zeros write zero (`value_eq_zero_iff`).
-/

namespace TabletopDice.Text

/-- The number that digits write: each digit times the value of its place. -/
def value : List Char → Nat
  | [] => 0
  | digit :: digits => (digit.toNat - '0'.toNat) * 10 ^ digits.length + value digits

theorem value_cons (digit : Char) (digits : List Char) : value (digit :: digits) =
    (digit.toNat - '0'.toNat) * 10 ^ digits.length + value digits := rfl

/-- Digits that are added up from the left give the number that they write. -/
theorem ofDigitChars_eq_value (digits : List Char) :
    Nat.ofDigitChars 10 digits 0 = value digits := by
  induction digits with
  | nil => rfl
  | cons digit digits ih =>
      rw [Nat.ofDigitChars_cons, Nat.ofDigitChars_eq_ofDigitChars_zero, ih, value_cons,
        Nat.mul_zero, Nat.zero_add, Nat.mul_comm]

/-- Zeros in front do not change a number. -/
theorem value_zeros_append (k : Nat) (digits : List Char) :
    value (List.replicate k '0' ++ digits) = value digits := by
  induction k with
  | zero => rfl
  | succ k ih =>
      rw [List.replicate_succ, List.cons_append, value_cons, ih, Nat.sub_self, Nat.zero_mul,
        Nat.zero_add]

theorem digit_eq_zero_iff {c : Char} (h : c.isDigit) : c.toNat - '0'.toNat = 0 ↔ c = '0' := by
  obtain ⟨lo, -⟩ := Char.isDigit_iff_toNat.mp h
  rw [← Char.toNat_inj]
  omega

/-- Only zeros write zero. -/
theorem value_eq_zero_iff {digits : List Char} (hd : ∀ c ∈ digits, c.isDigit) :
    value digits = 0 ↔ ∀ c ∈ digits, c = '0' := by
  induction digits with
  | nil => exact ⟨fun _ c hc => (nomatch hc), fun _ => rfl⟩
  | cons digit digits ih =>
      rw [value_cons, Nat.add_eq_zero_iff, Nat.mul_eq_zero,
        digit_eq_zero_iff (hd digit List.mem_cons_self),
        ih fun c hc => hd c (List.mem_cons_of_mem digit hc), List.forall_mem_cons,
        or_iff_left (Nat.ne_of_gt (Nat.pow_pos (by decide)))]

end TabletopDice.Text
