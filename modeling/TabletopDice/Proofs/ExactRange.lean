import TabletopDice.Proofs.TotalRange

/-!
# Total ranges — the exact ends

Without an end to the amounts, the totals of a roll lie between `repeats * (dice + modifier)` and
`repeats * (dice * sides + modifier)` (`Roll.exactLower`, `Roll.exactUpper`).  The range of a roll
is reckoned in amounts, so each of its sums and products may stop on the way.

At the low end this makes no difference.  The dice alone stay in the range of amounts, the modifier
is added once, and a multiple of a sum that has stopped stops where the exact multiple does.  At the
high end a product comes before the modifier: it stops if dice and sides are many, and a negative
modifier is then taken from where it stopped.

* `totalRange_exact_iff`: the low end is the amount nearest to the exact one; the high end is,
  unless the roll *falls short* (`Roll.FallsShort`).
* `upper_cutRoll`: some roll falls short, although its exact high end is an amount.
-/

namespace TabletopDice

namespace Roll

/-- The lowest total, reckoned without an end. -/
def exactLower (r : Roll) : Int := r.repeats.toNat * (r.dice.toNat * 1 + r.modifier.value.toInt)

/-- The highest total, reckoned without an end. -/
def exactUpper (r : Roll) : Int :=
  r.repeats.toNat * (r.dice.toNat * r.sides.toNat + r.modifier.value.toInt)

/-- The modifier is negative, the highest faces of a group add up to more than an amount, and what
the modifier leaves of the greatest amount, as often as the roll is repeated, stays below it. -/
def FallsShort (r : Roll) : Prop :=
  r.modifier.value.toInt < 0 ∧ Amount.greatest < r.dice.toNat * r.sides.toNat ∧
    r.repeats.toNat * (Amount.greatest + r.modifier.value.toInt) < Amount.greatest

instance (r : Roll) : Decidable r.FallsShort := inferInstanceAs (Decidable (_ ∧ _))

/-- The high end, with the place where the product of dice and sides stops. -/
theorem upper_eq_clamp_min (r : Roll) : r.totalRange.upper =
    .clamp (r.repeats.toNat *
      (min (r.dice.toNat * r.sides.toNat : Int) Amount.greatest + r.modifier.value.toInt)) := by
  have hproduct : (Amount.clamp (r.dice.toNat * r.sides.toNat : Nat)).toInt =
      min (r.dice.toNat * r.sides.toNat : Int) Amount.greatest := by
    rw [Amount.toInt_clamp, Int.natCast_mul]
    have := Int.mul_nonneg (Int.natCast_nonneg r.dice.toNat) (Int.natCast_nonneg r.sides.toNat)
    simp only [Amount.least, Amount.greatest]
    omega
  rw [upper_eq, ← hproduct]
  exact Amount.clamp_mul_clamp r.one_le_repeats _

/-- Where the product of dice and sides stops, the exact high end lies above what is reckoned from
there. -/
theorem stopped_lt_exactUpper {r : Roll}
    (h : Amount.greatest < r.dice.toNat * r.sides.toNat) :
    r.repeats.toNat * (Amount.greatest + r.modifier.value.toInt) < r.exactUpper :=
  Int.mul_lt_mul_of_pos_left (Int.add_lt_add_right h _)
    (Int.lt_of_lt_of_le (by decide) r.one_le_repeats)

theorem upper_eq_clamp_exactUpper {r : Roll} (h : ¬ r.FallsShort) :
    r.totalRange.upper = .clamp r.exactUpper := by
  rcases Int.lt_or_le Amount.greatest (r.dice.toNat * r.sides.toNat) with hp | hp
  -- the product stops, and the multiple of what is left of it stops as well
  · have hstopped :
        Amount.greatest ≤ r.repeats.toNat * (Amount.greatest + r.modifier.value.toInt) := by
      rcases Int.lt_or_le r.modifier.value.toInt 0 with hm | hm
      · exact Int.le_of_not_gt fun hlt => h ⟨hm, hp, hlt⟩
      · have hgroup : 0 ≤ Amount.greatest + r.modifier.value.toInt :=
          Int.add_nonneg (by decide) hm
        calc Amount.greatest
          _ ≤ 1 * (Amount.greatest + r.modifier.value.toInt) := by omega
          _ ≤ r.repeats.toNat * (Amount.greatest + r.modifier.value.toInt) :=
            Int.mul_le_mul_of_nonneg_right r.one_le_repeats hgroup
    rw [upper_eq_clamp_min, Int.min_eq_right (Int.le_of_lt hp),
      Amount.clamp_of_greatest_le hstopped,
      Amount.clamp_of_greatest_le (Int.le_trans hstopped (Int.le_of_lt (stopped_lt_exactUpper hp)))]
  -- the product is exact
  · rw [upper_eq_clamp_min, Int.min_eq_left hp, exactUpper]

/-- A roll that falls short has too low a high end. -/
theorem upper_lt_exactUpper {r : Roll} (h : r.FallsShort) :
    r.totalRange.upper.toInt < (Amount.clamp r.exactUpper).toInt := by
  obtain ⟨-, hp, hlt⟩ := h
  have hexact := stopped_lt_exactUpper hp
  have hleft : 0 ≤ Amount.greatest + r.modifier.value.toInt := by
    have := r.modifier.neg_greatest_le_value
    omega
  have hnonneg := (natCast_mul_sign r.repeats.toNat _).1 hleft
  rw [upper_eq_clamp_min, Int.min_eq_right (Int.le_of_lt hp), Amount.toInt_clamp,
    Amount.toInt_clamp]
  simp only [Amount.least, Amount.greatest] at *
  omega

/-- **The exact ends.**  The low end of the range is the amount nearest to the exact lowest total.
The high end is the one nearest to the exact highest total if and only if the roll does not fall
short; in every case it is the one in which dice times sides count no more than the greatest
amount. -/
theorem totalRange_exact_iff (r : Roll) :
    r.totalRange.lower = .clamp r.exactLower ∧
    (r.totalRange.upper = .clamp r.exactUpper ↔ ¬ r.FallsShort) ∧
    r.totalRange.upper = .clamp (r.repeats.toNat *
      (min (r.dice.toNat * r.sides.toNat : Int) Amount.greatest + r.modifier.value.toInt)) := by
  refine ⟨?_, ⟨fun heq h => ?_, upper_eq_clamp_exactUpper⟩, r.upper_eq_clamp_min⟩
  · rw [lower_eq_clamp, exactLower, Int.mul_one]
  · have hlt := upper_lt_exactUpper h
    rw [heq] at hlt
    exact Int.lt_irrefl _ hlt

/-- As many dice with as many sides as there can be, and the greatest amount taken off. -/
def cutRoll : Roll := ofWords 1 4294967295 4294967295 "-9223372036854775807"

/-- **The high end can be missed.**  The exact high end of `cutRoll` is an amount, and another one
than the high end of its range. -/
theorem upper_cutRoll :
    (Amount.least ≤ cutRoll.exactUpper ∧ cutRoll.exactUpper ≤ Amount.greatest) ∧
      cutRoll.exactUpper = 9223372028264841218 ∧ cutRoll.totalRange.upper.toInt = 0 ∧
      cutRoll.totalRange.upper ≠ .clamp cutRoll.exactUpper := by
  decide

end Roll

end TabletopDice
