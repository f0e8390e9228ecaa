import TabletopDice.Proofs.HigherFaces
import TabletopDice.Proofs.Repeats

/-!
# Total ranges — larger rolls, higher ends

The high end of a range is reckoned from the parts of a roll by two products and a sum, each of
which may stop.  A sum keeps the order of its summands wherever it stops, and a product keeps the
order of a factor if the other one is not negative, as no count is.  So the high end does not go
down with more dice, more sides or a modifier of a larger amount (`AtMost.upper_le_upper`).

The low end is the high end of the same roll with one-sided dice (`lower_eq_upper_oneSided`).  So it
is at most the high end, does not go down with more dice or a larger amount either, and takes no
notice of the sides.

The repetitions multiply the ends of the roll made once (`upper_eq_mul_once`), which may be
negative.  More repetitions take an end away from zero, to the side that it is on, until it stops.

**Larger rolls, higher ends** (`totalRange_mono`).
-/

namespace TabletopDice

/-! ### Products in order -/

namespace Amount

theorem one_mul (a : Amount) : 1 * a = a := by
  show clamp (1 * a.toInt) = a
  rw [Int.one_mul, clamp_toInt]

theorem mul_one (a : Amount) : a * 1 = a := by
  show clamp (a.toInt * 1) = a
  rw [Int.mul_one, clamp_toInt]

theorem mul_le_mul_of_nonneg_left {a b c : Amount} (h : a ≤ b) (hc : 0 ≤ c) : c * a ≤ c * b :=
  clamp_le_clamp (Int.mul_le_mul_of_nonneg_left h hc)

theorem mul_le_mul {a b c d : Amount} (hab : a ≤ b) (hcd : c ≤ d) (hc : 0 ≤ c) (hb : 0 ≤ b) :
    a * c ≤ b * d :=
  clamp_le_clamp (Int.mul_le_mul hab hcd hc hb)

/-- The sign of one factor decides whether a product keeps or turns the order of the other. -/
theorem mul_le_mul_sign {a b : Amount} (h : a ≤ b) (c : Amount) :
    (0 ≤ c → a * c ≤ b * c) ∧ (c ≤ 0 → b * c ≤ a * c) :=
  ⟨fun hc => clamp_le_clamp (Int.mul_le_mul_of_nonneg_right h hc),
    fun hc => clamp_le_clamp (Int.mul_le_mul_of_nonpos_right h hc)⟩

end Amount

/-! ### Counts in order -/

namespace Count

theorem word_one_ne_zero : (1 : UInt32) ≠ 0 := by decide

/-- The least count. -/
def one : Count := ⟨1, word_one_ne_zero⟩

theorem one_le_toNat (c : Count) : one.toNat ≤ c.toNat := c.toNat_pos

theorem amount_le_amount {a b : Count} (h : a.toNat ≤ b.toNat) : a.amount ≤ b.amount := by
  rw [Amount.le_iff, toInt_amount, toInt_amount]
  exact Int.ofNat_le.mpr h

theorem amount_nonneg (c : Count) : 0 ≤ c.amount := by
  rw [Amount.le_iff, toInt_amount]
  exact Int.natCast_nonneg _

end Count

namespace Roll

/-! ### Rolls in order -/

/-- Two rolls are repeated equally often, and in each other part that counts for the range the one
is at most the other. -/
structure AtMost (r t : Roll) : Prop where
  repeats : r.repeats = t.repeats
  dice : r.dice.toNat ≤ t.dice.toNat
  sides : r.sides.toNat ≤ t.sides.toNat
  modifier : r.modifier.value ≤ t.modifier.value

/-- The same roll with one-sided dice. -/
def oneSided (r : Roll) : Roll := { r with sides := .one }

theorem oneSided_atMost (r : Roll) : r.oneSided.AtMost r where
  repeats := rfl
  dice := Nat.le_refl _
  sides := r.sides.one_le_toNat
  modifier := Amount.le_refl _

theorem AtMost.oneSided {r t : Roll} (h : r.AtMost t) : r.oneSided.AtMost t.oneSided where
  repeats := h.repeats
  dice := h.dice
  sides := Nat.le_refl _
  modifier := h.modifier

theorem AtMost.upper_le_upper {r t : Roll} (h : r.AtMost t) :
    r.totalRange.upper ≤ t.totalRange.upper := by
  have hfaces : r.dice.amount * r.sides.amount ≤ t.dice.amount * t.sides.amount :=
    Amount.mul_le_mul (Count.amount_le_amount h.dice) (Count.amount_le_amount h.sides)
      r.sides.amount_nonneg t.dice.amount_nonneg
  have hgroup : r.dice.amount * r.sides.amount + r.modifier.value ≤
      t.dice.amount * t.sides.amount + t.modifier.value :=
    Amount.add_le_add hfaces h.modifier
  rw [totalRange, totalRange, h.repeats]
  exact Amount.mul_le_mul_of_nonneg_left hgroup t.repeats.amount_nonneg

/-! ### The low end as a high end -/

theorem lower_eq_upper_oneSided (r : Roll) :
    r.totalRange.lower = r.oneSided.totalRange.upper := by
  show r.repeats.amount * (r.dice.amount + r.modifier.value) =
    r.repeats.amount * (r.dice.amount * 1 + r.modifier.value)
  rw [Amount.mul_one]

theorem lower_le_upper (r : Roll) : r.totalRange.lower ≤ r.totalRange.upper := by
  rw [lower_eq_upper_oneSided]
  exact r.oneSided_atMost.upper_le_upper

theorem AtMost.lower_le_lower {r t : Roll} (h : r.AtMost t) :
    r.totalRange.lower ≤ t.totalRange.lower := by
  rw [lower_eq_upper_oneSided, lower_eq_upper_oneSided]
  exact h.oneSided.upper_le_upper

/-! ### Repetitions -/

/-- The same roll made once. -/
def once (r : Roll) : Roll := r.repeated .one

theorem once_repeated (r : Roll) (n : Count) : (r.repeated n).once = r.once := rfl

theorem upper_once (r : Roll) :
    r.once.totalRange.upper = r.dice.amount * r.sides.amount + r.modifier.value :=
  Amount.one_mul _

theorem upper_eq_mul_once (r : Roll) :
    r.totalRange.upper = r.repeats.amount * r.once.totalRange.upper := by
  rw [upper_once, totalRange]

theorem lower_eq_mul_once (r : Roll) :
    r.totalRange.lower = r.repeats.amount * r.once.totalRange.lower := by
  rw [lower_eq_upper_oneSided, lower_eq_upper_oneSided]
  exact r.oneSided.upper_eq_mul_once

/-- A bound that the repetitions multiply does not go down with more of them if it is zero or more
for the roll made once, and does not go up if it is zero or less. -/
theorem repeated_sign {bound : Roll → Amount}
    (hbound : ∀ r, bound r = r.repeats.amount * bound r.once) (r : Roll) {n : Count}
    (h : r.repeats.toNat ≤ n.toNat) :
    (0 ≤ bound r.once → bound r ≤ bound (r.repeated n)) ∧
    (bound r.once ≤ 0 → bound (r.repeated n) ≤ bound r) := by
  rw [hbound r, hbound (r.repeated n), once_repeated]
  exact Amount.mul_le_mul_sign (Count.amount_le_amount h) (bound r.once)

/-! ### All parts -/

/-- **Larger rolls, higher ends.**  The low end of a range is at most its high end.  More dice and a
modifier of a larger amount lower neither end; more sides leave the low end as it is and do not
lower the high one.  More repetitions do not lower an end that is zero or more for the roll made
once, and do not raise one that is zero or less. -/
theorem totalRange_mono (r : Roll) :
    r.totalRange.lower ≤ r.totalRange.upper ∧
    (∀ n : Count, r.dice.toNat ≤ n.toNat →
      r.totalRange.lower ≤ { r with dice := n }.totalRange.lower ∧
      r.totalRange.upper ≤ { r with dice := n }.totalRange.upper) ∧
    (∀ m : Modifier, r.modifier.value ≤ m.value →
      r.totalRange.lower ≤ { r with modifier := m }.totalRange.lower ∧
      r.totalRange.upper ≤ { r with modifier := m }.totalRange.upper) ∧
    (∀ n : Count, r.sides.toNat ≤ n.toNat →
      { r with sides := n }.totalRange.lower = r.totalRange.lower ∧
      r.totalRange.upper ≤ { r with sides := n }.totalRange.upper) ∧
    (∀ n : Count, r.repeats.toNat ≤ n.toNat →
      (0 ≤ r.once.totalRange.lower →
        r.totalRange.lower ≤ (r.repeated n).totalRange.lower) ∧
      (r.once.totalRange.lower ≤ 0 →
        (r.repeated n).totalRange.lower ≤ r.totalRange.lower) ∧
      (0 ≤ r.once.totalRange.upper →
        r.totalRange.upper ≤ (r.repeated n).totalRange.upper) ∧
      (r.once.totalRange.upper ≤ 0 →
        (r.repeated n).totalRange.upper ≤ r.totalRange.upper)) := by
  have hdice := Nat.le_refl r.dice.toNat
  have hsides := Nat.le_refl r.sides.toNat
  have hmodifier := Amount.le_refl r.modifier.value
  refine ⟨r.lower_le_upper, fun n h => ?dice, fun m h => ?modifier, fun n h => ?sides,
    fun n h => ?repeats⟩
  case dice =>
    have hatMost : r.AtMost { r with dice := n } := ⟨rfl, h, hsides, hmodifier⟩
    exact ⟨hatMost.lower_le_lower, hatMost.upper_le_upper⟩
  case modifier =>
    have hatMost : r.AtMost { r with modifier := m } := ⟨rfl, hdice, hsides, h⟩
    exact ⟨hatMost.lower_le_lower, hatMost.upper_le_upper⟩
  case sides =>
    have hatMost : r.AtMost { r with sides := n } := ⟨rfl, hdice, h, hmodifier⟩
    exact ⟨rfl, hatMost.upper_le_upper⟩
  case repeats =>
    obtain ⟨hlower, hlower'⟩ := repeated_sign lower_eq_mul_once r h
    obtain ⟨hupper, hupper'⟩ := repeated_sign upper_eq_mul_once r h
    exact ⟨hlower, hlower', hupper, hupper'⟩

/-- Two groups with as many dice and sides as there can be, whose highest faces stop at the high
end. -/
def steepRoll : Roll := ofWords 2 4294967295 4294967295 "+1"

/-- Both ends of `deepRoll` stop at the low end of the amounts, and the high end of `steepRoll` stops
at their high end. -/
theorem totalRange_mono_deepRoll_steepRoll :
    let three : Count := ⟨3, by decide⟩
    let four : Count := ⟨4, by decide⟩
    let seven : Count := ⟨7, by decide⟩
    let minusOne : Modifier := ⟨"-1"⟩
    (deepRoll.dice.toNat ≤ three.toNat ∧
      deepRoll.totalRange.upper ≤ { deepRoll with dice := three }.totalRange.upper) ∧
    (deepRoll.modifier.value ≤ minusOne.value ∧
      deepRoll.totalRange.lower ≤ { deepRoll with modifier := minusOne }.totalRange.lower) ∧
    (deepRoll.sides.toNat ≤ seven.toNat ∧
      deepRoll.totalRange.upper ≤ { deepRoll with sides := seven }.totalRange.upper) ∧
    (deepRoll.repeats.toNat ≤ four.toNat ∧
      (deepRoll.once.totalRange.lower ≤ 0 ∧
        (deepRoll.repeated four).totalRange.lower ≤ deepRoll.totalRange.lower) ∧
      (deepRoll.once.totalRange.upper ≤ 0 ∧
        (deepRoll.repeated four).totalRange.upper ≤ deepRoll.totalRange.upper)) ∧
    (steepRoll.repeats.toNat ≤ four.toNat ∧
      (0 ≤ steepRoll.once.totalRange.lower ∧
        steepRoll.totalRange.lower ≤ (steepRoll.repeated four).totalRange.lower) ∧
      (0 ≤ steepRoll.once.totalRange.upper ∧
        steepRoll.totalRange.upper ≤ (steepRoll.repeated four).totalRange.upper)) := by
  intro three four seven minusOne
  obtain ⟨-, hdice, hmodifier, hsides, hdeep⟩ := totalRange_mono deepRoll
  obtain ⟨-, -, -, -, hsteep⟩ := totalRange_mono steepRoll
  have dice_le : deepRoll.dice.toNat ≤ three.toNat := by decide
  have modifier_le : deepRoll.modifier.value ≤ minusOne.value := by decide
  have sides_le : deepRoll.sides.toNat ≤ seven.toNat := by decide
  have deep_le : deepRoll.repeats.toNat ≤ four.toNat := by decide
  have steep_le : steepRoll.repeats.toNat ≤ four.toNat := by decide
  have deep_lower : deepRoll.once.totalRange.lower ≤ 0 := by decide
  have deep_upper : deepRoll.once.totalRange.upper ≤ 0 := by decide
  have steep_lower : 0 ≤ steepRoll.once.totalRange.lower := by decide
  have steep_upper : 0 ≤ steepRoll.once.totalRange.upper := by decide
  obtain ⟨-, deepLower, -, deepUpper⟩ := hdeep four deep_le
  obtain ⟨steepLower, -, steepUpper, -⟩ := hsteep four steep_le
  exact ⟨⟨dice_le, (hdice three dice_le).2⟩, ⟨modifier_le, (hmodifier minusOne modifier_le).1⟩,
    ⟨sides_le, (hsides seven sides_le).2⟩,
    ⟨deep_le, ⟨deep_lower, deepLower deep_lower⟩, deep_upper, deepUpper deep_upper⟩,
    steep_le, ⟨steep_lower, steepLower steep_lower⟩, steep_upper, steepUpper steep_upper⟩

end Roll

end TabletopDice
