import TabletopDice.Proofs.Counts
import TabletopDice.Proofs.TotalRange
import TabletopDice.Proofs.Written

/-!
# Modifiers — three readings of one text

A modifier is read three times: it is scanned as a part of an expression, its kind is told, and its
amount is taken.  Each reading looks at the text anew and has its own test for digits.

Everything is decided by what stands after the first character.  If it is a number
(`Modifier.Numbers`), then the first character alone tells the kind, and whether the amount is
negative; if it is none, the amount is zero and only a marker is recognized
(`numbers_or_magnitude_none`).  So the kind and the number tell the amount (`Kind.amount`), unless
the kind is unrecognized; then the amount may be the number after a character that is no operator.

**The readings agree** (`readings_agree`).
-/

namespace TabletopDice

namespace Modifier

/-! ### Kinds of operators -/

theorem ofOperator_eq_subtract_iff {c : Char} : Kind.ofOperator c = .subtract ↔ c = '-' := by
  grind [Kind.ofOperator]

/-- A sign before a letter is a marker or nothing. -/
theorem ofMarker_cases (sign letter : Char) :
    (Kind.ofMarker sign letter).isMarker ∨ Kind.ofMarker sign letter = .unrecognized := by
  grind [Kind.ofMarker, Kind.isMarker]

/-! ### A number after the first character -/

/-- The modifier is the character `first` and then a number, written with `digits`. -/
structure Numbers (m : Modifier) (first : Char) (digits : List Char) : Prop where
  text : m.text.toList = first :: digits
  isNumeral : Text.isNumeral digits

variable {m : Modifier} {first : Char} {digits : List Char}

theorem Numbers.kind_eq (h : m.Numbers first digits) : m.kind = .ofOperator first := by
  rw [kind, h.text]
  simp only [h.isNumeral, if_true]

theorem Numbers.magnitude?_eq (h : m.Numbers first digits) :
    m.magnitude? = some (Text.value digits) := by
  rw [magnitude?, h.text]
  simp only [h.isNumeral, if_true, Text.ofDigitChars_eq_value]

theorem Numbers.outOfRange_eq (h : m.Numbers first digits) :
    m.outOfRange = decide (Amount.greatest < Text.value digits) := by
  rw [outOfRange, h.magnitude?_eq]
  rfl

theorem Numbers.isNegated_eq (h : m.Numbers first digits) :
    m.isNegated = decide (first = '-') := by
  simp only [isNegated, h.text, List.head?_cons, Option.some.injEq]

/-- The amount is the number, negated after a minus sign, and zero if that is out of range. -/
theorem Numbers.toInt_value (h : m.Numbers first digits) : m.value.toInt =
    if Text.value digits ≤ Amount.greatest then
      (if first = '-' then -(Text.value digits : Int) else Text.value digits)
    else 0 := by
  simp only [value, h.outOfRange_eq, h.isNegated_eq, h.magnitude?_eq, Option.getD_some,
    decide_eq_true_eq]
  by_cases hrange : Text.value digits ≤ Amount.greatest
  · have hclamp : (Amount.clamp (Text.value digits)).toInt = Text.value digits :=
      Amount.toInt_clamp_of_mem (by simp only [Amount.least]; omega) hrange
    have hneg : (-Amount.clamp (Text.value digits)).toInt = -(Text.value digits : Int) := by
      rw [Amount.toInt_neg, hclamp]
      simp only [Amount.least, Amount.greatest] at *
      omega
    rw [if_neg (Int.not_lt.mpr hrange), if_pos hrange]
    split
    · exact hneg
    · exact hclamp
  · rw [if_pos (Int.not_le.mp hrange), if_neg hrange, Amount.toInt_zero]

/-! ### No number after the first character -/

/-- There is a number after the first character, or there is none. -/
theorem numbers_or_magnitude_none (m : Modifier) :
    (∃ first digits, m.Numbers first digits) ∨ m.magnitude? = none := by
  cases htext : m.text.toList with
  | nil => exact .inr (by rw [magnitude?, htext])
  | cons first rest =>
      cases hrest : Text.isNumeral rest with
      | true => exact .inl ⟨first, rest, htext, hrest⟩
      | false => exact .inr (by rw [magnitude?, htext]; simp [hrest])

/-- Without a number nothing is added. -/
theorem value_of_magnitude_none (h : m.magnitude? = none) : m.value = 0 := by
  rw [value, outOfRange, h]
  split
  · rfl
  · split <;> rfl

/-- Without a number only a marker is recognized. -/
theorem kind_of_magnitude_none (h : m.magnitude? = none) :
    m.kind.isMarker ∨ m.kind = .unrecognized := by
  rw [magnitude?] at h
  rw [kind]
  split at h
  · exact .inr rfl
  · rename_i first rest htext
    split at h
    · cases h
    · rename_i hnumeral
      rw [if_neg hnumeral]
      split
      · exact ofMarker_cases first _
      · exact .inr rfl

/-! ### The readings -/

/-- The amount of a modifier of a recognized kind, by the number after its first character. -/
def Kind.amount (kind : Kind) (n : Nat) : Int :=
  match kind with
  | .add | .multiply | .divide => if n ≤ Amount.greatest then n else 0
  | .subtract => if n ≤ Amount.greatest then -n else 0
  | .lowMarker | .highMarker | .unrecognized => 0

theorem Kind.amount_of_isMarker {kind : Kind} (h : kind.isMarker) (n : Nat) :
    kind.amount n = 0 := by
  cases kind with
  | lowMarker | highMarker => rfl
  | add | subtract | multiply | divide | unrecognized => cases h

/-- The amount that an operator gives to a number. -/
theorem Kind.amount_ofOperator {c : Char} (h : isOperator c) (n : Nat) :
    (Kind.ofOperator c).amount n =
      if n ≤ Amount.greatest then (if c = '-' then -(n : Int) else n) else 0 := by
  simp only [isOperator, Bool.or_eq_true, decide_eq_true_eq] at h
  rcases h with ((rfl | rfl) | rfl) | rfl <;> rfl

/-- All of a modifier is scanned if and only if its kind is recognized. -/
theorem exists_scan?_iff (m : Modifier) :
    (∃ w, scan? m.text.toList = some (w, [])) ↔ m.kind ≠ .unrecognized := by
  rw [kind_ne_unrecognized_iff]
  constructor
  · rintro ⟨w, h⟩
    obtain ⟨hw, htext⟩ := written_of_scan? h
    rwa [← htext, List.append_nil]
  · intro h
    exact ⟨_, h.scan?_eq⟩

/-- The kind and the number tell the amount. -/
theorem toInt_value_of_kind (h : m.kind ≠ .unrecognized) :
    m.value.toInt = m.kind.amount (Text.value m.text.toList.tail) := by
  rcases m.numbers_or_magnitude_none with ⟨first, digits, hm⟩ | hm
  · rw [hm.kind_eq] at h ⊢
    rw [hm.toInt_value, hm.text, List.tail_cons,
      Kind.amount_ofOperator (ofOperator_ne_unrecognized.mp h)]
  · rw [value_of_magnitude_none hm,
      Kind.amount_of_isMarker ((kind_of_magnitude_none hm).resolve_right h), Amount.toInt_zero]

/-- Only a subtraction takes anything away. -/
theorem kind_of_value_neg (h : m.value.toInt < 0) : m.kind = .subtract := by
  rcases m.numbers_or_magnitude_none with ⟨first, digits, hm⟩ | hm
  · rw [hm.kind_eq, ofOperator_eq_subtract_iff]
    rw [hm.toInt_value] at h
    by_contra hfirst
    rw [if_neg hfirst] at h
    split at h <;> omega
  · rw [value_of_magnitude_none hm, Amount.toInt_zero] at h
    exact absurd h (Int.lt_irrefl 0)

/-- An unrecognized modifier adds something only if a number follows a character that is no
operator. -/
theorem numbers_of_unrecognized (hkind : m.kind = .unrecognized) (hvalue : m.value.toInt ≠ 0) :
    ∃ first digits, m.Numbers first digits ∧ isOperator first = false := by
  rcases m.numbers_or_magnitude_none with ⟨first, digits, hm⟩ | hm
  · rw [hm.kind_eq] at hkind
    refine ⟨first, digits, hm, Bool.eq_false_iff.mpr fun hoperator => ?_⟩
    exact ofOperator_ne_unrecognized.mpr hoperator hkind
  · rw [value_of_magnitude_none hm] at hvalue
    exact absurd Amount.toInt_zero hvalue

theorem written_zero : Written ['+', '0'] :=
  .number rfl (List.cons_ne_nil '0' []) (List.forall_mem_singleton.mpr rfl)

end Modifier

/-! ### Modifiers of texts -/

/-- The roll that an expression says has a word of the grammar for its modifier. -/
theorem Expression.WellFormed.written_modifier_roll {e : Expression} (h : e.WellFormed) :
    Modifier.Written e.roll.modifier.text.toList := by
  rw [toList_modifier_roll]
  cases hm : e.modifier? with
  | none => exact Modifier.written_zero
  | some m => exact h.modifier m hm

/-- Whatever a text holds, what is read from it has a modifier of a recognized kind. -/
theorem kind_interpret_ne_unrecognized (text : String) :
    (interpret text).roll.modifier.kind ≠ .unrecognized := by
  rw [Modifier.kind_ne_unrecognized_iff]
  cases hfind : Expression.find? text.toList with
  | none =>
      rw [interpret_of_find?_eq_none hfind]
      show Modifier.Written Modifier.zero.text.toList
      rw [Modifier.toList_zero]
      exact Modifier.written_zero
  | some o =>
      rw [interpret_of_find? hfind]
      exact (Expression.find?_eq_some_iff.mp hfind).wellFormed.written_modifier_roll

namespace Modifier

/-- **The readings agree.**  All of a modifier is scanned if and only if its kind is recognized, and
then its kind and the number after its first character tell its amount.  Only a subtraction has a
negative amount.  An unrecognized modifier has an amount other than zero only if it is a number after
a character that is no operator.  No amount is the least one, so each of them can be negated.  What
is read from a text is of a recognized kind. -/
theorem readings_agree :
    (∀ m : Modifier,
      ((∃ w, scan? m.text.toList = some (w, [])) ↔ m.kind ≠ .unrecognized) ∧
      (m.kind ≠ .unrecognized →
        m.value.toInt = m.kind.amount (Text.value m.text.toList.tail)) ∧
      (m.value.toInt < 0 → m.kind = .subtract) ∧
      (m.kind = .unrecognized → m.value.toInt ≠ 0 →
        ∃ first digits, m.text.toList = first :: digits ∧ isOperator first = false ∧
          digits ≠ [] ∧ ∀ c ∈ digits, c.isDigit) ∧
      -Amount.greatest ≤ m.value.toInt ∧ m.value.toInt ≤ Amount.greatest) ∧
    ∀ text, (interpret text).roll.modifier.kind ≠ .unrecognized := by
  refine ⟨fun m => ⟨m.exists_scan?_iff, toInt_value_of_kind, kind_of_value_neg,
    fun hkind hvalue => ?_, m.neg_greatest_le_value, m.value.le_greatest⟩,
    kind_interpret_ne_unrecognized⟩
  obtain ⟨first, digits, hm, hfirst⟩ := numbers_of_unrecognized hkind hvalue
  obtain ⟨hne, hdigits⟩ := isNumeral_iff.mp hm.isNumeral
  exact ⟨first, digits, hm.text, hfirst, hne, hdigits⟩

/-- The greatest number that can be taken away, and a number after a character that is no
operator. -/
theorem readings_agree_at_both_ends :
    (⟨"-9223372036854775807"⟩ : Modifier).kind ≠ .unrecognized ∧
    (⟨"-9223372036854775807"⟩ : Modifier).value.toInt = -9223372036854775807 ∧
    (⟨"-9223372036854775808"⟩ : Modifier).kind ≠ .unrecognized ∧
    (⟨"-9223372036854775808"⟩ : Modifier).value.toInt = 0 ∧
    (⟨"x7"⟩ : Modifier).kind = .unrecognized ∧ (⟨"x7"⟩ : Modifier).value.toInt ≠ 0 ∧
    ∃ first digits, "x7".toList = first :: digits ∧ isOperator first = false ∧ digits ≠ [] ∧
      ∀ c ∈ digits, c.isDigit := by
  obtain ⟨hreadings, -⟩ := readings_agree
  have hlast : (⟨"-9223372036854775807"⟩ : Modifier).kind ≠ .unrecognized := by decide
  have hbeyond : (⟨"-9223372036854775808"⟩ : Modifier).kind ≠ .unrecognized := by decide
  have hkind : (⟨"x7"⟩ : Modifier).kind = .unrecognized := by decide
  have hvalue : (⟨"x7"⟩ : Modifier).value.toInt ≠ 0 := by decide
  obtain ⟨-, hamount, -⟩ := hreadings ⟨"-9223372036854775807"⟩
  obtain ⟨-, hnone, -⟩ := hreadings ⟨"-9223372036854775808"⟩
  obtain ⟨-, -, -, hnumber, -⟩ := hreadings ⟨"x7"⟩
  exact ⟨hlast, hamount hlast, hbeyond, hnone hbeyond, hkind, hvalue, hnumber hkind hvalue⟩

end Modifier

end TabletopDice
