import TabletopDice.Proofs.Numerals
import TabletopDice.Proofs.Search
import TabletopDice.Interpretation

/-!
# Rolls — the counts that an expression writes

A part of a roll that is a count may be missing from an expression, or be written with no digits, as
zero, or too large.  In all these cases the part has its default, and otherwise it is the number that
its digits write (`Roll.Part.worth`).  The number is not bounded while it is read, so it does not
matter how many zeros stand in front of it (`Roll.Part.count_zeros_append`).

**Counts as they are written** (`interpret_counts`).  Each part is worth what its own digits say,
whatever is written of the other two, and the modifier and the excerpt are as they are written,
whichever parts have their defaults.  A roll that is made again from its numbers is the same, since
no zero and no empty modifier is left in it.
-/

namespace TabletopDice

/-! ### Reading a count -/

/-- A count is read if and only if the number can be one; in all other cases the default is
taken. -/
theorem Count.toNat_getD_read (fallback : Count) (digits : List Char) :
    ((Count.read digits).getD fallback).toNat =
      if 1 ≤ Text.value digits ∧ Text.value digits ≤ 4294967295 then Text.value digits
      else fallback.toNat := by
  rw [Count.read]
  by_cases hne : digits = []
  · subst hne
    rfl
  · simp only [hne, if_false, Text.ofDigitChars_eq_value]
    by_cases pos : 0 < Text.value digits
    · by_cases lt : Text.value digits < 4294967296
      · have hcount : 1 ≤ Text.value digits ∧ Text.value digits ≤ 4294967295 := by omega
        rw [dif_pos pos, dif_pos lt, if_pos hcount]
        exact Count.toNat_ofNat pos lt
      · have hlarge : ¬ (1 ≤ Text.value digits ∧ Text.value digits ≤ 4294967295) := by omega
        rw [dif_pos pos, dif_neg lt, if_neg hlarge]
        rfl
    · have hzero : ¬ (1 ≤ Text.value digits ∧ Text.value digits ≤ 4294967295) := by omega
      rw [dif_neg pos, if_neg hzero]
      rfl

/-- The word of a count is no zero that would be replaced. -/
theorem Count.ofWord_word (c fallback : Count) : Count.ofWord c.word fallback = c :=
  dif_pos c.ne_zero

/-! ### The parts of a roll -/

namespace Roll

/-- The count that a roll has for a part. -/
def part (r : Roll) : Part → Count
  | .repeats => r.repeats
  | .dice => r.dice
  | .sides => r.sides

/-- The number of a part by its digits, if the part is written: what the digits write where that can
be a count, and the default otherwise. -/
def Part.worth (part : Part) : Option (List Char) → Nat
  | some digits =>
    if 1 ≤ Text.value digits ∧ Text.value digits ≤ 4294967295 then Text.value digits
    else part.fallback.toNat
  | none => part.fallback.toNat

theorem Part.toNat_count (part : Part) (digits : List Char) :
    (part.count digits).toNat = part.worth (some digits) :=
  Count.toNat_getD_read part.fallback digits

/-- Zeros in front of a number do not matter. -/
theorem Part.count_zeros_append (part : Part) (k : Nat) (digits : List Char) :
    part.count (List.replicate k '0' ++ digits) = part.count digits := by
  rw [← Count.toNat_inj, toNat_count, toNat_count, worth, worth, Text.value_zeros_append]

/-- A roll with a modifier is made again from its numbers and its modifier. -/
theorem ofWords_parts {r : Roll} (h : r.modifier.text ≠ "") :
    { ofWords r.repeats.word r.dice.word r.sides.word r.modifier.text with
      excerpt := r.excerpt } = r := by
  rw [ofWords, Count.ofWord_word, Count.ofWord_word, Count.ofWord_word, if_neg h]

end Roll

namespace Expression

/-- The digits of a part, if the part is written. -/
def written? (e : Expression) : Roll.Part → Option (List Char)
  | .repeats => e.repetition?.map Repetition.digits
  | .dice => some e.dice
  | .sides => some e.sides

theorem WellFormed.isDigit_of_written? {e : Expression} (h : e.WellFormed) {part : Roll.Part}
    {digits : List Char} (hd : e.written? part = some digits) : ∀ c ∈ digits, c.isDigit := by
  cases part with
  | repeats =>
      obtain ⟨r, hr, rfl⟩ := Option.map_eq_some_iff.mp hd
      exact (h.repetition r hr).isDigit
  | dice =>
      obtain rfl := Option.some.inj hd
      exact h.dice_isDigit
  | sides =>
      obtain rfl := Option.some.inj hd
      exact h.sides_isDigit

/-- A part of the roll that an expression says is worth its own digits. -/
theorem toNat_part_roll (e : Expression) (part : Roll.Part) :
    (e.roll.part part).toNat = part.worth (e.written? part) := by
  cases part with
  | repeats =>
      show (Roll.Part.repeats.count e.rolls).toNat = _
      rw [Roll.Part.toNat_count, rolls, written?]
      cases e.repetition? <;> rfl
  | dice => exact Roll.Part.toNat_count .dice e.dice
  | sides => exact Roll.Part.toNat_count .sides e.sides

/-- The modifier is as it is written, and `+0` if none is. -/
theorem toList_modifier_roll (e : Expression) :
    e.roll.modifier.text.toList = e.modifier?.getD ['+', '0'] := by
  rw [roll]
  cases e.modifier? with
  | none => exact Modifier.toList_zero
  | some m => exact String.toList_ofList

theorem WellFormed.modifier_roll_ne_empty {e : Expression} (h : e.WellFormed) :
    e.roll.modifier.text ≠ "" := by
  intro hempty
  have hlist := e.toList_modifier_roll
  rw [hempty] at hlist
  cases hm : e.modifier? with
  | none =>
      rw [hm] at hlist
      cases hlist
  | some m =>
      obtain ⟨first, tail, rfl, -⟩ := (h.modifier m hm).cons
      rw [hm] at hlist
      cases hlist

end Expression

/-! ### The roll of a text -/

/-- **Counts as they are written.**  In a text with an expression, every part of the roll is worth
the digits that are written of it, and only zeros are worth nothing.  The modifier and the excerpt
are as they are written, and nothing is left that making the roll from its numbers would replace. -/
theorem interpret_counts (text : String) (o : Expression.Occurrence)
    (h : Expression.find? text.toList = some o) :
    (∀ part, ((interpret text).roll.part part).toNat = part.worth (o.expression.written? part)) ∧
    (∀ part digits, o.expression.written? part = some digits →
      (Text.value digits = 0 ↔ ∀ c ∈ digits, c = '0')) ∧
    (interpret text).roll.modifier.text.toList = o.expression.modifier?.getD ['+', '0'] ∧
    (interpret text).roll.excerpt = some (String.ofList o.expression.chars) ∧
    { Roll.ofWords (interpret text).roll.repeats.word (interpret text).roll.dice.word
        (interpret text).roll.sides.word (interpret text).roll.modifier.text with
      excerpt := (interpret text).roll.excerpt } = (interpret text).roll := by
  have hwf := (Expression.find?_eq_some_iff.mp h).wellFormed
  rw [interpret_of_find? h]
  refine ⟨o.expression.toNat_part_roll, fun part digits hd => ?_,
    o.expression.toList_modifier_roll, rfl, Roll.ofWords_parts hwf.modifier_roll_ne_empty⟩
  exact Text.value_eq_zero_iff (hwf.isDigit_of_written? hd)

/-- In the first text the greatest count after many zeros, zeros alone, and one more than the
greatest count; in the second the defaults of all three parts, for a number that is too large, for
zeros and for no digits. -/
theorem interpret_counts_each_default :
    let text := "roll 00000000004294967295 x 000d4294967296-7 now"
    let e : Expression := ⟨some ⟨"00000000004294967295".toList, [' '], 'x', [' ']⟩, "000".toList,
      'd', "4294967296".toList, some "-7".toList⟩
    let text' := "4294967296x00d+l"
    let e' : Expression := ⟨some ⟨"4294967296".toList, [], 'x', []⟩, "00".toList, 'd', [],
      some "+l".toList⟩
    (Expression.find? text.toList = some ⟨"roll ".toList, e, " now".toList⟩ ∧
      (interpret text).roll.repeats.toNat = 4294967295 ∧
      (interpret text).roll.dice.toNat = 1 ∧
      (interpret text).roll.sides.toNat = 20 ∧
      (interpret text).roll.modifier.text.toList = "-7".toList) ∧
    (Expression.find? text'.toList = some ⟨[], e', []⟩ ∧
      (interpret text').roll.repeats.toNat = 1 ∧
      (interpret text').roll.dice.toNat = 1 ∧
      (interpret text').roll.sides.toNat = 20 ∧
      (interpret text').roll.modifier.text.toList = "+l".toList) := by
  intro text e text' e'
  have hfind : Expression.find? text.toList = some ⟨"roll ".toList, e, " now".toList⟩ := by
    decide
  have hfind' : Expression.find? text'.toList = some ⟨[], e', []⟩ := by
    decide
  obtain ⟨hparts, -, hmodifier, -⟩ := interpret_counts text _ hfind
  obtain ⟨hparts', -, hmodifier', -⟩ := interpret_counts text' _ hfind'
  exact ⟨⟨hfind, hparts .repeats, hparts .dice, hparts .sides, hmodifier⟩,
    hfind', hparts' .repeats, hparts' .dice, hparts' .sides, hmodifier'⟩

end TabletopDice
