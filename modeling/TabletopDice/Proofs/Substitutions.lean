import Mathlib.Data.List.Basic
import TabletopDice.Faces.Script
import TabletopDice.Proofs.Modifiers

/-!
# Notices — what is substituted

A number that is written in an expression and cannot be used is noticed: digits of a count that
write zero or too large a number (`Roll.Part.IsUnusable`), and a modifier whose number is out of
range.  In all other cases the number of the roll is the one that is written.  What is missing is
filled in without a notice.

**Notices account for substitutions** (`notices_account`).  Reading a text leaves a warning for
every unusable count, in the order in which the counts are written, and then says what was read.
Performing the roll leaves a warning if and only if the number of the modifier is out of range, and
then shows the outcome.  So there is no warning at all if and only if every number is used as it is
written (`Expression.UsedAsWritten`).
-/

namespace TabletopDice

/-! ### Warnings -/

/-- Warnings, and then one notice that is none. -/
structure Notice.Reports (notices warnings : List Notice) (last : Notice) : Prop where
  eq_append : notices = warnings ++ [last]
  level_warnings : ∀ n ∈ warnings, n.level = .warning
  level_last : last.level = .detail

theorem Notice.Reports.forall_level_iff {notices warnings : List Notice} {last : Notice}
    (h : Notice.Reports notices warnings last) :
    (∀ n ∈ notices, n.level ≠ .warning) ↔ warnings = [] := by
  rw [h.eq_append]
  constructor
  · intro hlevel
    rw [List.eq_nil_iff_forall_not_mem]
    intro n hn
    exact hlevel n (List.mem_append_left _ hn) (h.level_warnings n hn)
  · rintro rfl n hn
    rw [List.mem_singleton.mp hn, h.level_last]
    exact Level.noConfusion

/-- Two reports have no warning if and only if neither of them has one before its last notice. -/
theorem Notice.Reports.forall_level_append_iff {notices notices' warnings warnings' : List Notice}
    {last last' : Notice} (h : Notice.Reports notices warnings last)
    (h' : Notice.Reports notices' warnings' last') :
    (∀ n ∈ notices ++ notices', n.level ≠ .warning) ↔ warnings = [] ∧ warnings' = [] := by
  rw [List.forall_mem_append, h.forall_level_iff, h'.forall_level_iff]

namespace Roll.Part

/-- All parts, in the order in which they are written. -/
def all : List Part := [.repeats, .dice, .sides]

theorem mem_all (part : Part) : part ∈ all := by
  cases part <;> decide

/-- Digits that are written and cannot be a count: they write zero or too large a number. -/
def IsUnusable (digits : List Char) : Prop :=
  digits ≠ [] ∧ (Text.value digits = 0 ∨ 4294967295 < Text.value digits)

instance (digits : List Char) : Decidable (IsUnusable digits) :=
  inferInstanceAs (Decidable (_ ∧ _))

/-- The warning that the digits of a part are not used. -/
def warning (part : Part) (digits : List Char) : Notice :=
  if Text.value digits = 0 then .zeroCount part else .largeCount part digits

theorem level_warning (part : Part) (digits : List Char) :
    (part.warning digits).level = .warning := by
  rw [warning]
  split <;> rfl

/-- The digits of a part are noticed if and only if they are unusable. -/
theorem notices_eq (part : Part) (digits : List Char) :
    part.notices digits = if IsUnusable digits then [part.warning digits] else [] := by
  by_cases hne : digits = []
  · rw [if_neg fun h : IsUnusable digits => h.1 hne, notices, Count.read, if_pos hne]
  · rw [notices, Count.read, if_neg hne]
    simp only [Text.ofDigitChars_eq_value]
    by_cases hzero : Text.value digits = 0
    · rw [dif_neg (Nat.not_lt.mpr (Nat.le_of_eq hzero)), if_pos ⟨hne, .inl hzero⟩, warning,
        if_pos hzero]
    · rw [dif_pos (Nat.pos_of_ne_zero hzero)]
      by_cases lt : Text.value digits < 4294967296
      · have husable : ¬ IsUnusable digits := by
          rintro ⟨-, hvalue⟩
          omega
        rw [dif_pos lt, if_neg husable]
      · rw [dif_neg lt, if_pos ⟨hne, .inr (Nat.le_of_not_lt lt)⟩, warning, if_neg hzero]

/-- Digits are used as they are written if and only if they are usable. -/
theorem worth_eq_value_iff (part : Part) {digits : List Char} (hne : digits ≠ []) :
    part.worth (some digits) = Text.value digits ↔ ¬ IsUnusable digits := by
  have hpos := part.fallback.toNat_pos
  have hlt := part.fallback.toNat_lt
  rw [worth, IsUnusable]
  constructor
  · rintro h ⟨-, hvalue⟩
    rw [if_neg (by omega)] at h
    omega
  · intro h
    rw [if_pos]
    by_contra hvalue
    exact h ⟨hne, by omega⟩

end Roll.Part

namespace Expression

/-- The warnings of the parts that an expression writes, in the order in which they are written. -/
def warnings (e : Expression) : List Notice :=
  Roll.Part.all.filterMap fun part =>
    ((e.written? part).filter fun digits => Roll.Part.IsUnusable digits).map part.warning

theorem level_of_mem_warnings {e : Expression} {n : Notice} (h : n ∈ e.warnings) :
    n.level = .warning := by
  obtain ⟨part, -, hn⟩ := List.mem_filterMap.mp h
  obtain ⟨digits, -, rfl⟩ := Option.map_eq_some_iff.mp hn
  exact part.level_warning digits

theorem warnings_eq_nil_iff {e : Expression} : e.warnings = [] ↔
    ∀ part digits, e.written? part = some digits → ¬ Roll.Part.IsUnusable digits := by
  rw [warnings, List.filterMap_eq_nil_iff]
  simp only [Roll.Part.mem_all, forall_const, Option.map_eq_none_iff, Option.filter_eq_none_iff,
    decide_eq_true_eq]

/-- Each part is noticed by its own digits, and a part that is not written not at all. -/
theorem toList_warning (e : Expression) (part : Roll.Part) :
    (((e.written? part).filter fun digits => Roll.Part.IsUnusable digits).map part.warning).toList =
      part.notices ((e.written? part).getD []) := by
  rw [Roll.Part.notices_eq]
  cases e.written? part with
  | none => rfl
  | some digits =>
      rw [Option.filter_some, Option.getD_some]
      by_cases h : Roll.Part.IsUnusable digits
      · rw [if_pos (decide_eq_true h), if_pos h]
        rfl
      · rw [if_neg (by rwa [decide_eq_true_eq]), if_neg h]
        rfl

/-- Reading an expression leaves its warnings, and then says what was read. -/
theorem reports_interpretation (e : Expression) : Notice.Reports e.interpretation.notices
    e.warnings (.found (String.ofList e.chars) e.roll) where
  eq_append := by
    rw [warnings, List.filterMap_eq_flatMap_toList]
    simp only [toList_warning, Roll.Part.all, List.flatMap_cons, List.flatMap_nil, List.append_nil,
      ← List.append_assoc]
    rfl
  level_warnings _ := level_of_mem_warnings
  level_last := rfl

end Expression

/-! ### Modifiers out of range -/

namespace Modifier

theorem outOfRange_iff {m : Modifier} : m.outOfRange ↔
    ∃ first digits, m.Numbers first digits ∧ Amount.greatest < Text.value digits := by
  constructor
  · intro h
    rcases m.numbers_or_magnitude_none with ⟨first, digits, hm⟩ | hm
    · rw [hm.outOfRange_eq, decide_eq_true_iff] at h
      exact ⟨first, digits, hm, h⟩
    · rw [outOfRange, hm] at h
      cases h
  · rintro ⟨first, digits, hm, hrange⟩
    rw [hm.outOfRange_eq, decide_eq_true_iff]
    exact hrange

theorem outOfRange_zero : zero.outOfRange = false := by decide

/-- A number is used as it is written, with its sign, if and only if it is in the range. -/
theorem Numbers.toInt_value_eq_iff {m : Modifier} {first : Char} {digits : List Char}
    (h : m.Numbers first digits) :
    m.value.toInt = (if first = '-' then -(Text.value digits : Int) else Text.value digits) ↔
      m.outOfRange = false := by
  rw [h.toInt_value, h.outOfRange_eq, decide_eq_false_iff_not, Int.not_lt]
  by_cases hrange : Text.value digits ≤ Amount.greatest
  · rw [if_pos hrange]
    exact iff_of_true rfl hrange
  · rw [if_neg hrange]
    refine iff_of_false (fun hzero => ?_) hrange
    simp only [Amount.greatest] at hrange
    split at hzero <;> omega

end Modifier

/-- Performing a roll leaves a warning each time that its modifier is needed and out of range, and
then shows the outcome. -/
theorem Roll.reports_notices (r : Roll) (o : Outcome) :
    Notice.Reports (r.notices o) (r.modifierNotices ++ r.modifierNotices) (.rolled o) where
  eq_append := rfl
  level_warnings n hn := by
    rw [List.mem_append, or_self, modifierNotices] at hn
    split at hn
    · rw [List.mem_singleton.mp hn]
      rfl
    · cases hn
  level_last := rfl

theorem Roll.modifierNotices_eq_nil_iff {r : Roll} :
    r.modifierNotices = [] ↔ r.modifier.outOfRange = false := by
  rw [modifierNotices]
  cases r.modifier.outOfRange with
  | true => exact iff_of_false (List.cons_ne_nil _ _) Bool.noConfusion
  | false => exact iff_of_true rfl rfl

/-! ### Numbers that are used as they are written -/

namespace Expression

/-- Every number that the expression writes is the one that the roll has. -/
structure UsedAsWritten (e : Expression) (r : Roll) : Prop where
  part : ∀ part digits, e.written? part = some digits → digits ≠ [] →
    (r.part part).toNat = Text.value digits
  modifier : ∀ first digits, e.modifier? = some (first :: digits) → Text.isNumeral digits →
    r.modifier.value.toInt =
      if first = '-' then -(Text.value digits : Int) else Text.value digits

theorem numbers_modifier_roll {e : Expression} {first : Char} {digits : List Char}
    (h : e.modifier? = some (first :: digits)) (hd : Text.isNumeral digits) :
    e.roll.modifier.Numbers first digits where
  text := by rw [toList_modifier_roll, h, Option.getD_some]
  isNumeral := hd

theorem usedAsWritten_iff {e : Expression} : e.UsedAsWritten e.roll ↔
    e.warnings = [] ∧ e.roll.modifier.outOfRange = false := by
  rw [warnings_eq_nil_iff]
  constructor
  · intro h
    refine ⟨fun part digits hd hunusable => ?_, Bool.eq_false_iff.mpr fun hrange => ?_⟩
    · have hused := h.part part digits hd hunusable.1
      rw [toNat_part_roll, hd, Roll.Part.worth_eq_value_iff part hunusable.1] at hused
      exact hused hunusable
    · obtain ⟨first, digits, hm, hlarge⟩ := Modifier.outOfRange_iff.mp hrange
      cases hmodifier : e.modifier? with
      | none =>
          -- then the modifier is `+0`
          have hzero : e.roll.modifier = .zero := by rw [roll, hmodifier]; rfl
          rw [hzero, Modifier.outOfRange_zero] at hrange
          cases hrange
      | some m =>
          have htext := hm.text
          rw [toList_modifier_roll, hmodifier, Option.getD_some] at htext
          rw [htext] at hmodifier
          have hused := h.modifier first digits hmodifier hm.isNumeral
          rw [hm.toInt_value_eq_iff, hrange] at hused
          cases hused
  · rintro ⟨hwarnings, hrange⟩
    refine ⟨fun part digits hd hne => ?_, fun first digits hmodifier hd => ?_⟩
    · rw [toNat_part_roll, hd, Roll.Part.worth_eq_value_iff part hne]
      exact hwarnings part digits hd
    · exact (numbers_modifier_roll hmodifier hd).toInt_value_eq_iff.mpr hrange

end Expression

/-! ### Texts -/

/-- A roll that is read from a text warns when it is performed if and only if an operator has a
number out of range. -/
theorem modifierNotices_interpret_ne_nil_iff (text : String) :
    (interpret text).roll.modifierNotices ≠ [] ↔ ∃ operator digits,
      (interpret text).roll.modifier.Numbers operator digits ∧ Modifier.isOperator operator ∧
        Amount.greatest < Text.value digits := by
  rw [ne_eq, Roll.modifierNotices_eq_nil_iff, Bool.not_eq_false, Modifier.outOfRange_iff]
  constructor
  · rintro ⟨first, digits, hm, hrange⟩
    have hkind := kind_interpret_ne_unrecognized text
    rw [hm.kind_eq, Modifier.ofOperator_ne_unrecognized] at hkind
    exact ⟨first, digits, hm, hkind, hrange⟩
  · rintro ⟨operator, digits, hm, -, hrange⟩
    exact ⟨operator, digits, hm, hrange⟩

/-- Reading a text with an expression leaves the warnings of the expression. -/
theorem reports_interpret_of_find? {text : String} {o : Expression.Occurrence}
    (h : Expression.find? text.toList = some o) :
    Notice.Reports (interpret text).notices o.expression.warnings
      (.found (String.ofList o.expression.chars) (interpret text).roll) := by
  rw [interpret_of_find? h]
  exact o.expression.reports_interpretation

/-- Reading a text without an expression leaves no warning. -/
theorem reports_interpret_of_find?_eq_none {text : String}
    (h : Expression.find? text.toList = none) :
    Notice.Reports (interpret text).notices [] (.missing text) := by
  rw [interpret_of_find?_eq_none h]
  exact ⟨rfl, fun n hn => (nomatch hn), rfl⟩

/-- Reading a text and performing its roll leave no warning if and only if every number that is
written is used as it is written. -/
theorem forall_level_interpret_iff (text : String) (outcome : Outcome) :
    (∀ n ∈ (interpret text).notices ++ (interpret text).roll.notices outcome,
      n.level ≠ .warning) ↔
    ∀ o, Expression.find? text.toList = some o →
      o.expression.UsedAsWritten (interpret text).roll := by
  have hperformed := (interpret text).roll.reports_notices outcome
  cases hfind : Expression.find? text.toList with
  | none =>
      have hrange : (interpret text).roll.modifier.outOfRange = false := by
        rw [interpret_of_find?_eq_none hfind]
        exact Modifier.outOfRange_zero
      rw [(reports_interpret_of_find?_eq_none hfind).forall_level_append_iff hperformed,
        Roll.modifierNotices_eq_nil_iff.mpr hrange]
      exact iff_of_true ⟨rfl, rfl⟩ fun o h => (nomatch h)
  | some o =>
      have hused : o.expression.UsedAsWritten (interpret text).roll ↔
          o.expression.warnings = [] ∧ (interpret text).roll.modifier.outOfRange = false := by
        rw [interpret_of_find? hfind]
        exact Expression.usedAsWritten_iff
      rw [(reports_interpret_of_find? hfind).forall_level_append_iff hperformed,
        List.append_eq_nil_iff, and_self, Roll.modifierNotices_eq_nil_iff, ← hused]
      constructor
      · rintro h o' ho'
        obtain rfl := Option.some.inj ho'
        exact h
      · intro h
        exact h o rfl

variable {σ : Type} [FaceSource σ]

open Expression in
/-- **Notices account for substitutions.**  Reading a text with an expression warns of each unusable
count, in order, and then says what was read; a text without one is only said to have none.
Performing the roll warns if and only if an operator has a number out of range, and then shows the
outcome.  There is no warning at all if and only if every number that is written is used as it is
written. -/
theorem notices_account (text : String) (s : σ) :
    let reading := interpret text
    let outcome := (reading.roll.perform s).1
    (∀ o, find? text.toList = some o → Notice.Reports reading.notices o.expression.warnings
      (.found (String.ofList o.expression.chars) reading.roll)) ∧
    (find? text.toList = none → Notice.Reports reading.notices [] (.missing text)) ∧
    Notice.Reports (reading.roll.notices outcome)
      (reading.roll.modifierNotices ++ reading.roll.modifierNotices) (.rolled outcome) ∧
    (reading.roll.modifierNotices ≠ [] ↔ ∃ operator digits,
      reading.roll.modifier.Numbers operator digits ∧ Modifier.isOperator operator ∧
        Amount.greatest < Text.value digits) ∧
    (Notice.rolled outcome).message = outcome.written ∧
    ((∀ n ∈ reading.notices ++ reading.roll.notices outcome, n.level ≠ .warning) ↔
      ∀ o, find? text.toList = some o → o.expression.UsedAsWritten reading.roll) := by
  intro reading outcome
  exact ⟨fun o h => reports_interpret_of_find? h, fun h => reports_interpret_of_find?_eq_none h,
    reading.roll.reports_notices outcome, modifierNotices_interpret_ne_nil_iff text, rfl,
    forall_level_interpret_iff text outcome⟩

/-- A count of zero, one that is too large and a modifier out of range, beside a number that is used
as it is written; and a text without an expression. -/
theorem notices_account_of_each_substitution :
    let text := "0 x 05d4294967296-9223372036854775808"
    let e : Expression := ⟨some ⟨['0'], [' '], 'x', [' ']⟩, ['0', '5'], 'd',
      "4294967296".toList, some "-9223372036854775808".toList⟩
    Expression.find? text.toList = some ⟨[], e, []⟩ ∧
    Notice.Reports (interpret text).notices
      [.zeroCount .repeats, .largeCount .sides "4294967296".toList]
      (.found (String.ofList e.chars) (interpret text).roll) ∧
    ¬ e.UsedAsWritten (interpret text).roll ∧
    Expression.find? "hello".toList = none ∧
    Notice.Reports (interpret "hello").notices [] (.missing "hello") := by
  intro text e
  have hfind : Expression.find? text.toList = some ⟨[], e, []⟩ := by decide
  have hnone : Expression.find? "hello".toList = none := by decide
  have hwarnings : e.warnings = [.zeroCount .repeats, .largeCount .sides "4294967296".toList] := by
    decide
  obtain ⟨hread, -, -, -, -, hused⟩ := notices_account text (Script.ofFaces [3])
  obtain ⟨-, hmissing, -⟩ := notices_account "hello" (Script.ofFaces [3])
  have hreports := hread _ hfind
  refine ⟨hfind, by rwa [← hwarnings], fun hwritten => ?_, hnone, hmissing hnone⟩
  -- the first warning would not be there
  refine hused.mpr (fun o ho => ?_) (.zeroCount .repeats) ?_ rfl
  · rw [hfind] at ho
    cases ho
    exact hwritten
  · rw [hreports.eq_append]
    refine List.mem_append_left _ (List.mem_append_left _ ?_)
    rw [hwarnings]
    exact List.mem_cons_self

end TabletopDice
