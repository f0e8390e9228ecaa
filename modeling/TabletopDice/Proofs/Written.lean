import TabletopDice.Interpretation
import TabletopDice.Proofs.DieLetter

/-!
# Rolls — reading back what is written

A roll is written as an expression with all of its parts (`Roll.expression`).  Such an expression is
found again inside other text if three things hold: no `d` stands before it, no digit stands
directly before it, and no digit stands directly after it (`find?_full`).

What stands before may well look like the beginning of an expression.  But a word that began there
would have to reach the first `d`, with digits, blanks and a single `x` on its way: the digits of
its repetition would go on into the digits of the other one, from a character that is no digit
(`isDigit_of_lead_append`).  After the expression only digits could make the modifier longer
(`Modifier.Written.scan?_before`).

**What is written is read back** (`interpret_written`): around a roll whose modifier has a
recognized kind, a text like that is read as the roll.
-/

namespace TabletopDice

/-! ### Modifiers with a recognized kind -/

theorem isNumeral_iff {cs : List Char} :
    Text.isNumeral cs ↔ cs ≠ [] ∧ ∀ c ∈ cs, c.isDigit := by
  rw [Text.isNumeral, Bool.and_eq_true, Bool.not_eq_true', List.isEmpty_eq_false_iff,
    List.all_eq_true]

namespace Modifier

theorem ofOperator_ne_unrecognized {c : Char} :
    Kind.ofOperator c ≠ .unrecognized ↔ isOperator c := by
  grind [Kind.ofOperator, isOperator]

theorem ofMarker_ne_unrecognized {sign letter : Char} :
    Kind.ofMarker sign letter ≠ .unrecognized ↔ isSign sign ∧ isMarkerLetter letter := by
  grind [Kind.ofMarker, isSign, isMarkerLetter]

/-- A modifier has a recognized kind if and only if it is a word of the grammar. -/
theorem kind_ne_unrecognized_iff {m : Modifier} :
    m.kind ≠ .unrecognized ↔ Written m.text.toList := by
  rw [kind]
  cases m.text.toList with
  | nil => exact ⟨fun h => absurd rfl h, fun h => (nomatch h)⟩
  | cons first rest =>
      dsimp only
      cases hn : Text.isNumeral rest with
      | true =>
          obtain ⟨hne, hd⟩ := isNumeral_iff.mp hn
          rw [if_pos rfl, ofOperator_ne_unrecognized]
          constructor
          · intro h
            exact .number h hne hd
          · intro h
            cases h with
            | number h _ _ => exact h
            | marker hs _ => exact isOperator_of_isSign hs
      | false =>
          rw [if_neg Bool.false_ne_true]
          constructor
          · intro h
            split at h
            · rename_i letter
              obtain ⟨hs, hl⟩ := ofMarker_ne_unrecognized.mp h
              exact .marker hs hl
            · exact absurd rfl h
          · intro h
            cases h with
            | number _ hne hd => rw [isNumeral_iff.mpr ⟨hne, hd⟩] at hn; cases hn
            | marker hs hl => exact ofMarker_ne_unrecognized.mpr ⟨hs, hl⟩

/-- A modifier is scanned as it is written, up to a character that is no digit. -/
theorem Written.scan?_before {m : List Char} (h : Written m) {rest : List Char}
    (hrest : ∀ c ∈ rest.head?, c.isDigit = false) : scan? (m ++ rest) = some (m, rest) := by
  cases h with
  | number h ne hd =>
      obtain ⟨htake, hdrop⟩ := span_run (fun c (hc : c ∈ []) => (nomatch hc)) hrest
      rw [List.nil_append] at htake hdrop
      rw [scan?_number h ne hd, htake, hdrop, List.append_nil]
  | marker hs hl => exact scan?_marker hs hl rest

end Modifier

/-! ### Expressions with all parts -/

namespace Expression

/-- An expression with a modifier is read as it is written, up to a character that is no digit. -/
theorem read?_full {e : Expression} (he : e.WellFormed) {m : List Char} (hm : e.modifier? = some m)
    {after : List Char} (hafter : ∀ c ∈ after.head?, c.isDigit = false) :
    read? (e.chars ++ after) = some (e, after) := by
  obtain ⟨htake, hdrop⟩ := he.tail_run hm after
  have hscan := (he.modifier m hm).scan?_before hafter
  rw [← head_append_tail, List.append_assoc, he.read?_head, hdrop, readModifier_some hscan,
    continued, htake, hdrop, readModifier_some hscan, ← hm]

/-- What is written before the `d` of an expression with a repetition, split at the `x`. -/
theorem lead_eq_cross {e : Expression} {r : Repetition} (hr : e.repetition? = some r) :
    e.lead = (r.digits ++ r.before) ++ r.cross :: (r.after ++ e.dice) := by
  simp only [lead, hr, Option.map_some, Option.getD_some, Repetition.chars, List.append_assoc,
    List.cons_append]

theorem not_isCross_of_isDigit {c : Char} (h : c.isDigit) : Expression.isCross c = false :=
  not_mem_class_symm (fun _ hc => (isCross_class hc).1) c h

theorem not_isCross_of_isWhitespace {c : Char} (h : c.isWhitespace) :
    Expression.isCross c = false :=
  not_mem_class_symm (fun _ hc => (isCross_class hc).2) c h

/-- No `x` stands between the `x` of a repetition and the `d`. -/
theorem not_isCross_after {e : Expression} (he : e.WellFormed) {r : Repetition}
    (hr : e.repetition? = some r) : ∀ c ∈ r.after ++ e.dice, Expression.isCross c = false := by
  intro c hc
  rcases List.mem_append.mp hc with hc | hc
  · exact not_isCross_of_isWhitespace ((he.repetition r hr).after_isBlank c hc)
  · exact not_isCross_of_isDigit (he.dice_isDigit c hc)

/-- An expression that writes more before its `d` than one with a repetition writes only digits
more. -/
theorem isDigit_of_lead_append {e e' : Expression} (he : e.WellFormed) (he' : e'.WellFormed)
    {r : Repetition} (hr : e.repetition? = some r) {front : List Char}
    (hlead : e'.lead = front ++ e.lead) : ∀ c ∈ front, c.isDigit := by
  have hwf := he.repetition r hr
  rw [lead_eq_cross hr, ← List.append_assoc] at hlead
  cases hr' : e'.repetition? with
  | none =>
      -- without a repetition there are only digits before the `d`, and `r.cross` is none
      have hlead' : e'.lead = e'.dice := by rw [lead, hr']; rfl
      have hcross : r.cross.isDigit := by
        refine he'.dice_isDigit r.cross ?_
        rw [← hlead', hlead]
        simp
      rw [(isCross_class hwf.isCross).1] at hcross
      cases hcross
  | some r' =>
      have hwf' := he'.repetition r' hr'
      rw [lead_eq_cross hr'] at hlead
      -- both have the last `x` before the `d`
      obtain ⟨hfront, -, -⟩ := split_last_unique (not_isCross_after he' hr') hwf'.isCross
        (not_isCross_after he hr) hwf.isCross hlead
      rcases List.append_eq_append_iff.mp hfront with ⟨blanks, -, hblanks⟩ | ⟨more, hmore, -⟩
      · -- a digit of `r` would be a blank of `r'`
        obtain ⟨c, hc⟩ := List.exists_mem_of_ne_nil r.digits hwf.digits_ne_nil
        have hblank : c.isWhitespace := by
          refine hwf'.before_isBlank c ?_
          rw [hblanks]
          simp [hc]
        have hdigit := hwf.isDigit c hc
        rw [not_isDigit_of_isWhitespace hblank] at hdigit
        cases hdigit
      · intro c hc
        refine hwf'.isDigit c ?_
        rw [hmore]
        exact List.mem_append_left more hc

/-- **Inside other text.**  An expression with a repetition and a modifier is the first one of a
text, if no `d` stands before it and no digit stands directly before or after it. -/
theorem find?_full {e : Expression} (he : e.WellFormed) {r : Repetition}
    (hr : e.repetition? = some r) {m : List Char} (hm : e.modifier? = some m)
    {before after : List Char} (hbefore : ∀ c ∈ before, Expression.isDie c = false)
    (hlast : ∀ c ∈ before.getLast?, c.isDigit = false)
    (hafter : ∀ c ∈ after.head?, c.isDigit = false) :
    find? (before ++ e.chars ++ after) = some ⟨before, e, after⟩ := by
  rw [find?_eq_some_iff_read?]
  rw [List.append_assoc]
  refine ⟨?_, ?_, fun k hk => ?_⟩
  · rw [List.take_left]
  · rw [List.drop_left]
    exact read?_full he hm hafter
  · -- a word that begins before the expression has its `d` where the expression has it
    rw [read?_eq_none_iff]
    rintro word ⟨e', he', rfl⟩ ⟨rest, hrest⟩
    have hsplit : (before ++ (e.chars ++ after)).drop k =
        (before.drop k ++ e.lead) ++ e.die :: (e.tail ++ after) := by
      rw [List.drop_append_of_le_length (Nat.le_of_lt hk), ← lead_append e, List.append_assoc,
        List.append_assoc, List.cons_append]
    have hfront : ∀ c ∈ before.drop k ++ e.lead, Expression.isDie c = false := by
      intro c hc
      rcases List.mem_append.mp hc with hc | hc
      · exact hbefore c (List.mem_of_mem_drop hc)
      · exact not_isDie_of_mem_lead he hc
    have hlead := lead_eq_of_first_die he' hfront he.isDie (hrest.trans hsplit)
    -- so there are only digits between its beginning and the expression
    have hdigits := isDigit_of_lead_append he he' hr hlead
    cases hc : (before.drop k).getLast? with
    | none =>
        have hle := List.drop_eq_nil_iff.mp (List.getLast?_eq_none_iff.mp hc)
        exact absurd hk (Nat.not_lt.mpr hle)
    | some c =>
        have hdigit := hdigits c (List.mem_of_getLast? hc)
        rw [List.getLast?_drop, if_neg (Nat.not_le.mpr hk)] at hc
        rw [hlast c hc] at hdigit
        cases hdigit

end Expression

/-! ### Rolls -/

/-- A count is read back from its numeral. -/
theorem Count.read_natural (c : Count) : Count.read (Text.natural c.toNat) = .count c := by
  have hne : Text.natural c.toNat ≠ [] := Nat.toDigits_ne_nil
  have hvalue := Text.ofDigitChars_natural c.toNat
  rw [Count.read, if_neg hne]
  simp only [hvalue, c.toNat_pos, c.toNat_lt, dite_true]
  rw [Reading.count.injEq, ← Count.toNat_inj, Count.toNat_ofNat]

namespace Roll

/-- The expression with all parts that says a roll. -/
def expression (r : Roll) : Expression where
  repetition? := some ⟨Text.natural r.repeats.toNat, [], 'x', []⟩
  dice := Text.natural r.dice.toNat
  die := 'd'
  sides := Text.natural r.sides.toNat
  modifier? := some r.modifier.text.toList

theorem chars_expression (r : Roll) : r.expression.chars = r.chars := by
  simp [expression, Expression.chars, Expression.Repetition.chars, chars]

theorem wellFormed_expression {r : Roll} (h : r.modifier.kind ≠ .unrecognized) :
    r.expression.WellFormed where
  repetition := by
    rintro _ ⟨⟩
    exact ⟨Nat.toDigits_ne_nil, fun c => Text.isDigit_of_mem_natural, fun c hc => (nomatch hc), rfl,
      fun c hc => (nomatch hc)⟩
  dice_isDigit c := Text.isDigit_of_mem_natural
  isDie := rfl
  sides_isDigit c := Text.isDigit_of_mem_natural
  modifier := by
    rintro _ ⟨⟩
    exact Modifier.kind_ne_unrecognized_iff.mp h

/-- The expression of a roll says the roll. -/
theorem roll_expression (r : Roll) :
    r.expression.roll = { r with excerpt := some r.written } := by
  have hcount : ∀ (part : Part) (c : Count), part.count (Text.natural c.toNat) = c := by
    intro part c
    rw [Part.count, Count.read_natural, Count.Reading.getD]
  rw [Expression.roll, chars_expression]
  refine Roll.ext (hcount .repeats _) (hcount .dice _) (hcount .sides _) ?_ rfl
  rw [Modifier.ext_iff]
  exact String.ofList_toList

/-- **What is written is read back.**  A roll whose modifier has a recognized kind is read from a
text in which it is written in full, whatever else the text holds, if no `d` stands before it and no
digit stands directly before or after it. -/
theorem interpret_written (r : Roll) (before after : String)
    (hkind : r.modifier.kind ≠ .unrecognized)
    (hbefore : 'd' ∉ before.toList ∧ 'D' ∉ before.toList)
    (hlast : ∀ c ∈ before.toList.getLast?, c.isDigit = false)
    (hafter : ∀ c ∈ after.toList.head?, c.isDigit = false) :
    (interpret (before ++ r.written ++ after)).roll = { r with excerpt := some r.written } := by
  have htext : (before ++ r.written ++ after).toList =
      before.toList ++ r.expression.chars ++ after.toList := by
    rw [String.toList_append, String.toList_append, written, String.toList_ofList,
      chars_expression]
  have hdie := Expression.forall_not_isDie_iff.mpr hbefore
  have hfind := Expression.find?_full (wellFormed_expression hkind) rfl rfl hdie hlast hafter
  rw [interpret, interpret?, htext, hfind, Option.map_some, Option.getD_some,
    Expression.interpretation, roll_expression]

/-- A roll with as many repetitions as there can be and a modifier out of range. -/
def longRoll : Roll := ofWords 4294967295 1 20 "-00018446744073709551616"

/-- What stands before could begin an expression, and another expression follows. -/
theorem interpret_written_longRoll : longRoll.modifier.kind ≠ .unrecognized ∧
    ('d' ∉ "7 x x 5x ".toList ∧ 'D' ∉ "7 x x 5x ".toList) ∧
    (∀ c ∈ "7 x x 5x ".toList.getLast?, c.isDigit = false) ∧
    (∀ c ∈ "x2d6".toList.head?, c.isDigit = false) ∧
    (interpret ("7 x x 5x " ++ longRoll.written ++ "x2d6")).roll =
      { longRoll with excerpt := some longRoll.written } := by
  have hkind : longRoll.modifier.kind ≠ .unrecognized := by decide
  have hbefore : 'd' ∉ "7 x x 5x ".toList ∧ 'D' ∉ "7 x x 5x ".toList := by decide
  have hlast : ∀ c ∈ "7 x x 5x ".toList.getLast?, c.isDigit = false := by
    intro c hc
    obtain rfl : ' ' = c := Option.some.inj hc
    rfl
  have hafter : ∀ c ∈ "x2d6".toList.head?, c.isDigit = false := by
    intro c hc
    obtain rfl : 'x' = c := Option.some.inj hc
    rfl
  exact ⟨hkind, hbefore, hlast, hafter, interpret_written _ _ _ hkind hbefore hlast hafter⟩

end Roll

end TabletopDice
