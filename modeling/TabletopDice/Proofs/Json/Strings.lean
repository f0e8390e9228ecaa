import TabletopDice.Proofs.Json.Reads

/-!
# Json — strings

The steps of reading a string follow the ways in which a character may stand in it: as itself, by a
letter, by its code, or by the codes of a pair of halves (`LiteralOf`).  Each takes one step, which
gives the character; so reading up to the closing quote is an induction on the literal
(`run_stringTail`).  Passing over a string goes the same way, with a step for each code
(`run_stringTailSkipped`).

What is written of a string is a literal of it (`literalOf_escaped`), and so it is read back.
-/

namespace TabletopDice.Json

open Reader

/-! ### Escapes -/

theorem escapedLetter?_of_mem : ∀ p ∈ escapeLetters, p.1 ≠ 'u' ∧ escapedLetter? p.1 = some p.2 := by
  decide

theorem hexDigit?_digitChar : ∀ d < 16, hexDigit? (Nat.digitChar d) = some d ∧
    hexDigit? (Nat.digitChar d).toUpper = some d := by decide

theorem HexDigit.eq_some {c : Char} {d : Nat} (h : HexDigit c d) : hexDigit? c = some d := by
  obtain ⟨hd, rfl | rfl⟩ := h
  · exact (hexDigit?_digitChar d hd).1
  · exact (hexDigit?_digitChar d hd).2

theorem hexDigit_digitChar {d : Nat} (h : d < 16) : HexDigit (Nat.digitChar d) d := ⟨h, .inl rfl⟩

/-- The four digits of an escape give its number. -/
theorem CodeEscape.run_hexEscape {es : List Char} {n : Nat} (h : CodeEscape es n) :
    ∃ digits, es = '\\' :: 'u' :: digits ∧
      ∀ rest, hexEscape.run (digits ++ rest) = .ok (n, rest) := by
  cases h with
  | @mk a b c d i j k l ha hb hc hd =>
      refine ⟨[a, b, c, d], rfl, fun rest => ?_⟩
      have hvalue : hexValue? a b c d = some (((i * 16 + j) * 16 + k) * 16 + l) := by
        simp [hexValue?, ha.eq_some, hb.eq_some, hc.eq_some, hd.eq_some]
      simp [hexEscape, hvalue]

/-- The code of a character gives the character: it is no half of a pair. -/
theorem run_escape_code {c : Char} {digits rest : List Char}
    (h : hexEscape.run (digits ++ rest) = .ok (c.toNat, rest)) :
    escape.run ('u' :: (digits ++ rest)) = .ok (c, rest) := by
  have hvalid : c.toNat < 0xD800 ∨ 0xDFFF < c.toNat ∧ c.toNat < 0x110000 := c.valid
  rw [escape, run_peek_cons, if_pos rfl, run_skipThen_cons]
  refine run_andThen_of_done h ?_
  rw [if_neg (by omega), if_neg (by omega), Char.ofNat_toNat]

/-- The codes of the halves of a pair give its character. -/
theorem run_escape_pair {c : Char} (hc : 0x10000 ≤ c.toNat) {digits digits' rest : List Char}
    (h : ∀ rest, hexEscape.run (digits ++ rest) =
      .ok (0xD800 + (c.toNat - 0x10000) / 0x400, rest))
    (h' : hexEscape.run (digits' ++ rest) = .ok (0xDC00 + (c.toNat - 0x10000) % 0x400, rest)) :
    escape.run ('u' :: (digits ++ '\\' :: 'u' :: (digits' ++ rest))) = .ok (c, rest) := by
  have hvalid : c.toNat < 0xD800 ∨ 0xDFFF < c.toNat ∧ c.toNat < 0x110000 := c.valid
  obtain ⟨high, hhigh⟩ : ∃ high, high = 0xD800 + (c.toNat - 0x10000) / 0x400 := ⟨_, rfl⟩
  obtain ⟨low, hlow⟩ : ∃ low, low = 0xDC00 + (c.toNat - 0x10000) % 0x400 := ⟨_, rfl⟩
  have hback : 0x10000 + (high - 0xD800) * 0x400 + (low - 0xDC00) = c.toNat := by omega
  rw [← hhigh] at h
  rw [← hlow] at h'
  have htail : (pairTail high).run ('\\' :: 'u' :: (digits' ++ rest)) = .ok (c, rest) := by
    refine (run_bind_of_ok (a := ()) rfl _).trans (run_andThen_of_done h' ?_)
    rw [if_pos (by omega), hback, Char.ofNat_toNat]
  rw [escape, run_peek_cons, if_pos rfl, run_skipThen_cons, run_andThen, h]
  dsimp only
  rw [if_neg (by omega), if_pos (by omega)]
  exact htail

theorem run_escape_letter {p : Char × Char} (h : p ∈ escapeLetters) (rest : List Char) :
    escape.run (p.1 :: rest) = .ok (p.2, rest) := by
  obtain ⟨hu, hletter⟩ := escapedLetter?_of_mem p h
  rw [escape, run_peek_cons, if_neg hu, run_char_cons, hletter]

/-! ### Reading -/

theorem run_stringStep_plain {c : Char} (h : IsPlain c) (read rest : List Char) :
    (stringStep read).run (c :: rest) = .ok (.again (c :: read), rest) := by
  rw [stringStep, run_peek_cons, if_neg h.not_quote, if_neg h.not_backslash, if_neg h.not_control,
    run_skipTo_cons]

theorem run_stringStep_escape {cs rest : List Char} {c : Char} (h : escape.run cs = .ok (c, rest))
    (read : List Char) :
    (stringStep read).run ('\\' :: cs) = .ok (.again (c :: read), rest) := by
  rw [stringStep, run_peek_cons, if_neg (by decide), if_pos rfl, run_skipThen_cons]
  exact run_map_of_ok h _

theorem run_loop_stringStep {cs text : List Char} (h : LiteralOf cs text) (read rest : List Char) :
    (loop stringStep read).run (cs ++ '"' :: rest) = .ok (read.reverse ++ text, rest) := by
  -- one step for a character, and the others by induction
  have hstep : ∀ {c : Char} {cs tail text read : List Char},
      (stringStep read).run cs = .ok (.again (c :: read), tail) →
      (loop stringStep (c :: read)).run tail = .ok ((c :: read).reverse ++ text, rest) →
      (loop stringStep read).run cs = .ok (read.reverse ++ c :: text, rest) := by
    intro c cs tail text read hs htail
    rw [run_loop, hs]
    dsimp only
    rw [htail, List.reverse_cons, List.append_assoc, List.singleton_append]
  induction h generalizing read with
  | nil =>
      rw [run_loop, List.nil_append, stringStep, run_peek_cons, if_pos rfl, run_skipTo_cons,
        List.append_nil]
  | plain hc _ ih => exact hstep (run_stringStep_plain hc read _) (ih _)
  | letter hl _ ih => exact hstep (run_stringStep_escape (run_escape_letter hl _) read) (ih _)
  | code he _ ih =>
      obtain ⟨digits, rfl, hdigits⟩ := he.run_hexEscape
      rw [List.append_assoc]
      exact hstep (run_stringStep_escape (run_escape_code (hdigits _)) read) (ih _)
  | pair hc he he' _ ih =>
      obtain ⟨digits, rfl, hdigits⟩ := he.run_hexEscape
      obtain ⟨digits', rfl, hdigits'⟩ := he'.run_hexEscape
      rw [List.append_assoc, List.append_assoc]
      exact hstep (run_stringStep_escape (run_escape_pair hc hdigits (hdigits' _)) read) (ih _)

/-- **Strings.**  A string is read after its opening quote as the text that it stands for. -/
theorem run_stringTail {cs text : List Char} (h : LiteralOf cs text) (rest : List Char) :
    stringTail.run (cs ++ '"' :: rest) = .ok (text, rest) := by
  rw [stringTail, run_loop_stringStep h, List.reverse_nil, List.nil_append]

/-! ### Passing over -/

theorem run_escapeSkipped_code {es rest : List Char} {n : Nat} (h : CodeEscape es n) :
    ∃ tail, es = '\\' :: tail ∧ escapeSkipped.run (tail ++ rest) = .ok ((), rest) := by
  obtain ⟨digits, rfl, hdigits⟩ := h.run_hexEscape
  refine ⟨'u' :: digits, rfl, ?_⟩
  rw [List.cons_append, escapeSkipped, run_peek_cons, if_pos rfl, run_skipThen_cons]
  exact run_map_of_ok (hdigits rest) _

theorem run_escapeSkipped_letter {p : Char × Char} (h : p ∈ escapeLetters) (rest : List Char) :
    escapeSkipped.run (p.1 :: rest) = .ok ((), rest) := by
  obtain ⟨hu, hletter⟩ := escapedLetter?_of_mem p h
  rw [escapeSkipped, run_peek_cons, if_neg hu, run_char_cons, hletter]
  rfl

theorem run_stringStepSkipped_escape {cs rest : List Char}
    (h : escapeSkipped.run cs = .ok ((), rest)) :
    stringStepSkipped.run ('\\' :: cs) = .ok (.again (), rest) := by
  rw [stringStepSkipped, run_peek_cons, if_neg (by decide), if_pos rfl, run_skipThen_cons]
  exact run_map_of_ok h _

/-- A string is passed over after its opening quote. -/
theorem run_stringTailSkipped {cs : List Char} (h : IsLiteral cs) (rest : List Char) :
    stringTailSkipped.run (cs ++ '"' :: rest) = .ok ((), rest) := by
  rw [stringTailSkipped]
  induction h with
  | nil => rw [run_loop]; rfl
  | plain hc _ ih =>
      rw [run_loop, List.cons_append, stringStepSkipped, run_peek_cons, if_neg hc.not_quote,
        if_neg hc.not_backslash, if_neg hc.not_control, run_skipTo_cons]
      exact ih
  | letter hl _ ih =>
      rw [run_loop, List.cons_append, List.cons_append,
        run_stringStepSkipped_escape (run_escapeSkipped_letter hl _)]
      exact ih
  | code he _ ih =>
      obtain ⟨tail, rfl, htail⟩ := run_escapeSkipped_code he
      rw [run_loop, List.append_assoc, List.cons_append, run_stringStepSkipped_escape htail]
      exact ih

/-! ### What is written -/

/-- A character is written by a letter, by its code or as itself. -/
theorem escapedChar_cases (c : Char) :
    (∃ letter, escapedChar c = ['\\', letter] ∧ (letter, c) ∈ escapeLetters) ∨
    CodeEscape (escapedChar c) c.toNat ∨ (IsPlain c ∧ escapedChar c = [c]) := by
  by_cases hletter : c ∈ ['"', '\\', '\x08', '\x0c', '\n', '\r', '\t']
  · left
    simp only [List.mem_cons, List.not_mem_nil, or_false] at hletter
    rcases hletter with rfl | rfl | rfl | rfl | rfl | rfl | rfl <;>
      exact ⟨_, rfl, by decide⟩
  · right
    simp only [List.mem_cons, List.not_mem_nil, or_false, not_or] at hletter
    obtain ⟨hquote, hbackslash, hb, hf, hn, hr, ht⟩ := hletter
    rw [escapedChar, if_neg (not_or.mpr ⟨hquote, hbackslash⟩), if_neg hb, if_neg hf, if_neg hn,
      if_neg hr, if_neg ht]
    by_cases hcontrol : c.toNat < 0x20
    · have hzero : HexDigit '0' 0 := hexDigit_digitChar (by decide)
      have hcode := CodeEscape.mk hzero hzero (hexDigit_digitChar (d := c.toNat / 16) (by omega))
        (hexDigit_digitChar (d := c.toNat % 16) (by omega))
      have hvalue : ((0 * 16 + 0) * 16 + c.toNat / 16) * 16 + c.toNat % 16 = c.toNat := by omega
      rw [hvalue] at hcode
      rw [if_pos hcontrol]
      exact .inl hcode
    · rw [if_neg hcontrol]
      exact .inr ⟨⟨hquote, hbackslash, hcontrol⟩, rfl⟩

/-- What is written of a text is a literal of it. -/
theorem literalOf_escaped (text : List Char) : LiteralOf (text.flatMap escapedChar) text := by
  induction text with
  | nil => exact .nil
  | cons c text ih =>
      rw [List.flatMap_cons]
      rcases escapedChar_cases c with ⟨letter, hc, hletter⟩ | hcode | ⟨hplain, hc⟩
      · rw [hc]
        exact .letter hletter ih
      · exact .code hcode ih
      · rw [hc]
        exact .plain hplain ih

theorem writeString_append (text : String) (rest : List Char) :
    writeString text ++ rest = '"' :: (text.toList.flatMap escapedChar ++ '"' :: rest) := by
  rw [writeString, List.cons_append, List.cons_append, List.append_assoc]
  rfl

/-- A member whose key is written without blanks after it. -/
theorem memberOf_writeString (name : String) (value : List Char) :
    MemberOf (LiteralOf · name.toList) value (writeString name ++ ':' :: value) := by
  have hmember : MemberOf (LiteralOf · name.toList) value _ :=
    .mk (literalOf_escaped _) blank_nil blank_nil
  rwa [List.nil_append, List.nil_append, ← writeString_append] at hmember

end TabletopDice.Json
