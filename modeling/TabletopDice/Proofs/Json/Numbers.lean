import TabletopDice.Proofs.Json.Reads
import TabletopDice.Proofs.Runs

/-!
# Json — numbers

The digits before the point end where no digit follows, and so do those after it and those of an
exponent; what delimits a number is neither a digit nor the beginning of one of these parts.  So a
number of any form is passed over up to its end (`run_numberSkipped`).

A whole number is written as its decimal numeral.  The numeral has no superfluous zero in front
(`natural_eq_cons`), so all of its digits are taken for the whole part.

The digits are then added up while their value fits 64 bits.  A prefix of a numeral denotes no more
than the numeral, so this goes on to the last digit of every number that fits (`absorb_eq`), and
what is read is that number (`run_number`).
-/

namespace TabletopDice.Json

open Reader

/-! ### Numerals -/

theorem digitChar_ne_zero : ∀ d < 10, 0 < d → Nat.digitChar d ≠ '0' := by decide

/-- The numeral of a positive number does not begin with a zero. -/
theorem natural_eq_cons {n : Nat} (h : 0 < n) :
    ∃ c cs, Text.natural n = c :: cs ∧ c ≠ '0' := by
  induction n using Nat.strongRecOn with
  | ind n ih =>
      rw [Text.natural, Nat.toDigits_eq_if (by decide)]
      by_cases hn : n < 10
      · rw [if_pos hn]
        exact ⟨_, [], rfl, digitChar_ne_zero n hn h⟩
      · rw [if_neg hn]
        obtain ⟨c, cs, hcs, hc⟩ := ih (n / 10) (by omega) (by omega)
        rw [Text.natural] at hcs
        rw [hcs]
        exact ⟨c, _, rfl, hc⟩

theorem endsValue_class {c : Char} (h : endsValue c) :
    c.isDigit = false ∧ c ≠ '.' ∧ c ≠ 'e' ∧ c ≠ 'E' := by
  simp only [endsValue, Char.isWhitespace, Bool.or_eq_true, decide_eq_true_eq] at h
  rcases h with (((((rfl | rfl) | rfl) | rfl) | rfl) | rfl) | rfl <;> decide

theorem not_endsValue_of_isDigit {c : Char} (h : c.isDigit) : endsValue c = false :=
  not_mem_class_symm (fun _ hc => (endsValue_class hc).1) c h

theorem natural_eq_digit_cons (n : Nat) : ∃ c cs, Text.natural n = c :: cs ∧ c.isDigit := by
  obtain ⟨c, cs, hcs⟩ := List.exists_cons_of_ne_nil (Nat.toDigits_ne_nil (n := n) (b := 10))
  refine ⟨c, cs, hcs, Text.isDigit_of_mem_natural (n := n) ?_⟩
  rw [Text.natural, hcs]
  exact List.mem_cons_self

/-- A numeral begins with nothing but a digit. -/
theorem head?_natural_ne {c : Char} (hc : c.isDigit = false) (n : Nat) :
    (Text.natural n).head? ≠ some c := by
  obtain ⟨d, ds, hds, hd⟩ := natural_eq_digit_cons n
  rw [hds]
  rintro ⟨⟩
  exact absurd hd (by rw [hc]; exact Bool.false_ne_true)

/-! ### Reading a numeral -/

/-- What does not begin with the optional part is read without it. -/
theorem run_optionally_of_not_begins {α β : Type} {x : Reader α} {y : Reader β}
    {begins : Char → Bool} {s r : List Char} {a : α} (h : x.run s = .ok (a, r))
    (hr : ∀ c ∈ r.head?, begins c = false) :
    (x.optionally begins y).run s = .ok ((a, none), r) := by
  rw [optionally]
  dsimp only
  rw [h]
  cases r with
  | nil => rfl
  | cons c r =>
      dsimp only
      rw [hr c rfl]
      rfl

theorem run_optionally_of_begins {α β : Type} {x : Reader α} {y : Reader β}
    {begins : Char → Bool} {s r r' : List Char} {a : α} {b : β} {c : Char}
    (h : x.run s = .ok (a, c :: r)) (hc : begins c) (hy : y.run (c :: r) = .ok (b, r')) :
    (x.optionally begins y).run s = .ok ((a, some b), r') := by
  rw [optionally]
  dsimp only
  rw [h]
  dsimp only
  rw [if_pos hc, hy]

theorem run_digits (cut : Fault) {ds rest : List Char} (hds : IsDigits ds)
    (hrest : ∀ c ∈ rest.head?, c.isDigit = false) :
    (Numeral.digits cut).run (ds ++ rest) = .ok (ds, rest) := by
  obtain ⟨d, ds, rfl⟩ := List.exists_cons_of_ne_nil hds.not_nil
  obtain ⟨htake, hdrop⟩ := span_run (fun c hc => hds.digit c (List.mem_cons_of_mem d hc)) hrest
  rw [Numeral.digits, many]
  dsimp only [List.cons_append]
  rw [if_pos (hds.digit d List.mem_cons_self), htake, hdrop]

/-- The digits before the point end where no digit follows. -/
theorem run_wholeDigits (cut : Fault) {ds rest : List Char} (hds : IsWhole ds)
    (hrest : ∀ c ∈ rest.head?, c.isDigit = false) :
    (Numeral.wholeDigits cut).run (ds ++ rest) = .ok (ds, rest) := by
  rcases hds.no_zero with rfl | hzero
  · rw [List.singleton_append, Numeral.wholeDigits, run_peek_cons, if_pos rfl]
    exact run_map_of_ok (run_optionally_of_not_begins (run_skipTo_cons _ _ _) hrest) Prod.fst
  · have hrun := run_digits cut hds.toIsDigits hrest
    obtain ⟨d, ds, rfl⟩ := List.exists_cons_of_ne_nil hds.not_nil
    have hd : d ≠ '0' := fun h => hzero (congrArg some h)
    rw [List.cons_append, Numeral.wholeDigits, run_peek_cons, if_neg hd]
    exact hrun

/-! ### Passing over a number -/

/-- No part of a number that is before its exponent goes on into the exponent. -/
theorem IsExponent.head_class {exponent rest : List Char} (h : IsExponent exponent)
    (hrest : Delimits rest) :
    ∀ c ∈ (exponent ++ rest).head?, c.isDigit = false ∧ decide (c = '.') = false := by
  cases h with
  | none => exact fun c hc => by simp [endsValue_class (hrest c hc)]
  | digits he _ _ =>
      rintro c ⟨⟩
      simp only [List.mem_cons, List.not_mem_nil, or_false] at he
      rcases he with rfl | rfl <;> decide

theorem IsFraction.head_class {fraction tail : List Char} (h : IsFraction fraction)
    (htail : ∀ c ∈ tail.head?, c.isDigit = false) :
    ∀ c ∈ (fraction ++ tail).head?, c.isDigit = false := by
  cases h with
  | none => exact htail
  | digits _ =>
      rintro c ⟨⟩
      rfl

/-- A fraction, or none, is read after `x`. -/
theorem IsFraction.run_optionally {fraction tail s : List Char} (h : IsFraction fraction)
    (htail : ∀ c ∈ tail.head?, c.isDigit = false ∧ decide (c = '.') = false) (cut : Fault)
    {α : Type} {x : Reader α} {a : α} (hx : x.run s = .ok (a, fraction ++ tail)) :
    ∃ fraction?, (x.optionally (· = '.') (.skipThen (Numeral.digits cut))).run s =
      .ok ((a, fraction?), tail) := by
  cases h with
  | none => exact ⟨_, run_optionally_of_not_begins hx fun c hc => (htail c hc).2⟩
  | @digits ds hds =>
      have hdigits := run_digits cut hds fun c hc => (htail c hc).1
      exact ⟨some ds, run_optionally_of_begins hx rfl hdigits⟩

theorem IsExponent.run_optionally {exponent rest s : List Char} (h : IsExponent exponent)
    (hrest : Delimits rest) (cut : Fault) {α : Type} {x : Reader α} {a : α}
    (hx : x.run s = .ok (a, exponent ++ rest)) :
    ∃ exponent?, (x.optionally (fun c => c = 'e' || c = 'E')
      (.skipThen (Numeral.signedDigits cut))).run s = .ok ((a, exponent?), rest) := by
  cases h with
  | none =>
      refine ⟨_, run_optionally_of_not_begins hx (hrest.not_head fun c hc => ?_)⟩
      simp [endsValue_class hc]
  | @digits e sign ds he hsign hds =>
      have hdigits := run_digits cut hds (hrest.not_head fun c hc => (endsValue_class hc).1)
      have hsigned : ∃ exponent, (Numeral.signedDigits cut).run (sign ++ (ds ++ rest)) =
          .ok (exponent, rest) := by
        simp only [List.mem_cons, List.not_mem_nil, or_false] at hsign
        rcases hsign with rfl | rfl | rfl
        · obtain ⟨d, ds, rfl⟩ := List.exists_cons_of_ne_nil hds.not_nil
          have hd : ¬ (d = '+' ∨ d = '-') := by
            have hdigit := hds.digit d List.mem_cons_self
            rintro (rfl | rfl) <;> cases hdigit
          refine ⟨(false, d :: ds), ?_⟩
          rw [List.nil_append, List.cons_append, Numeral.signedDigits, run_peek_cons, if_neg hd]
          exact run_map_of_ok hdigits _
        all_goals exact ⟨_, run_map_of_ok hdigits _⟩
      obtain ⟨exponent, hexponent⟩ := hsigned
      rw [List.cons_append, List.append_assoc] at hx
      refine ⟨some exponent, run_optionally_of_begins hx ?_ hexponent⟩
      simpa using he

theorem IsNumber.begins {cs : List Char} (h : IsNumber cs) :
    ∃ c tail, cs = c :: tail ∧ beginsNumber c := by
  cases h with
  | @mk sign whole _ _ hsign hwhole _ _ =>
      obtain ⟨d, ds, rfl⟩ := List.exists_cons_of_ne_nil hwhole.not_nil
      simp only [List.mem_cons, List.not_mem_nil, or_false] at hsign
      rcases hsign with rfl | rfl
      · exact ⟨d, _, rfl, by rw [beginsNumber, hwhole.digit d List.mem_cons_self, Bool.or_true]⟩
      · exact ⟨'-', _, rfl, rfl⟩

theorem not_endsValue_of_beginsNumber {c : Char} (h : beginsNumber c) : endsValue c = false := by
  rw [beginsNumber, Bool.or_eq_true, decide_eq_true_eq] at h
  rcases h with rfl | h
  · rfl
  · exact not_endsValue_of_isDigit h

/-- Whatever its size, a number is passed over up to its end. -/
theorem run_numberSkipped {cs rest : List Char} (h : IsNumber cs) (hrest : Delimits rest) :
    numberSkipped.run (cs ++ rest) = .ok ((), rest) := by
  cases h with
  | @mk sign whole fraction exponent hsign hwhole hfraction hexponent =>
      have htail := hexponent.head_class hrest
      have hunsigned : ∀ cut negative, ∃ n, (Numeral.unsigned cut negative).run
          (whole ++ (fraction ++ (exponent ++ rest))) = .ok (n, rest) := by
        intro cut negative
        have hrun := run_wholeDigits cut hwhole (hfraction.head_class fun c hc => (htail c hc).1)
        obtain ⟨fraction?, hrun⟩ := hfraction.run_optionally htail cut hrun
        obtain ⟨exponent?, hrun⟩ := hexponent.run_optionally hrest cut hrun
        exact ⟨_, run_map_of_ok hrun _⟩
      have hnumeral : ∀ cut, ∃ n, (Numeral.reader cut).run
          (sign ++ (whole ++ (fraction ++ (exponent ++ rest)))) = .ok (n, rest) := by
        intro cut
        simp only [List.mem_cons, List.not_mem_nil, or_false] at hsign
        rcases hsign with rfl | rfl
        · obtain ⟨n, hn⟩ := hunsigned cut false
          obtain ⟨d, ds, rfl⟩ := List.exists_cons_of_ne_nil hwhole.not_nil
          have hd : d ≠ '-' := by
            have hdigit := hwhole.digit d List.mem_cons_self
            rintro rfl
            cases hdigit
          refine ⟨n, ?_⟩
          rw [List.nil_append, List.cons_append, Numeral.reader, run_peek_cons, if_neg hd]
          exact hn
        · obtain ⟨n, hn⟩ := hunsigned cut true
          exact ⟨n, hn⟩
      obtain ⟨n, hn⟩ := hnumeral (.malformed .invalidNumber)
      rw [List.append_assoc, List.append_assoc, List.append_assoc]
      exact run_map_of_ok hn _

/-! ### Reading the numeral of a whole number -/

theorem isWhole_natural (n : Nat) : IsWhole (Text.natural n) where
  not_nil := Nat.toDigits_ne_nil
  digit _ hc := Text.isDigit_of_mem_natural hc
  no_zero := by
    cases Nat.eq_zero_or_pos n with
    | inl h => subst h; exact .inl rfl
    | inr h =>
        obtain ⟨c, cs, hcs, hc⟩ := natural_eq_cons h
        rw [hcs]
        exact .inr fun hhead => hc (Option.some.inj hhead)

/-- A natural number as a numeral. -/
def naturalNumeral (negative : Bool) (n : Nat) : Numeral := ⟨negative, Text.natural n, none, none⟩

theorem run_unsigned (cut : Fault) (negative : Bool) (n : Nat) {rest : List Char}
    (hrest : Delimits rest) : (Numeral.unsigned cut negative).run (Text.natural n ++ rest) =
      .ok (naturalNumeral negative n, rest) := by
  have hdigit := hrest.not_head fun c hc => (endsValue_class hc).1
  have hpoint : ∀ c ∈ rest.head?, decide (c = '.') = false :=
    hrest.not_head fun c hc => decide_eq_false (endsValue_class hc).2.1
  have hexponent : ∀ c ∈ rest.head?, (decide (c = 'e') || decide (c = 'E')) = false :=
    hrest.not_head fun c hc => by
      obtain ⟨-, -, he, hE⟩ := endsValue_class hc
      rw [decide_eq_false he, decide_eq_false hE]
      rfl
  exact run_map_of_ok (run_optionally_of_not_begins (run_optionally_of_not_begins
    (run_wholeDigits cut (isWhole_natural n) hdigit) hpoint) hexponent) _

/-! ### The value of a numeral -/

theorem le_ofDigitChars (ds : List Char) (n : Nat) : n ≤ Nat.ofDigitChars 10 ds n := by
  rw [Nat.ofDigitChars_eq_ofDigitChars_zero]
  have := Nat.le_mul_of_pos_left n (Nat.pow_pos (show 0 < 10 by decide) (n := ds.length))
  omega

/-- Digits are added up to the last one, if their value fits 64 bits. -/
theorem absorb_eq {ds : List Char} {significand : Nat}
    (h : Nat.ofDigitChars 10 ds significand < UInt64.size) :
    Numeral.absorb significand ds = (Nat.ofDigitChars 10 ds significand, 0) := by
  induction ds generalizing significand with
  | nil => rfl
  | cons d ds ih =>
      rw [Nat.ofDigitChars_cons] at h
      have hfits := Nat.lt_of_le_of_lt (le_ofDigitChars ds _) h
      rw [Numeral.absorb, Nat.ofDigitChars_cons, if_pos hfits, ih h]

theorem absorb_natural {n : Nat} (h : n < UInt64.size) :
    Numeral.absorb 0 (Text.natural n) = (n, 0) := by
  have hn := Text.ofDigitChars_natural n
  rw [absorb_eq (by rw [hn]; exact h), hn]

theorem value_naturalNumeral {n : Nat} (h : n < UInt64.size) :
    (naturalNumeral false n).value = .ok (.integer n) := by
  rw [Numeral.value, naturalNumeral]
  simp only [absorb_natural h, and_self, if_true, Bool.false_eq_true, if_false]

theorem value_naturalNumeral_negative {n : Nat} (pos : 0 < n) (h : n ≤ 0x8000000000000000) :
    (naturalNumeral true n).value = .ok (.integer (-n)) := by
  have hfits : n < UInt64.size := by simp only [UInt64.size]; omega
  rw [Numeral.value, naturalNumeral]
  simp only [absorb_natural hfits, and_self, if_true, pos, h]

/-! ### Whole numbers -/

/-- The numeral of an integer begins as a number does. -/
theorem integer_eq_cons (n : Int) :
    ∃ c cs, Text.integer n = c :: cs ∧ beginsNumber c ∧ endsValue c = false := by
  cases n with
  | negSucc n => exact ⟨'-', _, rfl, rfl, rfl⟩
  | ofNat n =>
      obtain ⟨c, cs, hcs, hc⟩ := natural_eq_digit_cons n
      exact ⟨c, cs, hcs, by rw [beginsNumber, hc, Bool.or_true], not_endsValue_of_isDigit hc⟩

/-- **Numbers.**  An integer that fits 64 bits, with or without a sign, is read as itself. -/
theorem run_number {n : Int} (lo : -0x8000000000000000 ≤ n) (hi : n < 0x10000000000000000)
    {rest : List Char} (hrest : Delimits rest) :
    number.run (Text.integer n ++ rest) = .ok (.integer n, rest) := by
  cases n with
  | ofNat n =>
      obtain ⟨c, cs, hcs, hc⟩ := natural_eq_digit_cons n
      have hminus : c ≠ '-' := by rintro rfl; cases hc
      have hfits : n < UInt64.size := Int.ofNat_lt.mp hi
      have hrun := run_unsigned (.ended .value) false n hrest
      rw [hcs] at hrun
      rw [number, run_andThen, Numeral.reader, Text.integer, hcs, List.cons_append,
        run_peek_cons, if_neg hminus, ← List.cons_append, hrun]
      dsimp only
      rw [value_naturalNumeral hfits]
      rfl
  | negSucc n =>
      have hle : n + 1 ≤ 0x8000000000000000 := by omega
      rw [number, run_andThen, Numeral.reader, Text.integer, List.cons_append, run_peek_cons,
        if_pos rfl, run_skipThen_cons, run_unsigned _ true (n + 1) hrest]
      dsimp only
      rw [value_naturalNumeral_negative (Nat.succ_pos n) hle]
      rfl

/-- A whole number of a range is read where the range is asked for. -/
theorem reads_wholeNumber {range : NumberRange} (lo : -0x8000000000000000 ≤ range.low)
    (hi : range.high < 0x10000000000000000) (n : range.Member) :
    (wholeNumber range).Reads (Text.integer n.val) n := by
  obtain ⟨c, cs, hcs, hbegins, hc⟩ := integer_eq_cons n.val
  rw [hcs]
  refine reads_value hc fun rest hrest => ?_
  have hrun := run_number (Int.le_trans lo n.property.1) (Int.lt_of_le_of_lt n.property.2 hi) hrest
  rw [hcs] at hrun
  rw [if_pos hbegins]
  refine run_andThen_of_done hrun ?_
  exact dif_pos n.property

end TabletopDice.Json
