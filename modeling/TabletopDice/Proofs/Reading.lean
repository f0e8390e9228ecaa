import TabletopDice.Expression.Search
import TabletopDice.Proofs.Runs

/-!
# Expressions — reading one at the start of a text

`Expression.read?` takes every part as long as it goes and never gives a part up again, while the
grammar says nothing about lengths: the digits before an `x` might be repetitions or dice, and a
number may end before its last digit.

The two agree because a word has a single `d`, and what stands before it can be written in one way:
the blanks and the `x` of a repetition are no digits, so the first run of digits is the number of
repetitions if and only if an `x` follows.  `read?_head` reads the parts up to the `d`, whatever
follows it; after it the reader takes all digits and then the longest modifier.

* `read?_eq_some_iff`: the reader gives the longest word that the text starts with.
* `read?_eq_none_iff`: it fails only where the text starts with no word.
* `WellFormed.chars_inj`: a word is written from one expression only.
-/

namespace TabletopDice

/-! ### Classes of characters -/

theorem not_isDigit_of_isWhitespace {c : Char} (h : c.isWhitespace) : c.isDigit = false := by
  simp only [Char.isWhitespace, Bool.or_eq_true, decide_eq_true_eq] at h
  rcases h with ((rfl | rfl) | rfl) | rfl <;> rfl

theorem not_isWhitespace_of_isDigit {c : Char} (h : c.isDigit) : c.isWhitespace = false := by
  cases hw : c.isWhitespace with
  | false => rfl
  | true => rw [not_isDigit_of_isWhitespace hw] at h; cases h

namespace Modifier

theorem not_isDigit_of_isOperator {c : Char} (h : isOperator c) : c.isDigit = false := by
  simp only [isOperator, Bool.or_eq_true, decide_eq_true_eq] at h
  rcases h with ((rfl | rfl) | rfl) | rfl <;> rfl

theorem isOperator_of_isSign {c : Char} (h : isSign c) : isOperator c := by
  simp only [isSign, Bool.or_eq_true, decide_eq_true_eq] at h
  rcases h with rfl | rfl <;> rfl

theorem not_isDigit_of_isMarkerLetter {c : Char} (h : isMarkerLetter c) : c.isDigit = false := by
  simp only [isMarkerLetter, Bool.or_eq_true, decide_eq_true_eq] at h
  rcases h with ((rfl | rfl) | rfl) | rfl <;> rfl

end Modifier

namespace Expression

theorem isCross_class {c : Char} (h : isCross c) : c.isDigit = false ∧ c.isWhitespace = false := by
  simp only [isCross, Bool.or_eq_true, decide_eq_true_eq] at h
  rcases h with rfl | rfl <;> exact ⟨rfl, rfl⟩

theorem isDie_class {c : Char} (h : isDie c) :
    c.isDigit = false ∧ c.isWhitespace = false ∧ isCross c = false := by
  simp only [isDie, Bool.or_eq_true, decide_eq_true_eq] at h
  rcases h with rfl | rfl <;> exact ⟨rfl, rfl, rfl⟩

end Expression

/-! ### Modifiers -/

namespace Modifier

/-- An operator and digits: the modifier goes on over all digits that follow. -/
theorem scan?_number {operator : Char} {digits : List Char} (h : isOperator operator)
    (ne : digits ≠ []) (hd : ∀ c ∈ digits, c.isDigit) (rest : List Char) :
    scan? (operator :: digits ++ rest) =
      some (operator :: (digits ++ rest.takeWhile Char.isDigit), rest.dropWhile Char.isDigit) := by
  have hne : (digits ++ rest.takeWhile Char.isDigit).isEmpty = false := by
    rw [List.isEmpty_eq_false_iff]
    exact List.append_ne_nil_of_left_ne_nil ne _
  rw [List.cons_append, scan?.eq_def]
  simp only [List.takeWhile_append_of_pos hd, List.dropWhile_append_of_pos hd, h, hne,
    Bool.not_false, Bool.and_self, if_true]

/-- A sign and a marker letter are a modifier, whatever follows. -/
theorem scan?_marker {sign letter : Char} (hs : isSign sign) (hl : isMarkerLetter letter)
    (rest : List Char) : scan? (sign :: letter :: rest) = some ([sign, letter], rest) := by
  have hdigits : (letter :: rest).takeWhile Char.isDigit = [] :=
    List.takeWhile_cons_of_neg (by simp [not_isDigit_of_isMarkerLetter hl])
  rw [scan?.eq_def]
  simp only [hdigits, hs, hl, List.isEmpty_nil, Bool.not_true, Bool.and_false, Bool.and_self,
    if_true, Bool.false_eq_true, if_false]

/-- What is scanned is a modifier. -/
theorem written_of_scan? {cs m rest : List Char} (h : scan? cs = some (m, rest)) :
    Written m ∧ m ++ rest = cs := by
  cases cs with
  | nil => cases h
  | cons first tail =>
      rw [scan?.eq_def] at h
      dsimp only at h
      split at h
      · rename_i hop
        rw [Bool.and_eq_true, Bool.not_eq_true', List.isEmpty_eq_false_iff] at hop
        cases h
        exact ⟨.number hop.1 hop.2 fun c hc => mem_takeWhile_class hc,
          by rw [List.cons_append, List.takeWhile_append_dropWhile]⟩
      · split at h
        · split at h
          · rename_i hmark
            rw [Bool.and_eq_true] at hmark
            cases h
            exact ⟨.marker hmark.1 hmark.2, rfl⟩
          · cases h
        · cases h

/-- The first character of a modifier is no digit. -/
theorem Written.cons {m : List Char} (h : Written m) :
    ∃ first tail, m = first :: tail ∧ first.isDigit = false := by
  cases h with
  | number h _ _ => exact ⟨_, _, rfl, not_isDigit_of_isOperator h⟩
  | marker hs _ => exact ⟨_, _, rfl, not_isDigit_of_isOperator (isOperator_of_isSign hs)⟩

/-- The scanner takes a modifier that stands at the start, and perhaps more. -/
theorem Written.scan?_append {m : List Char} (h : Written m) (rest : List Char) :
    ∃ more rest', scan? (m ++ rest) = some (m ++ more, rest') := by
  cases h with
  | number h ne hd => exact ⟨_, _, scan?_number h ne hd rest⟩
  | marker hs hl => exact ⟨[], rest, scan?_marker hs hl rest⟩

theorem Written.scan?_eq {m : List Char} (h : Written m) : scan? m = some (m, []) := by
  cases h with
  | number h ne hd => simpa using scan?_number h ne hd []
  | marker hs hl => exact scan?_marker hs hl []

end Modifier

namespace Expression

/-! ### The parts before the `d` -/

/-- A repetition is read as it is written, up to the first character that is not blank. -/
theorem Repetition.WellFormed.read?_append {r : Repetition} (h : r.WellFormed) {c : Char}
    (hc : c.isWhitespace = false) (rest : List Char) :
    Repetition.read? (r.chars ++ c :: rest) = some (r, c :: rest) := by
  obtain ⟨hcd, hcw⟩ := isCross_class h.isCross
  have hchars : r.chars ++ c :: rest =
      r.digits ++ (r.before ++ r.cross :: (r.after ++ c :: rest)) := by
    simp [Repetition.chars]
  -- the run of digits ends at a blank or at the `x`
  have hstop : ∃ x tail, r.before ++ r.cross :: (r.after ++ c :: rest) = x :: tail ∧
      x.isDigit = false := by
    cases hb : r.before with
    | nil => exact ⟨_, _, rfl, hcd⟩
    | cons x blanks =>
        have hx : x.isWhitespace := h.before_isBlank x (by simp [hb])
        exact ⟨_, _, rfl, not_isDigit_of_isWhitespace hx⟩
  obtain ⟨x, tail, htail, hx⟩ := hstop
  rw [hchars, Repetition.read?, htail, takeWhile_run h.isDigit hx, dropWhile_run h.isDigit hx,
    ← htail, takeWhile_run h.before_isBlank hcw, dropWhile_run h.before_isBlank hcw]
  simp only [List.isEmpty_eq_false_iff.mpr h.digits_ne_nil, h.isCross, Bool.false_eq_true,
    if_false, if_true, takeWhile_run h.after_isBlank hc, dropWhile_run h.after_isBlank hc]

/-- Digits before a `d` are no repetition. -/
theorem Repetition.read?_dice {dice : List Char} (hd : ∀ c ∈ dice, c.isDigit) {die : Char}
    (hdie : isDie die) (rest : List Char) : Repetition.read? (dice ++ die :: rest) = none := by
  obtain ⟨hdd, hdw, hdc⟩ := isDie_class hdie
  rw [Repetition.read?, takeWhile_run hd hdd, dropWhile_run hd hdd,
    List.dropWhile_cons_of_neg (by simp [hdw])]
  simp only [hdc, Bool.false_eq_true, if_false, ite_self]

/-- What is read as a repetition is one. -/
theorem Repetition.wellFormed_of_read? {cs rest : List Char} {r : Repetition}
    (h : Repetition.read? cs = some (r, rest)) : r.WellFormed ∧ r.chars ++ rest = cs := by
  rw [Repetition.read?] at h
  split at h
  · cases h
  · rename_i hne
    split at h
    · cases h
    · rename_i cross tail htail
      split at h
      · rename_i hcross
        cases h
        refine ⟨⟨?_, fun c hc => mem_takeWhile_class hc, fun c hc => mem_takeWhile_class hc, hcross,
          fun c hc => mem_takeWhile_class hc⟩, ?_⟩
        · simpa using hne
        · simp only [Repetition.chars, List.append_assoc, List.cons_append,
            List.takeWhile_append_dropWhile]
          rw [← htail, List.takeWhile_append_dropWhile, List.takeWhile_append_dropWhile]
      · cases h

/-- The parts up to the `d`, as they are written. -/
def head (e : Expression) : List Char :=
  (e.repetition?.map Repetition.chars).getD [] ++ e.dice ++ [e.die]

/-- The parts after the `d`, as they are written. -/
def tail (e : Expression) : List Char := e.sides ++ e.modifier?.getD []

theorem head_append_tail (e : Expression) : e.head ++ e.tail = e.chars := by
  simp [head, tail, chars]

/-- The expression with the parts after the `d` that the reader finds in `cs`. -/
def continued (e : Expression) (cs : List Char) : Expression :=
  { e with
    sides := cs.takeWhile Char.isDigit
    modifier? := (readModifier (cs.dropWhile Char.isDigit)).1 }

/-- Digits and a `d` are read as they are written, and what follows as far as it goes. -/
theorem readDice?_append {e : Expression} (hd : ∀ c ∈ e.dice, c.isDigit) (hdie : isDie e.die)
    (cs : List Char) : readDice? e.repetition? (e.dice ++ e.die :: cs) =
      some (e.continued cs, (readModifier (cs.dropWhile Char.isDigit)).2) := by
  obtain ⟨hdd, -, -⟩ := isDie_class hdie
  rw [readDice?, dropWhile_run hd hdd, takeWhile_run hd hdd]
  simp only [hdie, if_true]
  rfl

/-- **The parts before the `d`.**  The reader takes them as they are written, whatever follows. -/
theorem WellFormed.read?_head {e : Expression} (h : e.WellFormed) (cs : List Char) :
    read? (e.head ++ cs) =
      some (e.continued cs, (readModifier (cs.dropWhile Char.isDigit)).2) := by
  rw [← readDice?_append h.dice_isDigit h.isDie]
  cases hr : e.repetition? with
  | none =>
      -- the digits before the `d` are not taken for a repetition
      have hhead : e.head ++ cs = e.dice ++ e.die :: cs := by simp [head, hr]
      rw [hhead, read?, Repetition.read?_dice h.dice_isDigit h.isDie]
  | some r =>
      -- no blank stands after a repetition: either a digit or the `d`
      have hstop : ∃ x more, e.dice ++ e.die :: cs = x :: more ∧ x.isWhitespace = false := by
        cases hdice : e.dice with
        | nil => exact ⟨_, _, rfl, (isDie_class h.isDie).2.1⟩
        | cons x digits =>
            have hx : x.isDigit := h.dice_isDigit x (by simp [hdice])
            exact ⟨x, _, rfl, not_isWhitespace_of_isDigit hx⟩
      obtain ⟨x, more, hmore, hx⟩ := hstop
      have hhead : e.head ++ cs = r.chars ++ x :: more := by simp [head, hr, ← hmore]
      rw [hhead, hmore, read?, (h.repetition r hr).read?_append hx]

/-! ### The parts after the `d` -/

theorem readModifier_some {cs m rest : List Char} (h : Modifier.scan? cs = some (m, rest)) :
    readModifier cs = (some m, rest) := by
  rw [readModifier, h]

/-- What is read of a modifier is one, and nothing is lost. -/
theorem readModifier_spec (cs : List Char) :
    (∀ m ∈ (readModifier cs).1, Modifier.Written m) ∧
      (readModifier cs).1.getD [] ++ (readModifier cs).2 = cs := by
  rw [readModifier]
  split
  · rename_i m rest h
    obtain ⟨hm, rfl⟩ := Modifier.written_of_scan? h
    refine ⟨fun m' hm' => ?_, rfl⟩
    cases hm'
    exact hm
  · exact ⟨fun m hm => (nomatch hm), rfl⟩

/-- The digits after the `d` end where a modifier begins. -/
theorem WellFormed.tail_run {e : Expression} (h : e.WellFormed) {m : List Char}
    (hm : e.modifier? = some m) (rest : List Char) :
    (e.tail ++ rest).takeWhile Char.isDigit = e.sides ∧
      (e.tail ++ rest).dropWhile Char.isDigit = m ++ rest := by
  obtain ⟨first, more, rfl, hfirst⟩ := (h.modifier m hm).cons
  have htail : e.tail ++ rest = e.sides ++ first :: (more ++ rest) := by
    rw [tail, hm, Option.getD_some, List.append_assoc, List.cons_append]
  rw [htail]
  exact ⟨takeWhile_run h.sides_isDigit hfirst, dropWhile_run h.sides_isDigit hfirst⟩

/-- At the end of the text, an expression is read as it is written. -/
theorem WellFormed.read?_chars {e : Expression} (h : e.WellFormed) :
    read? e.chars = some (e, []) := by
  rw [← head_append_tail, h.read?_head, continued]
  cases hm : e.modifier? with
  | none =>
      have htail : e.tail = e.sides ++ [] := by rw [tail, hm]; rfl
      rw [htail, List.takeWhile_append_of_pos h.sides_isDigit,
        List.dropWhile_append_of_pos h.sides_isDigit, List.takeWhile_nil, List.append_nil]
      show some (({ e with modifier? := none } : Expression), []) = some (e, [])
      rw [← hm]
  | some m =>
      obtain ⟨htake, hdrop⟩ := h.tail_run hm []
      rw [List.append_nil] at htake hdrop
      rw [htake, hdrop, List.append_nil, readModifier_some (h.modifier m hm).scan?_eq, ← hm]

/-- The reader takes all of the sides and of the modifier, and perhaps more. -/
theorem WellFormed.length_tail_le {e : Expression} (h : e.WellFormed) (rest : List Char) :
    e.tail.length ≤ (e.continued (e.tail ++ rest)).tail.length := by
  rw [continued]
  cases hm : e.modifier? with
  | none =>
      have htail : e.tail = e.sides := by rw [tail, hm, Option.getD_none, List.append_nil]
      rw [htail, tail, List.takeWhile_append_of_pos h.sides_isDigit]
      simp only [List.length_append]
      omega
  | some m =>
      obtain ⟨htake, hdrop⟩ := h.tail_run hm rest
      obtain ⟨more, rest', hscan⟩ := (h.modifier m hm).scan?_append rest
      rw [htake, hdrop, readModifier_some hscan]
      simp only [tail, hm, Option.getD_some, List.length_append]
      omega

/-! ### Words -/

/-- A word of the grammar is what some well-formed expression is written as. -/
def IsWord (word : List Char) : Prop := ∃ e : Expression, e.WellFormed ∧ e.chars = word

/-- **One expression for a word.** -/
theorem WellFormed.chars_inj {e e' : Expression} (h : e.WellFormed) (h' : e'.WellFormed)
    (heq : e.chars = e'.chars) : e = e' := by
  have hread := h.read?_chars
  rw [heq, h'.read?_chars] at hread
  cases hread
  rfl

/-- The reader succeeds where a word stands, and takes all of it. -/
theorem WellFormed.read?_append {e : Expression} (h : e.WellFormed) (rest : List Char) :
    ∃ e' rest', read? (e.chars ++ rest) = some (e', rest') ∧
      e.chars.length ≤ e'.chars.length := by
  have hread := h.read?_head (e.tail ++ rest)
  rw [← List.append_assoc, head_append_tail] at hread
  refine ⟨_, _, hread, ?_⟩
  rw [← head_append_tail e, ← head_append_tail (e.continued _), List.length_append,
    List.length_append]
  exact Nat.add_le_add_left (h.length_tail_le rest) e.head.length

/-- What is read after a repetition is an expression with that repetition, and nothing is lost. -/
theorem wellFormed_of_readDice? {r : Option Repetition} (hr : ∀ r' ∈ r, r'.WellFormed)
    {cs rest : List Char} {e : Expression} (h : readDice? r cs = some (e, rest)) :
    e.WellFormed ∧ e.chars ++ rest = (r.map Repetition.chars).getD [] ++ cs := by
  rw [readDice?] at h
  split at h
  · cases h
  · rename_i die tail htail
    split at h
    · rename_i hdie
      obtain ⟨hm, hrest⟩ := readModifier_spec (tail.dropWhile Char.isDigit)
      generalize readModifier (tail.dropWhile Char.isDigit) = p at *
      cases h
      refine ⟨⟨hr, fun c hc => mem_takeWhile_class hc, hdie, fun c hc => mem_takeWhile_class hc,
        hm⟩, ?_⟩
      simp only [chars, List.append_assoc, List.cons_append, hrest,
        List.takeWhile_append_dropWhile]
      rw [← htail, List.takeWhile_append_dropWhile]
    · cases h

/-- What is read is an expression, and nothing is lost. -/
theorem wellFormed_of_read? {cs rest : List Char} {e : Expression}
    (h : read? cs = some (e, rest)) : e.WellFormed ∧ e.chars ++ rest = cs := by
  rw [read?] at h
  split at h
  · rename_i r rest' hr
    obtain ⟨hwf, rfl⟩ := Repetition.wellFormed_of_read? hr
    refine wellFormed_of_readDice? (fun r' hr' => ?_) h
    cases hr'
    exact hwf
  · exact wellFormed_of_readDice? (r := none) (fun r' hr' => (nomatch hr')) h

theorem read?_eq_none_iff {cs : List Char} :
    read? cs = none ↔ ∀ word, IsWord word → ¬ word <+: cs := by
  constructor
  · rintro h word ⟨e, he, rfl⟩ ⟨rest, rfl⟩
    obtain ⟨e', rest', hread, -⟩ := he.read?_append rest
    rw [h] at hread
    cases hread
  · intro h
    cases hread : read? cs with
    | none => rfl
    | some p =>
        obtain ⟨he, hcs⟩ := wellFormed_of_read? hread
        exact absurd ⟨p.2, hcs⟩ (h p.1.chars ⟨p.1, he, rfl⟩)

/-- No word at the start of a text is longer than the one that is read. -/
theorem length_le_of_read? {cs rest : List Char} {e : Expression}
    (h : read? cs = some (e, rest)) {word : List Char} (hword : IsWord word)
    (hp : word <+: cs) : word.length ≤ e.chars.length := by
  obtain ⟨e', he', rfl⟩ := hword
  obtain ⟨rest', rfl⟩ := hp
  obtain ⟨e'', rest'', hread, hlen⟩ := he'.read?_append rest'
  rw [h] at hread
  cases hread
  exact hlen

/-- **The longest word.**  The reader gives the expression of the longest word that the text starts
with, and what follows it. -/
theorem read?_eq_some_iff {cs rest : List Char} {e : Expression} :
    read? cs = some (e, rest) ↔ e.WellFormed ∧ e.chars ++ rest = cs ∧
      ∀ word, IsWord word → word <+: cs → word.length ≤ e.chars.length := by
  constructor
  · intro h
    obtain ⟨he, hcs⟩ := wellFormed_of_read? h
    exact ⟨he, hcs, fun word => length_le_of_read? h⟩
  · rintro ⟨he, rfl, hlongest⟩
    obtain ⟨e', rest', hread, hlen⟩ := he.read?_append rest
    obtain ⟨he', hcs⟩ := wellFormed_of_read? hread
    -- both words are prefixes of one text, and neither is longer
    have hle := hlongest e'.chars ⟨e', he', rfl⟩ ⟨rest', hcs⟩
    obtain ⟨hchars, hrest⟩ := List.append_inj hcs (Nat.le_antisymm hle hlen)
    rw [hread, he'.chars_inj he hchars, hrest]

end Expression

end TabletopDice
