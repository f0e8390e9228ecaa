import Mathlib.Data.List.DropRight
import TabletopDice.Proofs.Policies

/-!
# Expressions — around the first `d`

`Expression.find?` tries every position of a text and reads forward from it.  The same occurrence
can be found without trying anything, from the first `d` of the text (`aroundDie?`): forward over
digits and a modifier, backward over digits and then over a repetition, if one ends there.

Every word that holds the first `d` has it as its own `d`: what it writes before it ends at the `d`,
and what it writes after it begins there.  So among the occurrences that hold the first `d` one goes
furthest on both sides at once, and this is the one that is found (`Occurrence.Encloses`).  Backward
the parts are as unambiguous as forward: digits, blanks and the `x` have no character in common,
and each run of them ends where it has to (`Repetition.readBack?_eq_some_iff`).

**Around the first `d`** (`interpretUnder_strict_around`).
-/

namespace TabletopDice

/-! ### Runs at the end of a text -/

section RunsAtEnd

variable {p : Char → Bool} {front run cs : List Char}

/-- A run at the end begins with the text, or after a character outside its class. -/
theorem rspan_run (hrun : ∀ x ∈ run, p x) (hfront : ∀ x ∈ front.getLast?, p x = false) :
    (front ++ run).rtakeWhile p = run ∧ (front ++ run).rdropWhile p = front := by
  have hrun' : ∀ x ∈ run.reverse, p x := fun x hx => hrun x (List.mem_reverse.mp hx)
  have hfront' : ∀ x ∈ front.reverse.head?, p x = false := by rwa [List.head?_reverse]
  obtain ⟨htake, hdrop⟩ := span_run hrun' hfront'
  rw [List.rtakeWhile, List.rdropWhile, List.reverse_append, htake, hdrop, List.reverse_reverse,
    List.reverse_reverse]
  exact ⟨rfl, rfl⟩

theorem last_rdropWhile : ∀ x ∈ (cs.rdropWhile p).getLast?, p x = false := by
  intro x hx
  obtain ⟨hne, rfl⟩ := List.mem_getLast?_eq_getLast hx
  exact Bool.eq_false_iff.mpr (List.rdropWhile_last_not p cs hne)

theorem rdropWhile_append_of_pos (hrun : ∀ x ∈ run, p x) :
    (front ++ run).rdropWhile p = front.rdropWhile p := by
  rw [List.rdropWhile, List.reverse_append,
    List.dropWhile_append_of_pos fun x hx => hrun x (List.mem_reverse.mp hx), List.rdropWhile]

end RunsAtEnd

namespace Expression

/-! ### Backward over a repetition -/

/-- The repetition that `cs` ends with, and what stands before it. -/
def Repetition.readBack? (cs : List Char) : Option (List Char × Repetition) :=
  let upToCross := cs.rdropWhile Char.isWhitespace
  let upToBlanks := upToCross.dropLast
  let upToDigits := upToBlanks.rdropWhile Char.isWhitespace
  let digits := upToDigits.rtakeWhile Char.isDigit
  match upToCross.getLast? with
  | none => none
  | some cross =>
    if isCross cross && !digits.isEmpty then
      some (upToDigits.rdropWhile Char.isDigit,
        ⟨digits, upToBlanks.rtakeWhile Char.isWhitespace, cross, cs.rtakeWhile Char.isWhitespace⟩)
    else none

/-- A repetition at the end of a text is read back as it is written, from a character that is no
digit. -/
theorem Repetition.WellFormed.readBack?_append {r : Repetition} (h : r.WellFormed)
    {before : List Char} (hbefore : ∀ c ∈ before.getLast?, c.isDigit = false) :
    readBack? (before ++ r.chars) = some (before, r) := by
  obtain ⟨hcd, hcw⟩ := isCross_class h.isCross
  have hchars : before ++ r.chars =
      (((before ++ r.digits) ++ r.before) ++ [r.cross]) ++ r.after := by
    simp [chars]
  have hdigits : ∀ c ∈ (before ++ r.digits).getLast?, c.isWhitespace = false := by
    intro c hc
    rw [List.getLast?_append_of_ne_nil _ h.digits_ne_nil] at hc
    exact not_isWhitespace_of_isDigit (h.isDigit c (List.mem_of_getLast? hc))
  have hcross : ∀ c ∈ (((before ++ r.digits) ++ r.before) ++ [r.cross]).getLast?,
      c.isWhitespace = false := by
    intro c hc
    rw [List.getLast?_concat] at hc
    cases hc
    exact hcw
  obtain ⟨htake₁, hdrop₁⟩ := rspan_run h.after_isBlank hcross
  obtain ⟨htake₂, hdrop₂⟩ := rspan_run h.before_isBlank hdigits
  obtain ⟨htake₃, hdrop₃⟩ := rspan_run h.isDigit hbefore
  rw [readBack?, hchars]
  simp only [htake₁, hdrop₁, List.dropLast_concat, htake₂, hdrop₂, htake₃, hdrop₃,
    List.getLast?_concat, h.isCross, List.isEmpty_eq_false_iff.mpr h.digits_ne_nil, Bool.not_false,
    Bool.and_self, if_true]

/-- What is read back as a repetition is one, and no digit stands before it. -/
theorem Repetition.wellFormed_of_readBack? {cs before : List Char} {r : Repetition}
    (h : readBack? cs = some (before, r)) :
    r.WellFormed ∧ before ++ r.chars = cs ∧ ∀ c ∈ before.getLast?, c.isDigit = false := by
  rw [readBack?] at h
  split at h
  · cases h
  · rename_i cross hcross
    split at h
    · rename_i hread
      rw [Bool.and_eq_true, Bool.not_eq_true', List.isEmpty_eq_false_iff] at hread
      cases h
      refine ⟨⟨hread.2, fun c hc => List.mem_rtakeWhile_imp hc,
        fun c hc => List.mem_rtakeWhile_imp hc, hread.1, fun c hc => List.mem_rtakeWhile_imp hc⟩,
        ?_, last_rdropWhile⟩
      -- each run is put back behind what was left of it
      rw [chars, ← List.append_assoc, ← List.append_assoc, List.rdropWhile_append_rtakeWhile,
        List.rdropWhile_append_rtakeWhile, ← List.singleton_append, ← List.append_assoc,
        List.dropLast_append_getLast? cross hcross, List.rdropWhile_append_rtakeWhile]
    · cases h

/-- A text is read back into the one split of it that ends with a repetition which is preceded by no
digit. -/
theorem Repetition.readBack?_eq_some_iff {cs before : List Char} {r : Repetition} :
    readBack? cs = some (before, r) ↔
      r.WellFormed ∧ before ++ r.chars = cs ∧ ∀ c ∈ before.getLast?, c.isDigit = false := by
  constructor
  · exact wellFormed_of_readBack?
  · rintro ⟨hr, rfl, hbefore⟩
    exact hr.readBack?_append hbefore

/-- No repetition ends with a digit. -/
theorem Repetition.WellFormed.last_append_chars {r : Repetition} (h : r.WellFormed)
    (before : List Char) : ∀ c ∈ (before ++ r.chars).getLast?, c.isDigit = false := by
  intro c hc
  rw [chars, ← List.append_assoc, List.getLast?_append_of_ne_nil _ (List.cons_ne_nil _ _)] at hc
  rcases List.mem_cons.mp (List.mem_of_getLast? hc) with rfl | hc
  · exact (isCross_class h.isCross).1
  · exact not_isDigit_of_isWhitespace (h.after_isBlank c hc)

/-- Where a repetition ends, one is read back that begins no later. -/
theorem Repetition.WellFormed.exists_readBack? {r : Repetition} (h : r.WellFormed)
    (before : List Char) : ∃ before' r', readBack? (before ++ r.chars) = some (before', r') ∧
      before'.length ≤ before.length := by
  -- digits directly before the repetition belong to it
  have hgrown : before ++ r.chars = before.rdropWhile Char.isDigit ++
      ({ r with digits := before.rtakeWhile Char.isDigit ++ r.digits } : Repetition).chars := by
    simp only [chars, ← List.append_assoc, List.rdropWhile_append_rtakeWhile]
  have hwf : ({ r with digits := before.rtakeWhile Char.isDigit ++ r.digits } :
      Repetition).WellFormed := by
    refine { h with digits_ne_nil := ?_, isDigit := fun c hc => ?_ }
    · exact List.append_ne_nil_of_right_ne_nil _ h.digits_ne_nil
    · rcases List.mem_append.mp hc with hc | hc
      · exact List.mem_rtakeWhile_imp hc
      · exact h.isDigit c hc
  exact ⟨_, _, readBack?_eq_some_iff.mpr ⟨hwf, hgrown.symm, last_rdropWhile⟩,
    (List.rdropWhile_prefix _ _).length_le⟩

/-- The repetition that `cs` ends with, if it ends with one, and what stands before it. -/
def readRepetitionBack (cs : List Char) : List Char × Option Repetition :=
  match Repetition.readBack? cs with
  | some (before, r) => (before, some r)
  | none => (cs, none)

/-- What is read back is a repetition, and nothing is lost. -/
theorem readRepetitionBack_spec (cs : List Char) :
    (∀ r ∈ (readRepetitionBack cs).2, r.WellFormed) ∧
      (readRepetitionBack cs).1 ++ ((readRepetitionBack cs).2.map Repetition.chars).getD [] =
        cs := by
  rw [readRepetitionBack]
  split
  · rename_i before r h
    obtain ⟨hr, hcs, -⟩ := Repetition.readBack?_eq_some_iff.mp h
    refine ⟨fun r' hr' => ?_, hcs⟩
    cases hr'
    exact hr
  · exact ⟨fun r hr => (nomatch hr), List.append_nil cs⟩

/-- No repetition at the end of a text begins before the one that is read back. -/
theorem length_readRepetitionBack_le {r : Option Repetition} (hr : ∀ r' ∈ r, r'.WellFormed)
    (before : List Char) :
    (readRepetitionBack (before ++ (r.map Repetition.chars).getD [])).1.length ≤ before.length := by
  cases r with
  | none =>
      have hprefix : (readRepetitionBack before).1 <+: before :=
        ⟨_, (readRepetitionBack_spec before).2⟩
      rw [Option.map_none, Option.getD_none, List.append_nil]
      exact hprefix.length_le
  | some r =>
      obtain ⟨before', r', hread, hle⟩ := (hr r rfl).exists_readBack? before
      rw [Option.map_some, Option.getD_some, readRepetitionBack, hread]
      exact hle

/-! ### The occurrence around a `d` -/

/-- The occurrence whose `d` stands between `front` and `back`, as far as it goes on both sides. -/
def Occurrence.around (front : List Char) (die : Char) (back : List Char) : Occurrence where
  before := (readRepetitionBack (front.rdropWhile Char.isDigit)).1
  expression :=
    { repetition? := (readRepetitionBack (front.rdropWhile Char.isDigit)).2
      dice := front.rtakeWhile Char.isDigit
      die := die
      sides := back.takeWhile Char.isDigit
      modifier? := (readModifier (back.dropWhile Char.isDigit)).1 }
  after := (readModifier (back.dropWhile Char.isDigit)).2

/-- The occurrence around the first `d` of a text, if it has one. -/
def aroundDie? (cs : List Char) : Option Occurrence :=
  match cs.dropWhile fun c => !isDie c with
  | [] => none
  | die :: back => some (.around (cs.takeWhile fun c => !isDie c) die back)

theorem aroundDie?_split {front back : List Char} {die : Char}
    (hfront : ∀ c ∈ front, isDie c = false) (hdie : isDie die) :
    aroundDie? (front ++ die :: back) = some (.around front die back) := by
  have hrun : ∀ c ∈ front, (!isDie c) = true := fun c hc => by rw [hfront c hc]; rfl
  have hstop : (!isDie die) = false := by rw [hdie]; rfl
  rw [aroundDie?, dropWhile_run hrun hstop, takeWhile_run hrun hstop]

theorem aroundDie?_of_forall {cs : List Char} (h : ∀ c ∈ cs, isDie c = false) :
    aroundDie? cs = none := by
  have hdrop : (cs.dropWhile fun c => !isDie c) = [] :=
    List.dropWhile_eq_nil_iff.mpr fun c hc => by rw [h c hc]; rfl
  rw [aroundDie?, hdrop]

section Around

variable {front back : List Char} {die : Char}

theorem Occurrence.wellFormed_around (hdie : isDie die) :
    (around front die back).expression.WellFormed where
  repetition := (readRepetitionBack_spec _).1
  dice_isDigit _ hc := List.mem_rtakeWhile_imp hc
  isDie := hdie
  sides_isDigit _ hc := mem_takeWhile_class hc
  modifier := (readModifier_spec _).1

/-- Before its `d` the occurrence and what stands before it are the text before the `d`. -/
theorem Occurrence.before_around_append (front : List Char) (die : Char) (back : List Char) :
    (around front die back).before ++ (around front die back).expression.lead = front := by
  rw [lead, ← List.append_assoc]
  show ((readRepetitionBack _).1 ++ ((readRepetitionBack _).2.map Repetition.chars).getD []) ++
    front.rtakeWhile Char.isDigit = front
  rw [(readRepetitionBack_spec _).2, List.rdropWhile_append_rtakeWhile]

/-- After its `d` the occurrence and what stands after it are the text after the `d`. -/
theorem Occurrence.tail_around_append (front : List Char) (die : Char) (back : List Char) :
    (around front die back).expression.tail ++ (around front die back).after = back := by
  rw [tail, List.append_assoc]
  show back.takeWhile Char.isDigit ++ ((readModifier (back.dropWhile Char.isDigit)).1.getD [] ++
    (readModifier (back.dropWhile Char.isDigit)).2) = back
  rw [(readModifier_spec _).2, List.takeWhile_append_dropWhile]

/-- No word whose `d` stands there begins before the occurrence. -/
theorem Occurrence.length_before_around_le {e : Expression} (he : e.WellFormed)
    {before : List Char} (h : before ++ e.lead = front) :
    (around front die back).before.length ≤ before.length := by
  show (readRepetitionBack (front.rdropWhile Char.isDigit)).1.length ≤ before.length
  rw [← h, lead]
  cases hr : e.repetition? with
  | none =>
      have hle := length_readRepetitionBack_le (r := none) (fun r' hr' => by cases hr')
        (before.rdropWhile Char.isDigit)
      rw [Option.map_none, Option.getD_none, List.append_nil] at hle
      rw [Option.map_none, Option.getD_none, List.nil_append,
        rdropWhile_append_of_pos he.dice_isDigit]
      exact Nat.le_trans hle (List.rdropWhile_prefix _ _).length_le
  | some r =>
      have hwf := he.repetition r hr
      rw [Option.map_some, Option.getD_some, ← List.append_assoc,
        (rspan_run he.dice_isDigit (hwf.last_append_chars before)).2]
      have hsome : ∀ r' ∈ some r, r'.WellFormed := fun r' hr' => by cases hr'; exact hwf
      exact length_readRepetitionBack_le hsome before

/-- The reader gives the expression of the occurrence at its beginning. -/
theorem Occurrence.read?_around (hdie : isDie die) :
    read? ((around front die back).expression.lead ++ die :: back) =
      some ((around front die back).expression, (around front die back).after) := by
  have hhead : (around front die back).expression.lead ++ die :: back =
      (around front die back).expression.head ++ back := by
    rw [lead, head]
    exact (List.append_assoc _ [die] back).symm
  rw [hhead, (wellFormed_around hdie).read?_head]
  rfl

/-- **From the first `d`.**  What is found is the occurrence around the first `d`. -/
theorem find?_split (hfront : ∀ c ∈ front, isDie c = false) (hdie : isDie die) :
    find? (front ++ die :: back) = some (.around front die back) := by
  have hsplit := Occurrence.before_around_append front die back
  have htext : front ++ die :: back = (Occurrence.around front die back).before ++
      ((Occurrence.around front die back).expression.lead ++ die :: back) := by
    rw [← List.append_assoc, hsplit]
  rw [find?_eq_some_iff_read?]
  refine ⟨?_, ?_, fun k hk => ?_⟩
  · rw [htext, List.take_left]
  · rw [htext, List.drop_left]
    exact Occurrence.read?_around hdie
  -- a word that began earlier would have its `d` in the same place
  · rw [read?_eq_none_iff]
    rintro word ⟨e, he, rfl⟩ ⟨rest, hrest⟩
    have hlt : k < front.length := by
      have hlength := congrArg List.length hsplit
      rw [List.length_append] at hlength
      omega
    rw [List.drop_append_of_le_length (Nat.le_of_lt hlt)] at hrest
    have hlead := lead_eq_of_first_die he (fun c hc => hfront c (List.mem_of_mem_drop hc)) hdie
      hrest
    have hle : (Occurrence.around front die back).before.length ≤ (front.take k).length :=
      Occurrence.length_before_around_le he (by rw [hlead, List.take_append_drop])
    rw [List.length_take] at hle
    omega

end Around

/-! ### The first `d` of a text -/

theorem exists_first_die {cs : List Char} (h : ¬ ∀ c ∈ cs, isDie c = false) :
    ∃ front die back, cs = front ++ die :: back ∧ (∀ c ∈ front, isDie c = false) ∧ isDie die := by
  cases hfind : cs.find? isDie with
  | none => exact absurd (fun c hc => Bool.eq_false_iff.mpr (List.find?_eq_none.mp hfind c hc)) h
  | some die =>
      obtain ⟨hdie, front, back, rfl, hfront⟩ := List.find?_eq_some_iff_append.mp hfind
      exact ⟨front, die, back, rfl, fun c hc => (Bool.not_eq_true' _).mp (hfront c hc), hdie⟩

theorem findIdx?_split {front back : List Char} {die : Char}
    (hfront : ∀ c ∈ front, isDie c = false) (hdie : isDie die) :
    (front ++ die :: back).findIdx? isDie = some front.length := by
  rw [List.findIdx?_append, List.findIdx?_eq_none_iff.mpr hfront, List.findIdx?_cons, if_pos hdie]
  simp

/-- The position of the first `d` splits the text there. -/
theorem findIdx?_eq_some_iff_split {cs : List Char} {i : Nat} :
    cs.findIdx? isDie = some i ↔ ∃ front die back, cs = front ++ die :: back ∧
      (∀ c ∈ front, isDie c = false) ∧ isDie die ∧ front.length = i := by
  constructor
  · intro h
    have hdie : ¬ ∀ c ∈ cs, isDie c = false := fun hall => by
      rw [List.findIdx?_eq_none_iff.mpr hall] at h
      cases h
    obtain ⟨front, die, back, rfl, hfront, hdie⟩ := exists_first_die hdie
    rw [findIdx?_split hfront hdie] at h
    exact ⟨front, die, back, rfl, hfront, hdie, Option.some.inj h⟩
  · rintro ⟨front, die, back, rfl, hfront, hdie, rfl⟩
    exact findIdx?_split hfront hdie

theorem find?_eq_aroundDie? (cs : List Char) : find? cs = aroundDie? cs := by
  by_cases h : ∀ c ∈ cs, isDie c = false
  · rw [aroundDie?_of_forall h, find?_eq_none_iff_forall.mpr h]
  · obtain ⟨front, die, back, rfl, hfront, hdie⟩ := exists_first_die h
    rw [aroundDie?_split hfront hdie, find?_split hfront hdie]

/-! ### All words that hold the first `d` -/

/-- The position after an occurrence. -/
def Occurrence.stop (o : Occurrence) : Nat := o.before.length + o.expression.chars.length

/-- `o` is an occurrence in `cs` of a word of the grammar. -/
structure Occurrence.IsIn (cs : List Char) (o : Occurrence) : Prop where
  text : o.text = cs
  wellFormed : o.expression.WellFormed

/-- The character at position `i` of the text belongs to the occurrence. -/
def Occurrence.Holds (i : Nat) (o : Occurrence) : Prop := o.before.length ≤ i ∧ i < o.stop

/-- `o` is an occurrence in `cs` that holds position `i`, and within it lies every occurrence that
holds position `i`. -/
structure Occurrence.Encloses (cs : List Char) (i : Nat) (o : Occurrence) : Prop where
  isIn : o.IsIn cs
  holds : o.Holds i
  others : ∀ o' : Occurrence, o'.IsIn cs → o'.Holds i →
    o.before.length ≤ o'.before.length ∧ o'.stop ≤ o.stop

/-- Only one occurrence encloses all others. -/
theorem Occurrence.Encloses.unique {cs : List Char} {i : Nat} {o o' : Occurrence}
    (h : o.Encloses cs i) (h' : o'.Encloses cs i) : o = o' := by
  obtain ⟨hbefore, hstop⟩ := h.others o' h'.isIn h'.holds
  obtain ⟨hbefore', hstop'⟩ := h'.others o h.isIn h.holds
  have htext : o.before ++ (o.expression.chars ++ o.after) =
      o'.before ++ (o'.expression.chars ++ o'.after) := by
    rw [← List.append_assoc, ← List.append_assoc]
    exact h.isIn.text.trans h'.isIn.text.symm
  obtain ⟨hb, hrest⟩ := List.append_inj htext (Nat.le_antisymm hbefore hbefore')
  have hlength : o.expression.chars.length = o'.expression.chars.length := by
    rw [stop, stop] at hstop hstop'
    omega
  obtain ⟨hchars, hafter⟩ := List.append_inj hrest hlength
  exact Occurrence.ext hb (h.isIn.wellFormed.chars_inj h'.isIn.wellFormed hchars) hafter

section FirstDie

variable {front back : List Char} {die : Char}

/-- An occurrence that holds the first `d` of a text has it as its own `d`. -/
theorem Occurrence.IsIn.split {o : Occurrence} (h : o.IsIn (front ++ die :: back))
    (hfront : ∀ c ∈ front, isDie c = false) (hdie : isDie die)
    (hle : o.before.length ≤ front.length) :
    o.before ++ o.expression.lead = front ∧ o.expression.tail ++ o.after = back := by
  have htext : (o.before ++ o.expression.lead) ++
      o.expression.die :: (o.expression.tail ++ o.after) = front ++ die :: back := by
    rw [← h.text, Occurrence.text, ← lead_append o.expression]
    simp only [List.append_assoc, List.cons_append]
  have hprefix : o.before <+: front ++ die :: back := by
    rw [← htext, List.append_assoc]
    exact List.prefix_append _ _
  have hbefore : o.before <+: front :=
    List.prefix_of_prefix_length_le hprefix (List.prefix_append _ _) hle
  obtain ⟨hlead, -, hback⟩ := split_first_unique (fun c hc => by
    rcases List.mem_append.mp hc with hc | hc
    · exact hfront c (hbefore.subset hc)
    · exact not_isDie_of_mem_lead h.wellFormed hc) h.wellFormed.isDie hfront hdie htext
  exact ⟨hlead, hback⟩

/-- Where an occurrence ends is told by its `d` and what it writes after it. -/
theorem Occurrence.stop_of_split {o : Occurrence} (h : o.before ++ o.expression.lead = front) :
    o.stop = front.length + 1 + o.expression.tail.length := by
  rw [stop, ← lead_append o.expression, ← h, List.length_append, List.length_append,
    List.length_cons]
  omega

theorem Occurrence.isIn_around (hdie : isDie die) :
    (around front die back).IsIn (front ++ die :: back) where
  text := by
    have hlead := before_around_append front die back
    have htail := tail_around_append front die back
    calc (around front die back).text
      _ = ((around front die back).before ++ (around front die back).expression.lead) ++
            die :: ((around front die back).expression.tail ++ (around front die back).after) := by
          rw [Occurrence.text, ← lead_append]
          simp only [List.append_assoc, List.cons_append]
          rfl
      _ = front ++ die :: back := by rw [hlead, htail]
  wellFormed := wellFormed_around hdie

/-- The occurrence around the first `d` encloses all others that hold it. -/
theorem Occurrence.encloses_around (hfront : ∀ c ∈ front, isDie c = false) (hdie : isDie die) :
    (around front die back).Encloses (front ++ die :: back) front.length where
  isIn := isIn_around hdie
  holds := by
    have hlead := before_around_append front die back
    have hlength := congrArg List.length hlead
    rw [List.length_append] at hlength
    rw [Holds, stop_of_split hlead]
    omega
  others o' h hholds := by
    obtain ⟨hlead', htail'⟩ := h.split hfront hdie hholds.1
    have htail : o'.expression.tail.length ≤ (around front die back).expression.tail.length := by
      have hle := h.wellFormed.length_tail_le o'.after
      rw [htail'] at hle
      exact hle
    refine ⟨length_before_around_le h.wellFormed hlead', ?_⟩
    rw [stop_of_split hlead', stop_of_split (before_around_append front die back)]
    omega

end FirstDie

/-- What is found is the occurrence that encloses all others that hold the first `d`. -/
theorem find?_eq_some_iff_encloses {cs : List Char} {o : Occurrence} :
    find? cs = some o ↔ ∃ i, cs.findIdx? isDie = some i ∧ o.Encloses cs i := by
  constructor
  · intro h
    have hdie : ¬ ∀ c ∈ cs, isDie c = false := fun hall => by
      rw [find?_eq_none_iff_forall.mpr hall] at h
      cases h
    obtain ⟨front, die, back, rfl, hfront, hdie⟩ := exists_first_die hdie
    rw [find?_split hfront hdie] at h
    cases h
    exact ⟨front.length, findIdx?_split hfront hdie, Occurrence.encloses_around hfront hdie⟩
  · rintro ⟨i, hi, ho⟩
    obtain ⟨front, die, back, rfl, hfront, hdie, rfl⟩ := findIdx?_eq_some_iff_split.mp hi
    rw [find?_split hfront hdie, (Occurrence.encloses_around hfront hdie).unique ho]

end Expression

/-! ### What the strict policy reads -/

theorem interpretUnder_strict_eq_ok_iff {text : String} {i : Interpretation} :
    interpretUnder .strict text = .ok i ↔ interpret? text = some i := by
  rw [interpretUnder]
  cases interpret? text with
  | none =>
      constructor
      · intro h; cases h
      · intro h; cases h
  | some j =>
      constructor
      · intro h; cases h; rfl
      · intro h; cases h; rfl

open Expression in
/-- **Around the first `d`.**  The strict policy reads a text if and only if it has a `d`, of either
case.  What it reads is then the word that holds the first `d` and, wherever a word that holds the
first `d` occurs, the whole of that occurrence; it is told by going from the first `d` as far as it
goes on both sides. -/
theorem interpretUnder_strict_around (text : String) :
    ((∃ i, interpretUnder .strict text = .ok i) ↔ 'd' ∈ text.toList ∨ 'D' ∈ text.toList) ∧
      (∀ i, interpretUnder .strict text = .ok i ↔
        ∃ o, find? text.toList = some o ∧ o.expression.interpretation = i) ∧
      (∀ o, find? text.toList = some o ↔
        ∃ k, text.toList.findIdx? isDie = some k ∧ o.Encloses text.toList k) ∧
      find? text.toList = aroundDie? text.toList := by
  refine ⟨?_, fun i => ?_, fun o => find?_eq_some_iff_encloses, find?_eq_aroundDie? _⟩
  · cases h : hasDie text with
    | true =>
        refine iff_of_true ⟨interpret text, interpretUnder_of_hasDie h .strict⟩ ?_
        rwa [hasDie, Bool.or_eq_true, decide_eq_true_iff, decide_eq_true_iff] at h
    | false =>
        refine iff_of_false ?_ (not_or.mpr (hasDie_eq_false.mp h))
        rintro ⟨i, hi⟩
        rw [interpretUnder_strict_of_not_hasDie h] at hi
        cases hi
  · rw [interpretUnder_strict_eq_ok_iff, interpret?, Option.map_eq_some_iff]

/-- The repetition is the one that ends at the dice; the others stand before it. -/
example : (Expression.aroundDie? "3x4 x 05d6*L d2".toList).map (fun o => (o.before, o.after)) =
    some ("3x".toList, "*L d2".toList) := by
  decide

end TabletopDice
