import TabletopDice.Proofs.AroundDie
import TabletopDice.Proofs.Written

/-!
# Interpretations — what stands around an expression

Text before and after an expression is not read, as long as it does not join the expression.  What
stands before it and holds no `d` can join it only by characters that an expression has before its
`d`, so one other character in between keeps them apart (`find?_append_left`).  After it the reader
looks no further than two characters: the first one ends a run of digits, and it takes a second one
only to see whether an operator has a number or a letter (`find?_append_right`).

**Surroundings are not read** (`interpret_surrounded`).
-/

namespace TabletopDice

namespace Expression

/-! ### Text before an expression -/

/-- The occurrence in a text that has `front` in front. -/
def Occurrence.behind (front : List Char) (o : Occurrence) : Occurrence :=
  { o with before := front ++ o.before }

/-- No word begins in a text without a `d` and goes on behind it, unless the text ends with a
character that an expression may have before its `d`. -/
theorem read?_append_eq_none {before : List Char} (hne : before ≠ [])
    (hdie : ∀ c ∈ before, isDie c = false) (hlast : ∀ c ∈ before.getLast?, isLead c = false)
    (cs : List Char) : read? (before ++ cs) = none := by
  rw [read?_eq_none_iff]
  rintro word hword ⟨rest, hrest⟩
  by_cases hcs : ∀ c ∈ cs, isDie c = false
  · -- a word has a `d`, and there is none
    obtain ⟨c, hc, hd⟩ := hword.exists_isDie
    have hmem : c ∈ before ++ cs := by
      rw [← hrest]
      exact List.mem_append_left rest hc
    rw [List.forall_mem_append.mpr ⟨hdie, hcs⟩ c hmem] at hd
    cases hd
  · -- the word writes the last character of `before` on its way to the first `d`
    obtain ⟨front, die, back, rfl, hfront, hd⟩ := exists_first_die hcs
    obtain ⟨e, he, rfl⟩ := hword
    rw [← List.append_assoc] at hrest
    have hlead : e.lead = before ++ front :=
      lead_eq_of_first_die he (List.forall_mem_append.mpr ⟨hdie, hfront⟩) hd hrest
    have hmem : before.getLast hne ∈ e.lead := by
      rw [hlead]
      exact List.mem_append_left front (List.getLast_mem hne)
    have hclass := isLead_of_mem_lead he hmem
    rw [hlast _ (List.getLast?_eq_some_getLast hne)] at hclass
    cases hclass

/-- **Text before an expression.**  What is found stays what it is behind a text without a `d` that
ends with no character that an expression may have before its `d`. -/
theorem find?_append_left {before : List Char} (hdie : ∀ c ∈ before, isDie c = false)
    (hlast : ∀ c ∈ before.getLast?, isLead c = false) (cs : List Char) :
    find? (before ++ cs) = (find? cs).map (.behind before) := by
  induction before with
  | nil => exact Option.map_id'.symm
  | cons c before ih =>
      have hread := read?_append_eq_none (List.cons_ne_nil c before) hdie hlast cs
      have hlast' : ∀ x ∈ before.getLast?, isLead x = false := by
        intro x hx
        refine hlast x ?_
        rw [List.getLast?_cons, Option.mem_def.mp hx]
        rfl
      rw [List.cons_append] at hread ⊢
      rw [find?, hread, ih (fun x hx => hdie x (List.mem_cons_of_mem c hx)) hlast', Option.map_map]
      rfl

/-! ### Text after an expression -/

/-- The occurrence in a text that has `more` behind it. -/
def Occurrence.followed (more : List Char) (o : Occurrence) : Occurrence :=
  { o with after := o.after ++ more }

/-- What keeps an expression from going on behind it: two characters, or one that is no operator. -/
def Settles (after : List Char) : Prop :=
  2 ≤ after.length ∨ ∃ c, after = [c] ∧ Modifier.isOperator c = false

theorem Settles.ne_nil {after : List Char} (h : Settles after) : after ≠ [] := by
  rcases h with h | ⟨c, rfl, -⟩
  · rw [← List.length_pos_iff]
    omega
  · exact List.cons_ne_nil c []

end Expression

namespace Modifier

/-- A modifier that ends inside a text ends there whatever follows the text. -/
theorem scan?_append_of_some {cs m rest : List Char} (h : scan? cs = some (m, rest))
    (hrest : rest ≠ []) (more : List Char) : scan? (cs ++ more) = some (m, rest ++ more) := by
  obtain ⟨hm, rfl⟩ := written_of_scan? h
  rw [List.append_assoc]
  cases hm with
  | marker hs hl => exact scan?_marker hs hl _
  | number hop ne hd =>
      -- no digit is left for the modifier, so `rest` begins with another character
      rw [scan?_number hop ne hd] at h
      have hstop : rest.takeWhile Char.isDigit = [] := by simpa using h
      obtain ⟨c, tail, rfl⟩ := List.exists_cons_of_ne_nil hrest
      refine (Written.number hop ne hd).scan?_before fun x hx => ?_
      cases hx
      refine Bool.eq_false_iff.mpr fun hdigit => ?_
      rw [List.takeWhile_cons_of_pos hdigit] at hstop
      cases hstop

/-- A modifier is told by its first two characters, and the first of them is an operator. -/
theorem Written.cons_cons {m : List Char} (h : Written m) :
    ∃ first second tail, m = first :: second :: tail ∧ isOperator first ∧
      ∀ rest, scan? (first :: second :: rest) ≠ none := by
  cases h with
  | marker hs hl =>
      refine ⟨_, _, [], rfl, isOperator_of_isSign hs, fun rest hnone => ?_⟩
      rw [scan?_marker hs hl] at hnone
      cases hnone
  | number hop ne hd =>
      obtain ⟨digit, digits, rfl⟩ := List.exists_cons_of_ne_nil ne
      have hdigit : ∀ c ∈ [digit], c.isDigit := fun c hc => by
        rw [List.mem_singleton.mp hc]
        exact hd digit List.mem_cons_self
      refine ⟨_, _, digits, rfl, hop, fun rest hnone => ?_⟩
      have hscan := scan?_number hop (List.cons_ne_nil digit []) hdigit rest
      rw [List.cons_append, List.singleton_append, hnone] at hscan
      cases hscan

/-- Where two characters begin no modifier, or one is no operator, none is scanned whatever
follows. -/
theorem scan?_append_of_none {cs : List Char} (h : scan? cs = none)
    (hcs : Expression.Settles cs) (more : List Char) : scan? (cs ++ more) = none := by
  cases hscan : scan? (cs ++ more) with
  | none => rfl
  | some p =>
      obtain ⟨m, rest⟩ := p
      obtain ⟨hm, htext⟩ := written_of_scan? hscan
      obtain ⟨first, second, tail, rfl, hop, hnone⟩ := hm.cons_cons
      rw [List.cons_append, List.cons_append] at htext
      rcases hcs with hlength | ⟨c, rfl, hc⟩
      · match cs, hlength with
        | a :: b :: cs, _ =>
          obtain ⟨rfl, hsecond⟩ := List.cons.inj htext
          obtain ⟨rfl, -⟩ := List.cons.inj hsecond
          exact absurd h (hnone cs)
      · obtain ⟨rfl, -⟩ := List.cons.inj htext
        rw [hc] at hop
        cases hop

end Modifier

namespace Expression

/-- A modifier is read alike, and nothing is lost, with more text behind what settles it. -/
theorem readModifier_append {cs : List Char} (h : Settles (readModifier cs).2)
    (more : List Char) :
    readModifier (cs ++ more) = ((readModifier cs).1, (readModifier cs).2 ++ more) := by
  rw [readModifier] at h
  cases hscan : Modifier.scan? cs with
  | some p =>
      rw [hscan] at h
      have hmore := Modifier.scan?_append_of_some hscan h.ne_nil more
      rw [readModifier_some hscan, readModifier_some hmore]
  | none =>
      rw [hscan] at h
      rw [readModifier, readModifier, hscan, Modifier.scan?_append_of_none hscan h more]

/-- **Text after an expression.**  What is found stays what it is before any other text, once it is
settled by what stands between. -/
theorem find?_append_right {cs : List Char} {o : Occurrence} (h : find? cs = some o)
    (hafter : Settles o.after) (more : List Char) :
    find? (cs ++ more) = some (o.followed more) := by
  have hdie : ¬ ∀ c ∈ cs, isDie c = false := fun hall => by
    rw [find?_eq_none_iff_forall.mpr hall] at h
    cases h
  obtain ⟨front, die, back, rfl, hfront, hdie⟩ := exists_first_die hdie
  rw [find?_split hfront hdie] at h
  cases h
  -- the sides end inside the text, since the modifier and the rest stand behind them
  have hback : back.dropWhile Char.isDigit ≠ [] := by
    rw [← (readModifier_spec (back.dropWhile Char.isDigit)).2]
    exact List.append_ne_nil_of_right_ne_nil _ hafter.ne_nil
  obtain ⟨htake, hdrop⟩ := span_append hback more
  rw [List.append_assoc, List.cons_append, find?_split hfront hdie, Occurrence.around, htake, hdrop,
    readModifier_append hafter]
  rfl

end Expression

/-! ### Texts -/

open Expression in
/-- **Surroundings are not read.**  A text without a `d`, put before another one, changes nothing of
the roll that is read, if it ends with no character that an expression may have before its `d`: no
digit, no blank and no `x`.  And a text with an expression is read as it is whatever follows it,
more expressions included, if at least two characters stand behind the expression, or one that is
no operator. -/
theorem interpret_surrounded :
    (∀ before text : String, 'd' ∉ before.toList ∧ 'D' ∉ before.toList →
      (∀ c ∈ before.toList.getLast?, isLead c = false) →
      (interpret (before ++ text)).roll = (interpret text).roll) ∧
    ∀ (text after : String) (o : Occurrence), find? text.toList = some o → Settles o.after →
      interpret (text ++ after) = interpret text := by
  refine ⟨fun before text hdie hlast => ?_, fun text after o h hafter => ?_⟩
  · have hfind := find?_append_left (forall_not_isDie_iff.mpr hdie) hlast text.toList
    rw [← String.toList_append] at hfind
    cases h : find? text.toList with
    | none =>
        rw [h, Option.map_none] at hfind
        rw [interpret_of_find?_eq_none hfind, interpret_of_find?_eq_none h]
    | some o =>
        rw [h, Option.map_some] at hfind
        rw [interpret_of_find? hfind, interpret_of_find? h]
        rfl
  · have hfind := find?_append_right h hafter after.toList
    rw [← String.toList_append] at hfind
    rw [interpret_of_find? hfind, interpret_of_find? h]
    rfl

/-- What stands before could begin an expression but for its last character, and what follows could
go on as a number or as another expression. -/
theorem interpret_surrounded_on_both_sides :
    ('d' ∉ "7 x 2x(".toList ∧ 'D' ∉ "7 x 2x(".toList) ∧
    (∀ c ∈ "7 x 2x(".toList.getLast?, Expression.isLead c = false) ∧
    (interpret ("7 x 2x(" ++ "3 x 4d6+L")).roll = (interpret "3 x 4d6+L").roll ∧
    (∃ o, Expression.find? "3 x 4d6*L".toList = some o ∧ Expression.Settles o.after) ∧
    interpret ("3 x 4d6*L" ++ "0x9d8") = interpret "3 x 4d6*L" := by
  obtain ⟨hbehind, hfollowed⟩ := interpret_surrounded
  have hdie : 'd' ∉ "7 x 2x(".toList ∧ 'D' ∉ "7 x 2x(".toList := by decide
  have hlast : ∀ c ∈ "7 x 2x(".toList.getLast?, Expression.isLead c = false := by
    intro c hc
    obtain rfl : '(' = c := Option.some.inj hc
    rfl
  have hfind : Expression.find? "3 x 4d6*L".toList = some ⟨[], ⟨some ⟨['3'], [' '], 'x', [' ']⟩,
      ['4'], 'd', ['6'], none⟩, ['*', 'L']⟩ := by decide
  have hsettles : Expression.Settles ['*', 'L'] := .inl (Nat.le_refl 2)
  exact ⟨hdie, hlast, hbehind _ _ hdie hlast, ⟨_, hfind, hsettles⟩,
    hfollowed _ _ _ hfind hsettles⟩

/-- An operator alone settles nothing. -/
example : (interpret ("3d6+" ++ "1")).roll ≠ (interpret "3d6+").roll := by decide

end TabletopDice
