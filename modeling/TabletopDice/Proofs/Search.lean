import TabletopDice.Proofs.Reading

/-!
# Expressions — the first one in a text

`Expression.find?` tries the positions of a text from the left and takes what the reader gives at
the first one where it gives anything.  It never returns to a position, and the reader never gives
up what it has read; still nothing is missed.

**Leftmost and longest** (`find?_spec`).  There is no occurrence if and only if no part of the text
is a word; otherwise the occurrence is the one that *leads* the text (`Occurrence.Leads`): it begins
where the first word of the text begins, it is the longest word that begins there, and its
expression is the only one that the word is written from.
-/

namespace TabletopDice.Expression

/-! ### Positions -/

theorem find?_eq_none_iff_read? {cs : List Char} :
    find? cs = none ↔ ∀ k, read? (cs.drop k) = none := by
  induction cs with
  | nil => exact ⟨fun _ k => by rw [List.drop_nil]; rfl, fun _ => rfl⟩
  | cons c cs ih =>
      rw [find?]
      constructor
      · intro h k
        split at h
        · cases h
        · rename_i hread
          cases k with
          | zero => exact hread
          | succ k => exact ih.mp (Option.map_eq_none_iff.mp h) k
      · intro h
        have hread : read? (c :: cs) = none := h 0
        rw [hread]
        exact Option.map_eq_none_iff.mpr (ih.mpr fun k => h (k + 1))

/-- What is found stands at the first position at which something is read. -/
theorem find?_eq_some_iff_read? {cs : List Char} {o : Occurrence} :
    find? cs = some o ↔ o.before = cs.take o.before.length ∧
      read? (cs.drop o.before.length) = some (o.expression, o.after) ∧
      ∀ k < o.before.length, read? (cs.drop k) = none := by
  induction cs generalizing o with
  | nil =>
      constructor
      · intro h; cases h
      · rintro ⟨-, h, -⟩
        rw [List.drop_nil] at h
        cases h
  | cons c cs ih =>
      rw [find?]
      cases hread : read? (c :: cs) with
      -- something is read here, so this is the position
      | some p =>
          constructor
          · intro h
            cases h
            exact ⟨rfl, hread, fun k hk => (nomatch hk)⟩
          · rintro ⟨hbefore, hat, hfirst⟩
            cases hb : o.before with
            | nil =>
                rw [hb, List.length_nil, List.drop_zero, hread] at hat
                cases hat
                exact congrArg some (Occurrence.ext hb.symm rfl rfl)
            | cons x before =>
                have hnone := hfirst 0 (by simp [hb])
                rw [List.drop_zero, hread] at hnone
                cases hnone
      -- nothing is read here, and the other positions are those of `cs`, moved by one
      | none =>
          constructor
          · intro h
            obtain ⟨o', ho', rfl⟩ := Option.map_eq_some_iff.mp h
            obtain ⟨hbefore, hat, hfirst⟩ := ih.mp ho'
            refine ⟨congrArg (c :: ·) hbefore, hat, fun k hk => ?_⟩
            cases k with
            | zero => exact hread
            | succ k => exact hfirst k (Nat.lt_of_succ_lt_succ hk)
          · rintro ⟨hbefore, hat, hfirst⟩
            cases hb : o.before with
            | nil =>
                rw [hb, List.length_nil, List.drop_zero, hread] at hat
                cases hat
            | cons x before =>
                rw [hb, List.length_cons] at hbefore hat hfirst
                obtain ⟨rfl, htake⟩ := List.cons.inj hbefore
                refine Option.map_eq_some_iff.mpr ⟨⟨before, o.expression, o.after⟩, ih.mpr
                  ⟨htake, hat, fun k hk => hfirst (k + 1) (Nat.succ_lt_succ hk)⟩, ?_⟩
                exact Occurrence.ext hb.symm rfl rfl

/-! ### The leading occurrence -/

/-- `o` is the occurrence in `cs` that begins first, the longest that begins there, and the only
reading of its word. -/
structure Occurrence.Leads (cs : List Char) (o : Occurrence) : Prop where
  /-- The occurrence is a part of the text. -/
  text : o.text = cs
  /-- Its expression is one of the grammar. -/
  wellFormed : o.expression.WellFormed
  /-- No word begins before it. -/
  first : ∀ k word, IsWord word → word <+: cs.drop k → o.before.length ≤ k
  /-- No longer word begins where it begins. -/
  longest : ∀ word, IsWord word → word <+: cs.drop o.before.length →
    word.length ≤ o.expression.chars.length
  /-- No other expression is written as its word. -/
  derivation : ∀ e : Expression, e.WellFormed → e.chars = o.expression.chars → e = o.expression

theorem infix_iff_prefix_drop {word cs : List Char} : word <:+: cs ↔ ∃ k, word <+: cs.drop k := by
  constructor
  · rintro ⟨before, after, rfl⟩
    exact ⟨before.length, after, by simp⟩
  · rintro ⟨k, hk⟩
    exact hk.isInfix.trans (List.drop_suffix k cs).isInfix

theorem find?_eq_none_iff {cs : List Char} :
    find? cs = none ↔ ∀ word, IsWord word → ¬ word <:+: cs := by
  simp only [find?_eq_none_iff_read?, read?_eq_none_iff, infix_iff_prefix_drop, not_exists]
  exact ⟨fun h word hw k => h k word hw, fun h k word hw => h word hw k⟩

theorem find?_eq_some_iff {cs : List Char} {o : Occurrence} :
    find? cs = some o ↔ o.Leads cs := by
  rw [find?_eq_some_iff_read?, read?_eq_some_iff]
  constructor
  · rintro ⟨hbefore, ⟨hwf, hat, hlongest⟩, hfirst⟩
    refine ⟨?_, hwf, fun k word hword hp => ?_, hlongest, fun e he => he.chars_inj hwf⟩
    · have htext := List.take_append_drop o.before.length cs
      rwa [← hbefore, ← hat, ← List.append_assoc] at htext
    · refine Nat.le_of_not_lt fun hk => ?_
      exact read?_eq_none_iff.mp (hfirst k hk) word hword hp
  · intro h
    have htext := h.text
    rw [Occurrence.text, List.append_assoc] at htext
    refine ⟨?_, ⟨h.wellFormed, ?_, h.longest⟩, fun k hk => ?_⟩
    · rw [← htext, List.take_left]
    · rw [← htext, List.drop_left]
    · refine read?_eq_none_iff.mpr fun word hword hp => ?_
      exact Nat.not_lt.mpr (h.first k word hword hp) hk

/-- **Leftmost and longest.**  Nothing is found if and only if no part of the text is a word; and an
occurrence is found if and only if it leads the text. -/
theorem find?_spec (cs : List Char) :
    (find? cs = none ↔ ∀ word, IsWord word → ¬ word <:+: cs) ∧
      ∀ o : Occurrence, find? cs = some o ↔ o.Leads cs :=
  ⟨find?_eq_none_iff, fun _ => find?_eq_some_iff⟩

/-- The `3x` before the occurrence and the `*L` after it only begin like parts of one. -/
example : (find? "3x4x5d6*L".toList).map (fun o => (o.before, o.expression.chars, o.after)) =
    some ("3x".toList, "4x5d6".toList, "*L".toList) := by
  decide

end TabletopDice.Expression
