import TabletopDice.Interpretation
import TabletopDice.Proofs.Search

/-!
# Interpretations — the excerpt of a text

The excerpt is the part of a text that its roll was read from.  Outside the text nothing stands
before it that could belong to it and nothing after it that could be read along, and it is found
again from end to end (`Expression.WellFormed.find?_chars`): the reader takes the longest word, and
of its own word there is nothing left to take.

**The excerpt decides** (`excerpt_decides`).  An excerpt is read as the text that it was taken from,
with the same notices, and so two texts give the same roll if and only if they have the same
excerpt or neither has one.
-/

namespace TabletopDice

/-- An expression that stands alone is found, from its first character to its last. -/
theorem Expression.WellFormed.find?_chars {e : Expression} (h : e.WellFormed) :
    find? e.chars = some ⟨[], e, []⟩ := by
  rw [find?_eq_some_iff_read?]
  exact ⟨rfl, h.read?_chars, fun k hk => absurd hk (Nat.not_lt_zero k)⟩

/-- An excerpt is the word of the expression that was found. -/
theorem excerpt_eq_some_iff {text word : String} :
    (interpret text).roll.excerpt = some word ↔
      ∃ o, Expression.find? text.toList = some o ∧ o.expression.chars = word.toList := by
  cases hfind : Expression.find? text.toList with
  | none =>
      rw [interpret_of_find?_eq_none hfind]
      exact ⟨fun h => (nomatch h), fun ⟨o, ho, _⟩ => (nomatch ho)⟩
  | some o =>
      rw [interpret_of_find? hfind]
      show some (String.ofList o.expression.chars) = some word ↔ _
      rw [Option.some.injEq, String.ext_iff, String.toList_ofList]
      constructor
      · intro h
        exact ⟨o, rfl, h⟩
      · rintro ⟨o', ho', hword⟩
        rwa [Option.some.inj ho']

/-- Without an excerpt there is only the standard roll. -/
theorem roll_of_excerpt_eq_none {text : String} (h : (interpret text).roll.excerpt = none) :
    (interpret text).roll = .standard := by
  cases hfind : Expression.find? text.toList with
  | none => rw [interpret_of_find?_eq_none hfind]
  | some o =>
      rw [interpret_of_find? hfind] at h
      cases h

/-- An excerpt is a part of its text. -/
theorem exists_append_of_excerpt {text word : String}
    (h : (interpret text).roll.excerpt = some word) :
    ∃ before after : String, text = before ++ word ++ after := by
  obtain ⟨o, hfind, hword⟩ := excerpt_eq_some_iff.mp h
  have htext := (Expression.find?_eq_some_iff.mp hfind).text
  refine ⟨String.ofList o.before, String.ofList o.after, ?_⟩
  rw [String.ext_iff, String.toList_append, String.toList_append, String.toList_ofList,
    String.toList_ofList, ← hword, ← htext, Expression.Occurrence.text]

/-- An excerpt is read as its text is read. -/
theorem interpret_excerpt {text word : String}
    (h : (interpret text).roll.excerpt = some word) : interpret word = interpret text := by
  obtain ⟨o, hfind, hword⟩ := excerpt_eq_some_iff.mp h
  have hwf := (Expression.find?_eq_some_iff.mp hfind).wellFormed
  have halone : Expression.find? word.toList = some ⟨[], o.expression, []⟩ := by
    rw [← hword]
    exact hwf.find?_chars
  rw [interpret_of_find? halone, interpret_of_find? hfind]

/-- **The excerpt decides.**  The excerpt of a text is a part of it, and is read as the text is: with
the same counts, the same modifier, itself for its excerpt and the same notices.  Two texts give the
same roll if and only if they have the same excerpt, or neither of them has one. -/
theorem excerpt_decides :
    (∀ text word : String, (interpret text).roll.excerpt = some word →
      (∃ before after : String, text = before ++ word ++ after) ∧
      interpret word = interpret text) ∧
    ∀ a b : String, (interpret a).roll = (interpret b).roll ↔
      (interpret a).roll.excerpt = (interpret b).roll.excerpt := by
  refine ⟨fun text word h => ⟨exists_append_of_excerpt h, interpret_excerpt h⟩,
    fun a b => ⟨congrArg Roll.excerpt, fun h => ?_⟩⟩
  cases hword : (interpret a).roll.excerpt with
  | none =>
      rw [roll_of_excerpt_eq_none hword, roll_of_excerpt_eq_none (h.symm.trans hword)]
  | some word =>
      -- both rolls are the one of the excerpt alone
      rw [← interpret_excerpt hword, ← interpret_excerpt (h.symm.trans hword)]

/-- Two texts in which the same expression stands between what could belong to it. -/
theorem excerpt_decides_between :
    (interpret "3x4x05d6+2*L").roll.excerpt = some "4x05d6+2" ∧
    (interpret "4x05d6+2-").roll.excerpt = some "4x05d6+2" ∧
    interpret "4x05d6+2" = interpret "3x4x05d6+2*L" ∧
    (interpret "3x4x05d6+2*L").roll = (interpret "4x05d6+2-").roll := by
  have hleft : (interpret "3x4x05d6+2*L").roll.excerpt = some "4x05d6+2" := by decide
  have hright : (interpret "4x05d6+2-").roll.excerpt = some "4x05d6+2" := by decide
  obtain ⟨hexcerpt, hrolls⟩ := excerpt_decides
  exact ⟨hleft, hright, (hexcerpt _ _ hleft).2, (hrolls _ _).mpr (hleft.trans hright.symm)⟩

end TabletopDice
