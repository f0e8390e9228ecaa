import TabletopDice.Proofs.Runs
import TabletopDice.Proofs.Search

/-!
# Expressions — the letter that one is found by

The only letter that every expression has is its `d`, and it has it in one place: what is written
before it are digits, blanks and an `x`.  So the `d` alone decides whether a text holds an
expression (`find?_eq_none_iff_forall`), and an expression that begins before the first `d` of a
text ends what it writes before its own `d` there (`lead_eq_of_first_die`).
-/

namespace TabletopDice

namespace Expression

/-! ### Letters that are no `d` -/

theorem isDie_iff {c : Char} : isDie c ↔ c = 'd' ∨ c = 'D' := by
  rw [isDie, Bool.or_eq_true, decide_eq_true_iff, decide_eq_true_iff]

theorem forall_not_isDie_iff {cs : List Char} :
    (∀ c ∈ cs, isDie c = false) ↔ 'd' ∉ cs ∧ 'D' ∉ cs := by
  constructor
  · intro h
    exact ⟨fun hd => (nomatch h 'd' hd), fun hD => (nomatch h 'D' hD)⟩
  · rintro ⟨hd, hD⟩ c hc
    cases hdie : isDie c with
    | false => rfl
    | true =>
        rcases isDie_iff.mp hdie with rfl | rfl
        · exact absurd hc hd
        · exact absurd hc hD

/-! ### What stands before the `d` -/

/-- The parts before the `d`, as they are written. -/
def lead (e : Expression) : List Char := (e.repetition?.map Repetition.chars).getD [] ++ e.dice

theorem lead_append (e : Expression) : e.lead ++ e.die :: e.tail = e.chars := by
  rw [lead, tail, chars, List.append_assoc, List.append_assoc, List.append_assoc]
  rfl

/-- The characters that an expression may have before its `d`: digits, blanks and an `x`. -/
def isLead (c : Char) : Bool := c.isDigit || c.isWhitespace || isCross c

theorem isLead_iff {c : Char} : isLead c ↔ c.isDigit ∨ c.isWhitespace ∨ isCross c := by
  rw [isLead, Bool.or_eq_true, Bool.or_eq_true, or_assoc]

theorem not_isDie_of_isLead {c : Char} (h : isLead c) : isDie c = false := by
  refine not_mem_class_symm (fun x hx => ?_) c h
  obtain ⟨hd, hw, hc⟩ := isDie_class hx
  rw [isLead, hd, hw, hc]
  rfl

theorem Repetition.isLead_of_mem {r : Repetition} (h : r.WellFormed) {c : Char}
    (hc : c ∈ r.chars) : isLead c := by
  rw [isLead_iff]
  simp only [Repetition.chars, List.mem_append, List.mem_cons] at hc
  rcases hc with (hc | hc) | rfl | hc
  · exact .inl (h.isDigit c hc)
  · exact .inr (.inl (h.before_isBlank c hc))
  · exact .inr (.inr h.isCross)
  · exact .inr (.inl (h.after_isBlank c hc))

theorem isLead_of_mem_lead {e : Expression} (h : e.WellFormed) {c : Char} (hc : c ∈ e.lead) :
    isLead c := by
  rcases List.mem_append.mp hc with hc | hc
  · cases hr : e.repetition? with
    | none => rw [hr] at hc; cases hc
    | some r =>
        rw [hr] at hc
        exact Repetition.isLead_of_mem (h.repetition r hr) hc
  · exact isLead_iff.mpr (.inl (h.dice_isDigit c hc))

theorem not_isDie_of_mem_lead {e : Expression} (h : e.WellFormed) {c : Char}
    (hc : c ∈ e.lead) : isDie c = false :=
  not_isDie_of_isLead (isLead_of_mem_lead h hc)

/-- An expression at the start of a text whose first `d` comes after `front` writes `front` before
its own `d`. -/
theorem lead_eq_of_first_die {e : Expression} (h : e.WellFormed) {front rest rest' : List Char}
    {die : Char} (hfront : ∀ c ∈ front, isDie c = false) (hdie : isDie die)
    (htext : e.chars ++ rest' = front ++ die :: rest) : e.lead = front := by
  rw [← lead_append, List.append_assoc, List.cons_append] at htext
  exact (split_first_unique (fun c hc => not_isDie_of_mem_lead h hc) h.isDie hfront hdie htext).1

/-! ### Which texts hold an expression -/

/-- A `d` alone is an expression: everything else may be missing. -/
theorem isWord_die {die : Char} (h : isDie die) : IsWord [die] := by
  refine ⟨⟨none, [], die, [], none⟩, ⟨?_, ?_, h, ?_, ?_⟩, rfl⟩
  · intro r hr; cases hr
  · intro c hc; cases hc
  · intro c hc; cases hc
  · intro m hm; cases hm

theorem IsWord.exists_isDie {word : List Char} (h : IsWord word) : ∃ c ∈ word, isDie c := by
  obtain ⟨e, he, rfl⟩ := h
  refine ⟨e.die, ?_, he.isDie⟩
  rw [← lead_append]
  simp

/-- **Which texts hold an expression.**  Nothing is found if and only if the text has no `d`. -/
theorem find?_eq_none_iff_forall {cs : List Char} :
    find? cs = none ↔ ∀ c ∈ cs, isDie c = false := by
  rw [find?_eq_none_iff]
  constructor
  · intro h c hc
    cases hd : isDie c with
    | false => rfl
    | true =>
        obtain ⟨before, after, rfl⟩ := List.append_of_mem hc
        exact absurd ⟨before, after, by simp⟩ (h [c] (isWord_die hd))
  · rintro h word hword hpart
    obtain ⟨c, hc, hd⟩ := hword.exists_isDie
    rw [h c (hpart.subset hc)] at hd
    cases hd

end Expression

end TabletopDice
