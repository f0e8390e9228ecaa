import TabletopDice.Proofs.DieLetter
import TabletopDice.Proofs.Excerpts
import TabletopDice.Proofs.Requests

/-!
# Outcomes — what a printed line says

A printed line leaves much of an outcome out: a modifier that adds nothing, the range of the faces,
and whether there was an excerpt at all.  Still the outcome can be told from it.  What stands before
the first colon is the excerpt, since no expression has a colon, and the roll follows from the
excerpt (`roll_interpret_excerpt`).  So the modifier is known, and the groups can be told apart: a
number ends before a comma, a blank or the bracket, and a group with a known modifier at its bracket
(`readable_groups`).  Everything else in an outcome comes from the roll and the faces.

**A printed line says which outcome it is** (`outcome_of_written`).
-/

namespace TabletopDice

/-! ### Items in a row -/

/-- Items that can be told apart when they are written in a row.  `Follows` is what may follow an
item, and `Ends` is what may follow the last one. -/
structure Readable {α : Type} (write : α → List Char) (Follows Ends : List Char → Prop) :
    Prop where
  item : ∀ {x y rest rest'}, Follows rest → Follows rest' →
    write x ++ rest = write y ++ rest' → x = y ∧ rest = rest'
  follows_write : ∀ x rest, Follows (write x ++ rest)
  follows_of_ends : ∀ {rest}, Ends rest → Follows rest
  not_ends_write : ∀ x rest, ¬ Ends (write x ++ rest)

namespace Readable

variable {α : Type} {write : α → List Char} {Follows Ends : List Char → Prop}

theorem follows_row (h : Readable write Follows Ends) {rest : List Char} (hrest : Ends rest)
    (xs : List α) : Follows (xs.flatMap write ++ rest) := by
  cases xs with
  | nil => exact h.follows_of_ends hrest
  | cons x xs =>
      rw [List.flatMap_cons, List.append_assoc]
      exact h.follows_write x _

/-- Two rows with the same text have the same items, and the same text follows them. -/
theorem row_inj (h : Readable write Follows Ends) {xs ys : List α} {rest rest' : List Char}
    (hrest : Ends rest) (hrest' : Ends rest')
    (heq : xs.flatMap write ++ rest = ys.flatMap write ++ rest') : xs = ys ∧ rest = rest' := by
  induction xs generalizing ys with
  | nil =>
      cases ys with
      | nil => exact ⟨rfl, heq⟩
      | cons y ys =>
          rw [List.flatMap_nil, List.nil_append, List.flatMap_cons, List.append_assoc] at heq
          rw [heq] at hrest
          exact absurd hrest (h.not_ends_write y _)
  | cons x xs ih =>
      cases ys with
      | nil =>
          rw [List.flatMap_nil, List.nil_append, List.flatMap_cons, List.append_assoc] at heq
          rw [← heq] at hrest'
          exact absurd hrest' (h.not_ends_write x _)
      | cons y ys =>
          rw [List.flatMap_cons, List.flatMap_cons, List.append_assoc, List.append_assoc] at heq
          obtain ⟨rfl, htail⟩ := h.item (h.follows_row hrest xs) (h.follows_row hrest' ys) heq
          obtain ⟨rfl, rfl⟩ := ih htail
          exact ⟨rfl, rfl⟩

end Readable

/-! ### Faces and groups -/

/-- A numeral ends before the first character that is no digit. -/
theorem Text.natural_append_inj {m n : Nat} {rest rest' : List Char}
    (hrest : ∀ c ∈ rest.head?, c.isDigit = false) (hrest' : ∀ c ∈ rest'.head?, c.isDigit = false)
    (h : natural m ++ rest = natural n ++ rest') : m = n ∧ rest = rest' := by
  obtain ⟨htake, hdrop⟩ := span_run (fun c => isDigit_of_mem_natural (n := m)) hrest
  obtain ⟨htake', hdrop'⟩ := span_run (fun c => isDigit_of_mem_natural (n := n)) hrest'
  rw [h] at htake hdrop
  have hnatural : natural m = natural n := htake.symm.trans htake'
  refine ⟨?_, hdrop.symm.trans hdrop'⟩
  rw [← ofDigitChars_natural m, ← ofDigitChars_natural n, hnatural]

/-- A numeral begins with a digit. -/
theorem Text.natural_append_ne {n : Nat} {more rest : List Char}
    (hrest : ∀ c ∈ rest.head?, c.isDigit = false) : natural n ++ more ≠ rest := by
  rintro rfl
  obtain ⟨c, cs, hn⟩ := List.exists_cons_of_ne_nil (Nat.toDigits_ne_nil (n := n) (b := 10))
  have hdigit : c.isDigit := isDigit_of_mem_natural (n := n) (by simp [natural, hn])
  have hc : c ∈ (natural n ++ more).head? := by simp [natural, hn]
  rw [hrest c hc] at hdigit
  cases hdigit

theorem intercalate_cons {sep x : List Char} (xs : List (List Char)) :
    sep.intercalate (x :: xs) = x ++ xs.flatMap (sep ++ ·) := by
  induction xs generalizing x with
  | nil => simp
  | cons y xs ih =>
      rw [List.intercalate_cons_cons, ih, List.flatMap_cons, List.append_assoc, List.append_assoc]

/-- The faces of a group, with commas between them. -/
def facesChars (faces : List UInt32) : List Char :=
  [',', ' '].intercalate (faces.map fun f => Text.natural f.toNat)

/-- What may follow the faces of a group: no digit, and no comma. -/
def EndsFaces (rest : List Char) : Prop := ∀ c ∈ rest.head?, c.isDigit = false ∧ c ≠ ','

theorem facesChars_cons_append (face : UInt32) (faces : List UInt32) (rest : List Char) :
    facesChars (face :: faces) ++ rest = Text.natural face.toNat
      ++ (faces.flatMap (fun f => ',' :: ' ' :: Text.natural f.toNat) ++ rest) := by
  rw [facesChars, List.map_cons, intercalate_cons, List.flatMap_map, List.append_assoc]
  rfl

/-- The faces after the first one, each behind its comma. -/
theorem readable_faces : Readable (fun f : UInt32 => ',' :: ' ' :: Text.natural f.toNat)
    (fun rest => ∀ c ∈ rest.head?, c.isDigit = false) EndsFaces where
  item hrest hrest' h := by
    obtain ⟨hface, htail⟩ :=
      Text.natural_append_inj hrest hrest' (List.cons.inj (List.cons.inj h).2).2
    exact ⟨UInt32.toNat_inj.mp hface, htail⟩
  follows_write face rest := by
    rintro _ ⟨⟩
    rfl
  follows_of_ends h c hc := (h c hc).1
  not_ends_write face rest h := (h ',' rfl).2 rfl

theorem facesChars_append_inj {faces faces' : List UInt32} {rest rest' : List Char}
    (hrest : EndsFaces rest) (hrest' : EndsFaces rest')
    (h : facesChars faces ++ rest = facesChars faces' ++ rest') :
    faces = faces' ∧ rest = rest' := by
  cases faces with
  | nil =>
      cases faces' with
      | nil => exact ⟨rfl, h⟩
      | cons face' faces' =>
          rw [facesChars_cons_append] at h
          exact absurd h.symm (Text.natural_append_ne (readable_faces.follows_of_ends hrest))
  | cons face faces =>
      cases faces' with
      | nil =>
          rw [facesChars_cons_append] at h
          exact absurd h (Text.natural_append_ne (readable_faces.follows_of_ends hrest'))
      | cons face' faces' =>
          rw [facesChars_cons_append, facesChars_cons_append] at h
          obtain ⟨hface, htail⟩ := Text.natural_append_inj (readable_faces.follows_row hrest faces)
            (readable_faces.follows_row hrest' faces') h
          obtain ⟨rfl, rfl⟩ := readable_faces.row_inj hrest hrest' htail
          exact ⟨by rw [UInt32.toNat_inj.mp hface], rfl⟩

/-- What is printed of a group behind its faces, when this is its modifier. -/
def Group.close (m : Modifier) : List Char :=
  (if m = .zero then [] else ' ' :: m.text.toList) ++ [']']

theorem Group.chars_append (g : Group) (rest : List Char) :
    g.chars ++ rest = '[' :: (facesChars g.faces ++ (close g.modifier ++ rest)) := by
  simp only [chars, facesChars, close, List.append_assoc, List.cons_append]

/-- A blank or the bracket comes after the last face. -/
theorem Group.endsFaces_close (m : Modifier) (rest : List Char) :
    EndsFaces (close m ++ rest) := by
  rw [close]
  split
  all_goals
    rintro _ ⟨⟩
    exact ⟨rfl, by decide⟩

/-- The groups of an outcome, each behind its blank, when their modifier is known. -/
theorem readable_groups (m : Modifier) :
    Readable (fun faces : List UInt32 => ' ' :: (Group.mk faces m).chars) (fun _ => True)
      (fun rest => ∃ more, rest = " = ".toList ++ more) where
  item {faces faces' rest rest'} _ _ h := by
    rw [List.cons_append, List.cons_append, Group.chars_append, Group.chars_append] at h
    obtain ⟨hfaces, htail⟩ := facesChars_append_inj (Group.endsFaces_close m rest)
      (Group.endsFaces_close m rest') (List.cons.inj (List.cons.inj h).2).2
    exact ⟨hfaces, List.append_cancel_left htail⟩
  follows_write _ _ := trivial
  follows_of_ends _ := trivial
  not_ends_write faces rest h := by
    obtain ⟨more, hmore⟩ := h
    cases (List.cons.inj hmore).2

/-! ### The text before the colon -/

namespace Expression

/-- The characters that expressions are written with. -/
def isGlyph (c : Char) : Bool :=
  isLead c || isDie c || Modifier.isOperator c || Modifier.isMarkerLetter c

theorem isGlyph_iff {c : Char} : isGlyph c ↔
    isLead c ∨ isDie c ∨ Modifier.isOperator c ∨ Modifier.isMarkerLetter c := by
  simp only [isGlyph, Bool.or_eq_true, or_assoc]

theorem isGlyph_of_isDigit {c : Char} (h : c.isDigit) : isGlyph c :=
  isGlyph_iff.mpr (.inl (isLead_iff.mpr (.inl h)))

theorem isGlyph_of_mem_modifier {m : List Char} (h : Modifier.Written m) {c : Char}
    (hc : c ∈ m) : isGlyph c := by
  cases h with
  | number hop _ hd =>
      rcases List.mem_cons.mp hc with rfl | hc
      · exact isGlyph_iff.mpr (.inr (.inr (.inl hop)))
      · exact isGlyph_of_isDigit (hd c hc)
  | marker hs hl =>
      rw [List.mem_cons, List.mem_singleton] at hc
      rcases hc with rfl | rfl
      · exact isGlyph_iff.mpr (.inr (.inr (.inl (Modifier.isOperator_of_isSign hs))))
      · exact isGlyph_iff.mpr (.inr (.inr (.inr hl)))

theorem WellFormed.isGlyph_of_mem {e : Expression} (h : e.WellFormed) {c : Char}
    (hc : c ∈ e.chars) : isGlyph c := by
  rw [← lead_append, List.mem_append, List.mem_cons, tail, List.mem_append] at hc
  rcases hc with hc | rfl | hc | hc
  · exact isGlyph_iff.mpr (.inl (isLead_of_mem_lead h hc))
  · exact isGlyph_iff.mpr (.inr (.inl h.isDie))
  · exact isGlyph_of_isDigit (h.sides_isDigit c hc)
  · cases hm : e.modifier? with
    | none => rw [hm] at hc; cases hc
    | some m =>
        rw [hm] at hc
        exact isGlyph_of_mem_modifier (h.modifier m hm) hc

end Expression

theorem isGlyph_of_mem_excerpt {text word : String}
    (h : (interpret text).roll.excerpt = some word) {c : Char} (hc : c ∈ word.toList) :
    Expression.isGlyph c := by
  obtain ⟨o, hfind, hword⟩ := excerpt_eq_some_iff.mp h
  rw [← hword] at hc
  exact (Expression.find?_eq_some_iff.mp hfind).wellFormed.isGlyph_of_mem hc

/-- What is printed for an excerpt has no colon. -/
theorem colon_not_mem_excerpt (text : String) :
    ':' ∉ ((interpret text).roll.excerpt.getD "(default)").toList := by
  cases hword : (interpret text).roll.excerpt with
  | none =>
      rw [Option.getD_none]
      decide
  | some word =>
      intro hc
      cases isGlyph_of_mem_excerpt hword hc

/-- What is printed for an excerpt says whether there is one, and which. -/
theorem excerpt_of_getD {a b : String} (h : (interpret a).roll.excerpt.getD "(default)" =
    (interpret b).roll.excerpt.getD "(default)") :
    (interpret a).roll.excerpt = (interpret b).roll.excerpt := by
  have hdefault : ∀ {text word : String}, (interpret text).roll.excerpt = some word →
      word ≠ "(default)" := by
    rintro text word hword rfl
    cases isGlyph_of_mem_excerpt (c := '(') hword (by decide)
  cases ha : (interpret a).roll.excerpt with
  | none =>
      cases hb : (interpret b).roll.excerpt with
      | none => rfl
      | some word =>
          rw [ha, hb] at h
          exact absurd h.symm (hdefault hb)
  | some word =>
      cases hb : (interpret b).roll.excerpt with
      | none =>
          rw [ha, hb] at h
          exact absurd h (hdefault ha)
      | some word' =>
          rw [ha, hb] at h
          exact congrArg some h

/-- The roll of a text is the one of its excerpt, or the one of an empty text. -/
theorem roll_interpret_excerpt (text : String) :
    (interpret ((interpret text).roll.excerpt.getD "")).roll = (interpret text).roll := by
  cases hword : (interpret text).roll.excerpt with
  | none =>
      rw [roll_of_excerpt_eq_none hword]
      rfl
  | some word => rw [Option.getD_some, interpret_excerpt hword]

/-! ### The line -/

theorem Outcome.chars_eq (o : Outcome) : o.chars = "Rolled ".toList ++
    ((o.excerpt.getD "(default)").toList ++ ':' :: (o.groups.flatMap (fun g => ' ' :: g.chars)
      ++ (" = ".toList ++ (Text.integer o.total.toInt ++ (" (bounds ".toList
        ++ (o.totalRange.chars ++ [')'])))))) := by
  unfold chars
  simp only [List.append_assoc, List.cons_append]

theorem Roll.fst_perform {σ : Type} [FaceSource σ] (r : Roll) (s : σ) :
    (r.perform s).1 = r.outcome (r.rolled s) := rfl

/-- Two outcomes of one roll that are printed alike have the same faces. -/
theorem Roll.groups_of_chars_outcome {r : Roll} {groups groups' : List (List UInt32)}
    (h : (r.outcome groups).chars = (r.outcome groups').chars) : groups = groups' := by
  rw [Outcome.chars_eq, Outcome.chars_eq] at h
  have hgroups := (List.cons.inj (List.append_cancel_left (List.append_cancel_left h))).2
  rw [outcome, outcome, List.flatMap_map, List.flatMap_map] at hgroups
  exact ((readable_groups r.modifier).row_inj ⟨_, rfl⟩ ⟨_, rfl⟩ hgroups).1

/-- Two outcomes that are printed alike have the same excerpt, if it was found in a text. -/
theorem excerpt_of_chars_outcome {a b : String} {groups groups' : List (List UInt32)}
    (h : ((interpret a).roll.outcome groups).chars = ((interpret b).roll.outcome groups').chars) :
    (interpret a).roll.excerpt = (interpret b).roll.excerpt := by
  rw [Outcome.chars_eq, Outcome.chars_eq] at h
  have hcolon : ∀ text : String, ∀ c ∈ ((interpret text).roll.excerpt.getD "(default)").toList,
      (c == ':') = false := by
    intro text c hc
    exact beq_eq_false_iff_ne.mpr (ne_of_mem_of_not_mem hc (colon_not_mem_excerpt text))
  obtain ⟨hword, -, -⟩ := split_first_unique (p := (· == ':')) (hcolon a) rfl (hcolon b) rfl
    (List.append_cancel_left h)
  exact excerpt_of_getD (String.toList_inj.mp hword)

/-- **A printed line says which outcome it is.**  Two texts that are read and performed, with any
two sources, are printed alike if and only if their outcomes are equal: in the excerpt, in every
face and modifier of every group, in the total and in both ranges. -/
theorem outcome_of_written {σ τ : Type} [FaceSource σ] [FaceSource τ] (a b : String) (s : σ)
    (t : τ) : ((interpret a).roll.perform s).1.written = ((interpret b).roll.perform t).1.written ↔
      ((interpret a).roll.perform s).1 = ((interpret b).roll.perform t).1 := by
  rw [Roll.fst_perform, Roll.fst_perform]
  refine ⟨fun h => ?_, congrArg Outcome.written⟩
  have hchars := String.ofList_injective h
  -- the excerpt decides the roll, and the roll the modifier that stands in every group
  have hroll : (interpret a).roll = (interpret b).roll := by
    rw [← roll_interpret_excerpt a, ← roll_interpret_excerpt b, excerpt_of_chars_outcome hchars]
  rw [hroll] at hchars ⊢
  exact congrArg _ (Roll.groups_of_chars_outcome hchars)

/-- No text has the excerpt that is printed like none. -/
example (groups : List (List UInt32)) :
    ({ Roll.standard with excerpt := some "(default)" }.outcome groups).written =
      (Roll.standard.outcome groups).written := rfl

end TabletopDice
