import TabletopDice.Proofs.AroundDie
import TabletopDice.Proofs.Modifiers

/-!
# Interpretations — capital and small letters

Letters play three parts in an expression: the `x`, the `d` and the marker of a modifier.  Each of
these is recognized by a list of characters, and each list has the small letter wherever it has the
capital one (`apply_toLower`).  So the readers go the same way through a text and through the same
text in small letters: what they read there is what they read here, in small letters, from the same
places (`find?_map_toLower`).  Digits have no case, and the kind and the amount of a modifier do not
depend on it.

**Case does not matter** (`interpret_of_toLower_eq`): texts that differ only in the case of some of
their letters are read as rolls that differ only in the case of letters.
-/

namespace TabletopDice

/-! ### Characters -/

theorem toLower_eq_self {c : Char} (h : ¬ (65 ≤ c.toNat ∧ c.toNat ≤ 90)) : c.toLower = c := by
  refine dif_neg ?_
  simpa [← Char.toNat_val, UInt32.le_iff_toNat_le] using h

/-- What is the same for each capital letter and its small one does not depend on case. -/
theorem apply_toLower {α : Type} {p : Char → α}
    (h : ∀ n < 26, p (Char.ofNat (n + 65)).toLower = p (Char.ofNat (n + 65))) (c : Char) :
    p c.toLower = p c := by
  by_cases hc : 65 ≤ c.toNat ∧ c.toNat ≤ 90
  · obtain ⟨n, hn⟩ := Nat.exists_eq_add_of_le' hc.1
    rw [← Char.ofNat_toNat c, hn]
    exact h n (by omega)
  · rw [toLower_eq_self hc]

theorem isDigit_toLower (c : Char) : c.toLower.isDigit = c.isDigit :=
  apply_toLower (by decide) c

theorem isWhitespace_toLower (c : Char) : c.toLower.isWhitespace = c.isWhitespace :=
  apply_toLower (by decide) c

theorem Expression.isCross_toLower (c : Char) : isCross c.toLower = isCross c :=
  apply_toLower (by decide) c

theorem Expression.isDie_toLower (c : Char) : isDie c.toLower = isDie c :=
  apply_toLower (by decide) c

theorem Modifier.isOperator_toLower (c : Char) : isOperator c.toLower = isOperator c :=
  apply_toLower (by decide) c

theorem Modifier.isSign_toLower (c : Char) : isSign c.toLower = isSign c :=
  apply_toLower (by decide) c

theorem Modifier.isMarkerLetter_toLower (c : Char) : isMarkerLetter c.toLower = isMarkerLetter c :=
  apply_toLower (by decide) c

theorem toLower_of_isDigit {c : Char} (h : c.isDigit) : c.toLower = c := by
  obtain ⟨-, hi⟩ := Char.isDigit_iff_toNat.mp h
  have hnine : '9'.toNat = 57 := rfl
  exact toLower_eq_self fun hc => by omega

theorem map_toLower_of_isDigit {cs : List Char} (h : ∀ c ∈ cs, c.isDigit) :
    cs.map Char.toLower = cs :=
  (List.map_congr_left fun c hc => toLower_of_isDigit (h c hc)).trans (List.map_id cs)

theorem takeWhile_map_toLower {p : Char → Bool} (hp : ∀ c : Char, p c.toLower = p c)
    (cs : List Char) :
    (cs.map Char.toLower).takeWhile p = (cs.takeWhile p).map Char.toLower := by
  rw [List.takeWhile_map, show p ∘ Char.toLower = p from funext hp]

theorem dropWhile_map_toLower {p : Char → Bool} (hp : ∀ c : Char, p c.toLower = p c)
    (cs : List Char) :
    (cs.map Char.toLower).dropWhile p = (cs.dropWhile p).map Char.toLower := by
  rw [List.dropWhile_map, show p ∘ Char.toLower = p from funext hp]

theorem toList_toLower (text : String) : text.toLower.toList = text.toList.map Char.toLower :=
  String.toList_map

/-! ### Modifiers -/

namespace Modifier

/-- A modifier in small letters. -/
def toLower (m : Modifier) : Modifier := ⟨m.text.toLower⟩

theorem Kind.ofOperator_toLower (c : Char) : ofOperator c.toLower = ofOperator c :=
  apply_toLower (by decide) c

theorem Kind.ofMarker_eq (sign letter : Char) : ofMarker sign letter =
    if isSign sign then ofMarker '+' letter else .unrecognized := by
  simp [ofMarker, isSign]

theorem Kind.ofMarker_toLower (sign letter : Char) :
    ofMarker sign.toLower letter.toLower = ofMarker sign letter := by
  rw [ofMarker_eq, ofMarker_eq sign, isSign_toLower,
    apply_toLower (p := ofMarker '+') (by decide) letter]

theorem isNumeral_map_toLower (cs : List Char) :
    Text.isNumeral (cs.map Char.toLower) = Text.isNumeral cs := by
  rw [Text.isNumeral, Text.isNumeral, List.isEmpty_map, List.all_map,
    show Char.isDigit ∘ Char.toLower = Char.isDigit from funext isDigit_toLower]

theorem kind_toLower (m : Modifier) : m.toLower.kind = m.kind := by
  rw [kind, kind, toLower, toList_toLower]
  cases m.text.toList with
  | nil => rfl
  | cons first rest =>
      simp only [List.map_cons, isNumeral_map_toLower, Kind.ofOperator_toLower]
      cases rest with
      | nil => rfl
      | cons letter rest =>
          cases rest with
          | nil => simp only [List.map_cons, List.map_nil, Kind.ofMarker_toLower]
          | cons _ _ => rfl

theorem magnitude?_toLower (m : Modifier) : m.toLower.magnitude? = m.magnitude? := by
  rw [magnitude?, magnitude?, toLower, toList_toLower]
  cases m.text.toList with
  | nil => rfl
  | cons first rest =>
      simp only [List.map_cons, isNumeral_map_toLower]
      split
      · rename_i hn
        rw [map_toLower_of_isDigit (isNumeral_iff.mp hn).2]
      · rfl

theorem isNegated_toLower (m : Modifier) : m.toLower.isNegated = m.isNegated := by
  rw [isNegated, isNegated, toLower, toList_toLower, List.head?_map]
  cases m.text.toList.head? with
  | none => rfl
  | some c => exact apply_toLower (p := fun c => decide (some c = some '-')) (by decide) c

theorem outOfRange_toLower (m : Modifier) : m.toLower.outOfRange = m.outOfRange := by
  rw [outOfRange, outOfRange, magnitude?_toLower]

theorem value_toLower (m : Modifier) : m.toLower.value = m.value := by
  rw [value, value, outOfRange_toLower, isNegated_toLower, magnitude?_toLower]

/-- A modifier is scanned in small letters where it is scanned in any. -/
theorem scan?_map_toLower (cs : List Char) : scan? (cs.map Char.toLower) =
    (scan? cs).map (Prod.map (List.map Char.toLower) (List.map Char.toLower)) := by
  cases cs with
  | nil => rfl
  | cons first rest =>
      simp only [scan?, List.map_cons, takeWhile_map_toLower isDigit_toLower,
        dropWhile_map_toLower isDigit_toLower, isOperator_toLower, List.isEmpty_map]
      split
      · rfl
      · cases rest with
        | nil => rfl
        | cons letter rest =>
            simp only [List.map_cons, isSign_toLower, isMarkerLetter_toLower]
            split <;> rfl

end Modifier

/-! ### Expressions -/

namespace Expression

/-- A repetition in small letters. -/
def Repetition.toLower (r : Repetition) : Repetition :=
  ⟨r.digits.map Char.toLower, r.before.map Char.toLower, r.cross.toLower,
    r.after.map Char.toLower⟩

/-- An expression in small letters. -/
def toLower (e : Expression) : Expression where
  repetition? := e.repetition?.map Repetition.toLower
  dice := e.dice.map Char.toLower
  die := e.die.toLower
  sides := e.sides.map Char.toLower
  modifier? := e.modifier?.map (List.map Char.toLower)

/-- An occurrence in small letters. -/
def Occurrence.toLower (o : Occurrence) : Occurrence :=
  ⟨o.before.map Char.toLower, o.expression.toLower, o.after.map Char.toLower⟩

theorem chars_toLower (e : Expression) : e.toLower.chars = e.chars.map Char.toLower := by
  rw [chars, chars, toLower]
  cases e.repetition? <;> cases e.modifier? <;>
    simp [Repetition.chars, Repetition.toLower]

theorem Repetition.read?_map_toLower (cs : List Char) : read? (cs.map Char.toLower) =
    (read? cs).map (Prod.map toLower (List.map Char.toLower)) := by
  simp only [read?, takeWhile_map_toLower isDigit_toLower, dropWhile_map_toLower isDigit_toLower,
    takeWhile_map_toLower isWhitespace_toLower, dropWhile_map_toLower isWhitespace_toLower,
    List.isEmpty_map]
  split
  · rfl
  · cases (cs.dropWhile Char.isDigit).dropWhile Char.isWhitespace with
    | nil => rfl
    | cons cross tail =>
        simp only [List.map_cons, isCross_toLower, takeWhile_map_toLower isWhitespace_toLower,
          dropWhile_map_toLower isWhitespace_toLower]
        split <;> rfl

theorem readModifier_map_toLower (cs : List Char) : readModifier (cs.map Char.toLower) =
    ((readModifier cs).1.map (List.map Char.toLower), (readModifier cs).2.map Char.toLower) := by
  rw [readModifier, readModifier, Modifier.scan?_map_toLower]
  cases Modifier.scan? cs with
  | none => rfl
  | some p => rfl

theorem readDice?_map_toLower (r : Option Repetition) (cs : List Char) :
    readDice? (r.map Repetition.toLower) (cs.map Char.toLower) =
      (readDice? r cs).map (Prod.map toLower (List.map Char.toLower)) := by
  simp only [readDice?, takeWhile_map_toLower isDigit_toLower,
    dropWhile_map_toLower isDigit_toLower]
  cases cs.dropWhile Char.isDigit with
  | nil => rfl
  | cons die tail =>
      simp only [List.map_cons, isDie_toLower, takeWhile_map_toLower isDigit_toLower,
        dropWhile_map_toLower isDigit_toLower, readModifier_map_toLower]
      split <;> rfl

theorem read?_map_toLower (cs : List Char) : read? (cs.map Char.toLower) =
    (read? cs).map (Prod.map toLower (List.map Char.toLower)) := by
  rw [read?, read?, Repetition.read?_map_toLower]
  cases Repetition.read? cs with
  | none => exact readDice?_map_toLower none cs
  | some p => exact readDice?_map_toLower (some p.1) p.2

/-- **Small letters.**  In a text in small letters the same occurrence is found, in small
letters. -/
theorem find?_map_toLower (cs : List Char) :
    find? (cs.map Char.toLower) = (find? cs).map Occurrence.toLower := by
  induction cs with
  | nil => rfl
  | cons c cs ih =>
      have hread := read?_map_toLower (c :: cs)
      rw [List.map_cons] at hread
      rw [List.map_cons, find?, find?, hread, ih]
      cases read? (c :: cs) with
      | none =>
          cases find? cs with
          | none => rfl
          | some o => rfl
      | some p => rfl

/-- From where to where an occurrence goes. -/
def Occurrence.place (o : Occurrence) : Nat × Nat := (o.before.length, o.stop)

theorem Occurrence.place_toLower (o : Occurrence) : o.toLower.place = o.place := by
  rw [place, place, stop, stop, toLower, chars_toLower, List.length_map, List.length_map]

theorem map_place_find?_toLower (text : String) :
    (find? text.toLower.toList).map Occurrence.place =
      (find? text.toList).map Occurrence.place := by
  rw [toList_toLower, find?_map_toLower, Option.map_map]
  exact Option.map_congr fun o _ => o.place_toLower

end Expression

/-! ### Rolls -/

/-- A roll with its modifier and its excerpt in small letters. -/
def Roll.toLower (r : Roll) : Roll :=
  { r with modifier := r.modifier.toLower, excerpt := r.excerpt.map String.toLower }

theorem toLower_ofList (cs : List Char) :
    (String.ofList cs).toLower = String.ofList (cs.map Char.toLower) := by
  rw [String.ext_iff, toList_toLower, String.toList_ofList, String.toList_ofList]

theorem Modifier.toLower_zero : zero.toLower = zero := by
  rw [Modifier.ext_iff, String.ext_iff, toLower, toList_toLower, toList_zero]
  decide

theorem Expression.rolls_toLower {e : Expression} (h : e.WellFormed) :
    e.toLower.rolls = e.rolls := by
  rw [rolls, rolls, toLower]
  cases hr : e.repetition? with
  | none => rfl
  | some r => exact map_toLower_of_isDigit (h.repetition r hr).isDigit

theorem Expression.modifier_toLower (e : Expression) :
    e.toLower.roll.modifier = e.roll.modifier.toLower := by
  rw [roll, roll, toLower]
  cases e.modifier? with
  | none => exact Modifier.toLower_zero.symm
  | some m => exact congrArg Modifier.mk (toLower_ofList m).symm

/-- An expression in small letters says the roll in small letters. -/
theorem Expression.roll_toLower {e : Expression} (h : e.WellFormed) :
    e.toLower.roll = e.roll.toLower := by
  refine Roll.ext ?_ ?_ ?_ e.modifier_toLower ?_
  · exact congrArg (Roll.Part.count .repeats) (rolls_toLower h)
  · exact congrArg (Roll.Part.count .dice) (map_toLower_of_isDigit h.dice_isDigit)
  · exact congrArg (Roll.Part.count .sides) (map_toLower_of_isDigit h.sides_isDigit)
  · show some (String.ofList e.toLower.chars) = some (String.ofList e.chars).toLower
    rw [chars_toLower, toLower_ofList]

/-- A text in small letters is read as the roll of the text, in small letters. -/
theorem roll_interpret_toLower (text : String) :
    (interpret text.toLower).roll = (interpret text).roll.toLower := by
  have hsmall := Expression.find?_map_toLower text.toList
  rw [← toList_toLower] at hsmall
  cases hfind : Expression.find? text.toList with
  | none =>
      rw [hfind, Option.map_none] at hsmall
      rw [interpret_of_find?_eq_none hsmall, interpret_of_find?_eq_none hfind]
      exact Roll.ext rfl rfl rfl Modifier.toLower_zero.symm rfl
  | some o =>
      rw [hfind, Option.map_some] at hsmall
      rw [interpret_of_find? hsmall, interpret_of_find? hfind]
      exact Expression.roll_toLower (Expression.find?_eq_some_iff.mp hfind).wellFormed

/-- **Case does not matter.**  Two texts that are the same in small letters, each letter on its own
a capital or a small one, have their expressions at the same place, or neither has one.  Their rolls
have the same counts and modifiers of the same kind and amount; and the modifiers and excerpts are
the same in small letters. -/
theorem interpret_of_toLower_eq (a b : String) (h : a.toLower = b.toLower) :
    (Expression.find? a.toList).map Expression.Occurrence.place =
      (Expression.find? b.toList).map Expression.Occurrence.place ∧
    (interpret a).roll.repeats = (interpret b).roll.repeats ∧
    (interpret a).roll.dice = (interpret b).roll.dice ∧
    (interpret a).roll.sides = (interpret b).roll.sides ∧
    (interpret a).roll.modifier.value = (interpret b).roll.modifier.value ∧
    (interpret a).roll.modifier.kind = (interpret b).roll.modifier.kind ∧
    (interpret a).roll.modifier.text.toLower = (interpret b).roll.modifier.text.toLower ∧
    (interpret a).roll.excerpt.map String.toLower =
      (interpret b).roll.excerpt.map String.toLower := by
  have hroll : (interpret a).roll.toLower = (interpret b).roll.toLower := by
    rw [← roll_interpret_toLower, ← roll_interpret_toLower, h]
  have hrepeats := congrArg Roll.repeats hroll
  have hdice := congrArg Roll.dice hroll
  have hsides := congrArg Roll.sides hroll
  have hmodifier : (interpret a).roll.modifier.toLower = (interpret b).roll.modifier.toLower :=
    congrArg Roll.modifier hroll
  refine ⟨?_, hrepeats, hdice, hsides, ?_, ?_, congrArg Modifier.text hmodifier,
    congrArg Roll.excerpt hroll⟩
  · rw [← Expression.map_place_find?_toLower a, ← Expression.map_place_find?_toLower b, h]
  · rw [← Modifier.value_toLower, hmodifier, Modifier.value_toLower]
  · rw [← Modifier.kind_toLower, hmodifier, Modifier.kind_toLower]

/-- Every letter in the other case, inside the expression and around it. -/
theorem interpret_of_toLower_eq_mixed :
    "Roll 2X3D6+l NOW".toLower = "rOLL 2x3d6+L now".toLower ∧
    (Expression.find? "Roll 2X3D6+l NOW".toList).map Expression.Occurrence.place = some (5, 12) ∧
    (Expression.find? "rOLL 2x3d6+L now".toList).map Expression.Occurrence.place = some (5, 12) ∧
    (interpret "Roll 2X3D6+l NOW").roll.excerpt = some "2X3D6+l" ∧
    (interpret "rOLL 2x3d6+L now").roll.excerpt = some "2x3d6+L" ∧
    (interpret "Roll 2X3D6+l NOW").roll.modifier.kind = .lowMarker ∧
    (interpret "rOLL 2x3d6+L now").roll.modifier.kind = .lowMarker := by
  have hlower : "Roll 2X3D6+l NOW".toLower = "rOLL 2x3d6+L now".toLower := by
    rw [String.ext_iff, toList_toLower, toList_toLower]
    decide
  have hplace : (Expression.find? "Roll 2X3D6+l NOW".toList).map Expression.Occurrence.place =
      some (5, 12) := by decide
  have hkind : (interpret "Roll 2X3D6+l NOW").roll.modifier.kind = .lowMarker := by decide
  obtain ⟨hplaces, -, -, -, -, hkinds, -, -⟩ := interpret_of_toLower_eq _ _ hlower
  exact ⟨hlower, hplace, hplaces.symm.trans hplace, by decide, by decide, hkind,
    hkinds.symm.trans hkind⟩

end TabletopDice
