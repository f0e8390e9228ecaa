import TabletopDice.Proofs.Json.Items
import TabletopDice.Proofs.Json.Numbers
import TabletopDice.Proofs.Json.Strings

/-!
# Json — passing over a value

Passing over a value goes from place to place, with the brackets that are open in a list.  What is
proved of a value therefore speaks of any brackets that are open: after the value it goes on where
the innermost of them goes on after an item (`Skip.resumed`).  The induction is on the value, and
inside a bracket its items are taken one after the other, each from the place where the last one
ended.

**Passing over** (`reads_skipped`).  A value of any form, nested to any depth, is passed over up to
its end.
-/

namespace TabletopDice.Json

open Reader

namespace Skip

/-! ### Places -/

/-- Passes over the rest of a value from a place in it. -/
def passing (place : Place) : Reader Unit := loop step place

/-- What is passed over of `rest`, after a value inside the brackets `opened`. -/
def resumed (opened : List Bracket) (rest : List Char) : Except Fault (Unit × List Char) :=
  match afterValue opened with
  | .done result => .ok (result, rest)
  | .again place => (passing place).run rest

theorem run_passing_of_again {place place' : Place} {s r : List Char}
    (h : (step place).run s = .ok (.again place', r)) :
    (passing place).run s = (passing place').run r := by
  rw [passing, run_loop, h]
  rfl

theorem run_passing_of_afterValue {place : Place} {opened : List Bracket} {s r : List Char}
    (h : (step place).run s = .ok (afterValue opened, r)) :
    (passing place).run s = resumed opened r := by
  rw [passing, run_loop, h, resumed]
  cases afterValue opened <;> rfl

/-- Every step begins after blanks. -/
theorem run_passing_blanks {ws : List Char} (hws : Blank ws) (place : Place) (s : List Char) :
    (passing place).run (ws ++ s) = (passing place).run s := by
  obtain ⟨x, hx⟩ : ∃ x, step place = .afterBlanks x := by cases place <;> exact ⟨_, rfl⟩
  have hstep : (step place).run (ws ++ s) = (step place).run s := by
    rw [hx, run_afterBlanks, run_afterBlanks, blanksDropped_append hws]
  rw [passing, run_loop, hstep, ← run_loop]

/-! ### Items -/

/-- Whether no item of a bracket was passed over yet. -/
def Place.isFirst : Place → Bool
  | .opening _ _ => true
  | .value _ | .key _ | .after _ _ => false

/-- `cs` is passed over as an item of the bracket. -/
structure Passes (bracket : Bracket) (cs : List Char) : Prop where
  begins : ∃ c tail, cs = c :: tail ∧ c.isWhitespace = false ∧ c ≠ bracket.close
  run_append : ∀ {outer rest}, Delimits rest →
    (passing (item bracket outer)).run (cs ++ rest) = (passing (.after bracket outer)).run rest

theorem run_passing_opening {bracket : Bracket} {c : Char} (hc : c.isWhitespace = false)
    (hclose : c ≠ bracket.close) (outer : List Bracket) (s : List Char) :
    (passing (.opening bracket outer)).run (c :: s) =
      (passing (item bracket outer)).run (c :: s) := by
  have hstep : (step (.opening bracket outer)).run (c :: s) =
      (step (item bracket outer)).run (c :: s) := by
    refine (run_afterBlanks_peek bracket.ended _ blank_nil hc s).trans ?_
    rw [if_neg hclose]
    cases bracket <;> rfl
  rw [passing, passing, run_loop, run_loop, hstep]

/-- After an opening bracket, and after an item, the next item is passed over with its gap. -/
theorem Passes.takes {bracket : Bracket} {cs : List Char} (h : Passes bracket cs)
    (outer : List Bracket) {place : Place}
    (hplace : place = .opening bracket outer ∨ place = .after bracket outer) :
    Takes passing Place.isFirst cs place (.after bracket outer) where
  not_first := rfl
  run_append {gap rest} hgap hrest := by
    obtain ⟨c, tail, rfl, hc, hclose⟩ := h.begins
    rcases hplace with rfl | rfl
    · cases hgap with
      | first hws =>
          rw [run_passing_blanks hws, List.cons_append, run_passing_opening hc hclose]
          exact h.run_append hrest
    · cases hgap with
      | @next ws ws' hws hws' =>
          have hcomma : (step (.after bracket outer)).run (',' :: (ws' ++ (c :: tail ++ rest))) =
              .ok (.again (item bracket outer), ws' ++ (c :: tail ++ rest)) := rfl
          rw [List.append_assoc, run_passing_blanks hws, List.cons_append,
            run_passing_of_again hcomma, run_passing_blanks hws']
          exact h.run_append hrest

theorem takesAll_of_passes {bracket : Bracket} (outer : List Bracket) {items : List (List Char)}
    (h : ∀ cs ∈ items, Passes bracket cs) {place : Place}
    (hplace : place = .opening bracket outer ∨ place = .after bracket outer) :
    ∃ place', (place' = .opening bracket outer ∨ place' = .after bracket outer) ∧
      TakesAll passing Place.isFirst items place place' := by
  induction items generalizing place with
  | nil => exact ⟨place, hplace, .nil⟩
  | cons cs items ih =>
      obtain ⟨place', hplace', hall⟩ :=
        ih (fun cs hcs => h cs (List.mem_cons_of_mem _ hcs)) (.inr rfl)
      exact ⟨place', hplace', .cons ((h cs List.mem_cons_self).takes outer hplace) hall⟩

/-- After its opening character a bracket is passed over up to the closing one. -/
theorem run_passing_bracket {bracket : Bracket} {items : List (List Char)} {body : List Char}
    (h : ∀ cs ∈ items, Passes bracket cs) (hbody : Spaced true items body) (outer : List Bracket)
    (rest : List Char) :
    (passing (.opening bracket outer)).run (body ++ bracket.close :: rest) =
      resumed outer rest := by
  have hclose : endsValue bracket.close := by cases bracket <;> rfl
  obtain ⟨place, hplace, hall⟩ := takesAll_of_passes outer h (.inl rfl)
  obtain ⟨ws, hws, hrun⟩ := hall.run_closing hbody (delimits_cons hclose rest)
  rw [hrun, run_passing_blanks hws]
  refine run_passing_of_afterValue ?_
  rcases hplace with rfl | rfl <;> cases bracket <;> rfl

/-- A member is passed over if its value is. -/
theorem passes_member {value cs : List Char} (h : MemberOf IsLiteral value cs)
    (hvalue : ∀ {outer rest}, Delimits rest → (passing (.value (.object :: outer))).run
      (value ++ rest) = (passing (.after .object outer)).run rest) : Passes .object cs := by
  cases h with
  | @mk key ws ws' hkey hws hws' =>
      refine ⟨⟨'"', _, rfl, rfl, by decide⟩, fun {outer rest} hrest => ?_⟩
      have hkeyStep : (step (.key outer)).run
          ('"' :: (key ++ '"' :: (ws ++ ':' :: (ws' ++ value))) ++ rest) =
            .ok (.again (.value (.object :: outer)), ws' ++ (value ++ rest)) := by
        simp only [List.append_assoc, List.cons_append]
        refine (run_afterBlanks_peek (.ended .object) _ blank_nil rfl _).trans ?_
        rw [if_pos rfl, run_skipThen_cons]
        refine (run_bind_of_ok (run_stringTailSkipped hkey _) _).trans ?_
        exact run_map_of_ok (run_colon hws _) _
      rw [item, run_passing_of_again hkeyStep, run_passing_blanks hws', hvalue hrest]

/-! ### Values -/

theorem begins_of_isValue {cs : List Char} (h : IsValue cs) : Begins cs := by
  cases h with
  | word hword =>
      simp only [List.mem_cons, List.not_mem_nil, or_false] at hword
      rcases hword with rfl | rfl | rfl <;> exact ⟨_, _, rfl, rfl⟩
  | number hnumber =>
      obtain ⟨c, tail, hcs, hc⟩ := hnumber.begins
      exact ⟨c, tail, hcs, not_endsValue_of_beginsNumber hc⟩
  | string _ | list _ _ | object _ _ _ => exact ⟨_, _, rfl, rfl⟩

/-- The first character of a number selects the step over it. -/
theorem run_step_number {cs : List Char} (h : IsNumber cs) (opened : List Bracket)
    {rest : List Char} (hrest : Delimits rest) :
    (step (.value opened)).run (cs ++ rest) = .ok (afterValue opened, rest) := by
  have hrun := run_map_of_ok (run_numberSkipped h hrest) fun _ => afterValue opened
  obtain ⟨c, tail, rfl, hc⟩ := h.begins
  have hblank := (not_endsValue_class (not_endsValue_of_beginsNumber hc)).1
  have hword : c ≠ 'n' ∧ c ≠ 't' ∧ c ≠ 'f' := by
    refine ⟨?_, ?_, ?_⟩ <;> rintro rfl <;> cases hc
  refine (run_afterBlanks_peek endedInValue _ blank_nil hblank _).trans ?_
  rw [if_neg hword.1, if_neg hword.2.1, if_neg hword.2.2, if_pos hc]
  exact hrun

theorem exists_mem_of_forall₂ {α β : Type} {R : α → β → Prop} {as : List α} {bs : List β}
    (h : List.Forall₂ R as bs) {b : β} (hb : b ∈ bs) : ∃ a ∈ as, R a b := by
  induction h with
  | nil => cases hb
  | cons hab _ ih =>
      rcases List.mem_cons.mp hb with rfl | hb
      · exact ⟨_, List.mem_cons_self, hab⟩
      · obtain ⟨a, ha, hR⟩ := ih hb
        exact ⟨a, List.mem_cons_of_mem _ ha, hR⟩

/-- A value is passed over from its beginning, whatever brackets are open. -/
theorem run_passing_of_isValue {cs : List Char} (h : IsValue cs) {opened : List Bracket}
    {rest : List Char} (hrest : Delimits rest) :
    (passing (.value opened)).run (cs ++ rest) = resumed opened rest := by
  induction h generalizing opened rest with
  | word hword =>
      simp only [List.mem_cons, List.not_mem_nil, or_false] at hword
      rcases hword with rfl | rfl | rfl <;> exact run_passing_of_afterValue rfl
  | number hnumber =>
      exact run_passing_of_afterValue (run_step_number hnumber opened hrest)
  | string hliteral =>
      have hrun := run_map_of_ok (run_stringTailSkipped hliteral rest) fun _ => afterValue opened
      rw [List.cons_append, List.append_assoc]
      exact run_passing_of_afterValue hrun
  | @list items body hitems hbody ih =>
      have hpasses : ∀ item ∈ items, Passes .list item := by
        intro item hitem
        obtain ⟨c, tail, hcs, hc⟩ := begins_of_isValue (hitems item hitem)
        obtain ⟨hblank, -, hclose, -⟩ := not_endsValue_class hc
        exact ⟨⟨c, tail, hcs, hblank, hclose⟩, fun hrest => ih item hitem hrest⟩
      rw [List.cons_append, List.append_assoc, run_passing_of_again rfl]
      exact run_passing_bracket hpasses hbody opened rest
  | @object values members body hvalues hmembers hbody ih =>
      have hpasses : ∀ cs ∈ members, Passes .object cs := by
        intro cs hcs
        obtain ⟨value, hvalue, hmember⟩ := exists_mem_of_forall₂ hmembers hcs
        exact passes_member hmember fun hrest => ih value hvalue hrest
      rw [List.cons_append, List.append_assoc, run_passing_of_again rfl]
      exact run_passing_bracket hpasses hbody opened rest

end Skip

/-- **Passing over.**  The text of a value, of any form and nested to any depth, is passed over up
to its end. -/
theorem reads_skipped {cs : List Char} (h : IsValue cs) : skipped.Reads cs () where
  begins := Skip.begins_of_isValue h
  run_append hws hrest :=
    (Skip.run_passing_blanks hws _ _).trans (Skip.run_passing_of_isValue h hrest)

end TabletopDice.Json
