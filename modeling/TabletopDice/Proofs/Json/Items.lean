import TabletopDice.Json.Record
import TabletopDice.Proofs.Json.Reads

/-!
# Json — item after item

Lists and records are read item by item, and so is a bracket that is passed over: a gap, an item,
and then the rest in another state.  What a state is differs (the elements that were read, a draft,
a place with the brackets that are open), and so does what an item is.  A family of readers *takes*
an item if this is how it goes on after the item (`Takes`), and it takes several items one after the
other (`TakesAll`).

So the text of a whole bracket is walked through once, for all of them: up to its closing character
(`TakesAll.run_closing`), or up to an item in which reading stops (`TakesAll.run_stopping`).
-/

namespace TabletopDice.Json

open Reader
open Shape (nextMember)

variable {α β γ : Type}

/-! ### Gaps -/

theorem Spaced.delimits {items : List (List Char)} {cs : List Char} (h : Spaced false items cs)
    {rest : List Char} (hrest : items = [] → Delimits rest) : Delimits (cs ++ rest) := by
  cases h with
  | nil hws => exact (hrest rfl).append hws
  | cons hgap _ =>
      cases hgap with
      | next hws _ =>
          rw [List.append_assoc, List.append_assoc, List.cons_append]
          exact (delimits_cons rfl _).append hws

/-- An element of a list is read after its gap. -/
theorem run_nextElement {first : Bool} {gap : List Char} (hgap : Gap first gap)
    (element atClose : Reader α) {c : Char} (hc : endsValue c = false) (cs : List Char) :
    (nextElement first element atClose).run (gap ++ c :: cs) = element.run (c :: cs) := by
  obtain ⟨hblank, -, hclose, -⟩ := not_endsValue_class hc
  cases hgap with
  | first hws =>
      rw [nextElement, run_afterBlanks_peek _ _ hws hblank, if_neg hclose, if_pos rfl]
  | next hws hws' =>
      rw [List.append_assoc, List.cons_append, nextElement, run_afterBlanks_peek _ _ hws rfl,
        if_neg (by decide), if_neg Bool.false_ne_true, if_pos rfl, run_skipThen_cons, value,
        run_afterBlanks_peek _ _ hws' hblank, if_neg hclose]

theorem run_nextElement_close {ws : List Char} (hws : Blank ws) (first : Bool)
    (element atClose : Reader α) (rest : List Char) :
    (nextElement first element atClose).run (ws ++ ']' :: rest) = atClose.run (']' :: rest) := by
  rw [nextElement, run_afterBlanks_peek _ _ hws rfl, if_pos rfl]

/-- A member of an object is read after its gap and its opening quote. -/
theorem run_nextMember {first : Bool} {gap : List Char} (hgap : Gap first gap)
    (member atClose : Reader α) (cs : List Char) :
    (nextMember first member atClose).run (gap ++ '"' :: cs) = member.run cs := by
  cases hgap with
  | first hws =>
      rw [nextMember, run_afterBlanks_peek _ _ hws rfl, if_neg (by decide), if_pos rfl, if_pos rfl,
        run_skipThen_cons]
  | next hws hws' =>
      rw [List.append_assoc, List.cons_append, nextMember, run_afterBlanks_peek _ _ hws rfl,
        if_neg (by decide), if_neg Bool.false_ne_true, if_pos rfl, run_skipThen_cons, value,
        run_afterBlanks_peek _ _ hws' rfl, if_pos rfl, run_skipThen_cons]

theorem run_nextMember_close {ws : List Char} (hws : Blank ws) (first : Bool)
    (member atClose : Reader α) (rest : List Char) :
    (nextMember first member atClose).run (ws ++ '\x7d' :: rest) =
      atClose.run ('\x7d' :: rest) := by
  rw [nextMember, run_afterBlanks_peek _ _ hws rfl, if_pos rfl]

theorem run_colon {ws : List Char} (hws : Blank ws) (rest : List Char) :
    colon.run (ws ++ ':' :: rest) = .ok ((), rest) := by
  rw [colon, run_afterBlanks, blanksDropped_append hws, blanksDropped_of_not_blank rfl,
    run_char_cons, if_pos rfl]

/-! ### Taking items -/

variable (x : β → Reader γ) (first : β → Bool)

/-- In the state `b` the item is taken, with its gap, and what follows is read in the state `b'`. -/
structure Takes (item : List Char) (b b' : β) : Prop where
  not_first : first b' = false
  run_append : ∀ {gap rest}, Gap (first b) gap → Delimits rest →
    (x b).run (gap ++ (item ++ rest)) = (x b').run rest

/-- Items are taken one after the other. -/
inductive TakesAll : List (List Char) → β → β → Prop where
  | nil {b : β} : TakesAll [] b b
  | cons {item : List Char} {items : List (List Char)} {b b' b'' : β} :
      Takes x first item b b' → TakesAll items b' b'' → TakesAll (item :: items) b b''

variable {x first}

/-- After the items that are taken, what follows them is left. -/
theorem TakesAll.run_append {items more : List (List Char)} {b b' : β}
    (h : TakesAll x first items b b') {body : List Char}
    (hbody : Spaced (first b) (items ++ more) body) (rest : List Char)
    (hrest : more = [] → Delimits rest) : ∃ body', Spaced (first b') more body' ∧
      (x b).run (body ++ rest) = (x b').run (body' ++ rest) := by
  induction h generalizing body with
  | nil => exact ⟨body, hbody, rfl⟩
  | @cons item items b b' b'' hitem _ ih =>
      cases hbody with
      | @cons _ gap _ cs _ hgap hcs =>
          have hdelimits : Delimits (cs ++ rest) :=
            hcs.delimits fun hnil => hrest (List.append_eq_nil_iff.mp hnil).2
          rw [← hitem.not_first] at hcs
          obtain ⟨body', hbody', hrun⟩ := ih hcs
          refine ⟨body', hbody', ?_⟩
          rw [List.append_assoc, List.append_assoc, hitem.run_append hgap hdelimits, hrun]

/-- After the last item only blanks are left. -/
theorem TakesAll.run_closing {items : List (List Char)} {b b' : β}
    (h : TakesAll x first items b b') {body rest : List Char} (hbody : Spaced (first b) items body)
    (hrest : Delimits rest) :
    ∃ ws, Blank ws ∧ (x b).run (body ++ rest) = (x b').run (ws ++ rest) := by
  rw [← List.append_nil items] at hbody
  obtain ⟨ws, hws, hrun⟩ := h.run_append hbody rest fun _ => hrest
  cases hws with
  | nil hws => exact ⟨ws, hws, hrun⟩

/-- Before the last item its gap is left. -/
theorem TakesAll.run_stopping {items : List (List Char)} {b b' : β}
    (h : TakesAll x first items b b') {item body : List Char}
    (hbody : Spaced (first b) (items ++ [item]) body) (rest : List Char) :
    ∃ gap tail, Gap (first b') gap ∧
      (x b).run (body ++ rest) = (x b').run (gap ++ (item ++ tail)) := by
  obtain ⟨body', hbody', hrun⟩ := h.run_append hbody rest fun hnil => nomatch hnil
  cases hbody' with
  | @cons _ gap _ cs _ hgap _ =>
      refine ⟨gap, cs ++ rest, hgap, ?_⟩
      rw [hrun, List.append_assoc, List.append_assoc]

end TabletopDice.Json
