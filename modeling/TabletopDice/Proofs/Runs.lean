/-!
# Texts — runs and splits

A class of characters cuts a text in two ways.  A run of the class ends at the first character
outside it, or with the text, and `takeWhile` and `dropWhile` find this end.  And a text splits at
its first character of the class, or at its last one, in one way only.  Which classes have no common
character is said once for each two of them (`not_mem_class_symm`).
-/

namespace TabletopDice

/-! ### Runs of one class -/

section Runs

variable {p : Char → Bool} {run rest : List Char} {c : Char}

theorem takeWhile_run (hrun : ∀ x ∈ run, p x) (hc : p c = false) :
    (run ++ c :: rest).takeWhile p = run := by
  rw [List.takeWhile_append_of_pos hrun, List.takeWhile_cons_of_neg (by simp [hc]),
    List.append_nil]

theorem dropWhile_run (hrun : ∀ x ∈ run, p x) (hc : p c = false) :
    (run ++ c :: rest).dropWhile p = c :: rest := by
  rw [List.dropWhile_append_of_pos hrun, List.dropWhile_cons_of_neg (by simp [hc])]

theorem mem_takeWhile_class {x : Char} (h : x ∈ run.takeWhile p) : p x :=
  List.all_eq_true.mp (List.all_takeWhile) x h

/-- A run ends with the text, or before a character outside its class. -/
theorem span_run (hrun : ∀ x ∈ run, p x) (hrest : ∀ x ∈ rest.head?, p x = false) :
    (run ++ rest).takeWhile p = run ∧ (run ++ rest).dropWhile p = rest := by
  cases rest with
  | nil =>
      rw [List.takeWhile_append_of_pos hrun, List.dropWhile_append_of_pos hrun]
      exact ⟨List.append_nil run, rfl⟩
  | cons c rest =>
      have hc := hrest c rfl
      exact ⟨takeWhile_run hrun hc, dropWhile_run hrun hc⟩

/-- A run that ends inside a text ends there whatever follows the text. -/
theorem span_append {cs : List Char} (h : cs.dropWhile p ≠ []) (more : List Char) :
    (cs ++ more).takeWhile p = cs.takeWhile p ∧
      (cs ++ more).dropWhile p = cs.dropWhile p ++ more := by
  have hlength : (cs.takeWhile p).length ≠ cs.length := by
    have hsplit := congrArg List.length (List.takeWhile_append_dropWhile (p := p) (l := cs))
    rw [List.length_append] at hsplit
    have hpos := List.length_pos_iff.mpr h
    omega
  rw [List.takeWhile_append, if_neg hlength, List.dropWhile_append,
    if_neg (by rwa [List.isEmpty_iff])]
  exact ⟨rfl, rfl⟩

end Runs

/-! ### Classes without a common character -/

/-- If no character of one class is in another, none of the other is in the one. -/
theorem not_mem_class_symm {p q : Char → Bool} (h : ∀ c, p c → q c = false) (c : Char)
    (hc : q c) : p c = false := by
  refine Bool.eq_false_iff.mpr fun hp => ?_
  rw [h c hp] at hc
  cases hc

/-! ### Splitting a text at a character of a class -/

section Splits

variable {p : Char → Bool} {front front' back back' : List Char} {c c' : Char}

/-- A text has one split at its first character of a class. -/
theorem split_first_unique (hfront : ∀ x ∈ front, p x = false) (hc : p c)
    (hfront' : ∀ x ∈ front', p x = false) (hc' : p c')
    (h : front ++ c :: back = front' ++ c' :: back') :
    front = front' ∧ c = c' ∧ back = back' := by
  induction front generalizing front' with
  | nil =>
      cases front' with
      | nil =>
          obtain ⟨rfl, rfl⟩ := List.cons.inj h
          exact ⟨rfl, rfl, rfl⟩
      | cons x front' =>
          obtain ⟨rfl, -⟩ := List.cons.inj h
          rw [hfront' c (by simp)] at hc
          cases hc
  | cons x front ih =>
      cases front' with
      | nil =>
          obtain ⟨rfl, -⟩ := List.cons.inj h
          rw [hfront x (by simp)] at hc'
          cases hc'
      | cons x' front' =>
          obtain ⟨rfl, htail⟩ := List.cons.inj h
          obtain ⟨rfl, hrest⟩ := ih (fun y hy => hfront y (List.mem_cons_of_mem _ hy))
            (fun y hy => hfront' y (List.mem_cons_of_mem _ hy)) htail
          exact ⟨rfl, hrest⟩

/-- A text has one split at its last character of a class. -/
theorem split_last_unique (hback : ∀ x ∈ back, p x = false) (hc : p c)
    (hback' : ∀ x ∈ back', p x = false) (hc' : p c')
    (h : front ++ c :: back = front' ++ c' :: back') :
    front = front' ∧ c = c' ∧ back = back' := by
  have hrev := congrArg List.reverse h
  rw [List.reverse_append, List.reverse_append, List.reverse_cons, List.reverse_cons,
    List.append_assoc, List.append_assoc] at hrev
  obtain ⟨hb, hcc, hf⟩ := split_first_unique (fun x hx => hback x (List.mem_reverse.mp hx)) hc
    (fun x hx => hback' x (List.mem_reverse.mp hx)) hc' hrev
  exact ⟨List.reverse_inj.mp hf, hcc, List.reverse_inj.mp hb⟩

end Splits

end TabletopDice
