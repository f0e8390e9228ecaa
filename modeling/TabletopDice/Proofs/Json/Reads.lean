import TabletopDice.Json.Codec
import TabletopDice.Proofs.Json.Grammar

/-!
# Json — texts that are read as a value

A reader takes a value and leaves the rest of the text, and how far a number goes depends on what
follows it.  Inside a document only a blank, a comma or a closing bracket follows a value; a rest
of that kind *delimits* the value (`Delimits`), and so does the end of the text.

`Reader.Reads x cs a` says that the reader `x` reads the text `cs` as `a`, after any blanks and
before every rest that delimits it.  It is the form in which readers are put together below: the
reader of a list or a record reads what its parts read.  In the same form `Reader.Stops x cs f` says
that `x` stops inside `cs` at the fault `f`, so that the rest makes no difference.
-/

namespace TabletopDice.Json

variable {α β : Type}

/-! ### What follows a value -/

/-- Whether `c` may stand directly after a value. -/
def endsValue (c : Char) : Bool := c.isWhitespace || c = ',' || c = ']' || c = '\x7d'

/-- A rest that may follow a value. -/
def Delimits (rest : List Char) : Prop := ∀ c ∈ rest.head?, endsValue c

theorem delimits_nil : Delimits [] := by
  intro c h
  cases h

theorem delimits_cons {c : Char} (h : endsValue c) (rest : List Char) : Delimits (c :: rest) := by
  intro c' h'
  cases h'
  exact h

theorem not_endsValue_class {c : Char} (h : endsValue c = false) :
    c.isWhitespace = false ∧ c ≠ ',' ∧ c ≠ ']' ∧ c ≠ '\x7d' := by
  simp only [endsValue, Bool.or_eq_false_iff, decide_eq_false_iff_not] at h
  exact ⟨h.1.1.1, h.1.1.2, h.1.2, h.2⟩

theorem Delimits.append {ws rest : List Char} (hws : Blank ws) (h : Delimits rest) :
    Delimits (ws ++ rest) := by
  cases ws with
  | nil => exact h
  | cons c ws =>
      have hc := hws c List.mem_cons_self
      exact delimits_cons (by simp [endsValue, hc]) _

/-- No class of characters that excludes the ends of values goes on into what delimits a value. -/
theorem Delimits.not_head {rest : List Char} (h : Delimits rest) {p : Char → Bool}
    (hp : ∀ c, endsValue c → p c = false) : ∀ c ∈ rest.head?, p c = false :=
  fun c hc => hp c (h c hc)

/-! ### Blanks -/

theorem blank_nil : Blank [] := List.forall_mem_nil _

theorem blanksDropped_append {ws : List Char} (h : Blank ws) (cs : List Char) :
    blanksDropped (ws ++ cs) = blanksDropped cs :=
  List.dropWhile_append_of_pos h

theorem blanksDropped_of_not_blank {c : Char} (h : c.isWhitespace = false) (cs : List Char) :
    blanksDropped (c :: cs) = c :: cs :=
  List.dropWhile_cons_of_neg (by simp [h])

/-- After blanks the next character selects the reader. -/
theorem run_afterBlanks_peek (atEnd : Fault) (f : Char → Reader α) {ws : List Char} (hws : Blank ws)
    {c : Char} (hc : c.isWhitespace = false) (cs : List Char) :
    (Reader.afterBlanks (.peek atEnd f)).run (ws ++ c :: cs) = (f c).run (c :: cs) := by
  rw [Reader.run_afterBlanks, blanksDropped_append hws, blanksDropped_of_not_blank hc,
    Reader.run_peek_cons]

/-! ### Reading -/

/-- The text is not empty, and its first character ends no value before it. -/
def Begins (cs : List Char) : Prop := ∃ c tail, cs = c :: tail ∧ endsValue c = false

/-- `x` reads the text `cs` as `a`, whatever delimits it. -/
structure Reader.Reads (x : Reader α) (cs : List Char) (a : α) : Prop where
  begins : Begins cs
  run_append : ∀ {ws rest}, Blank ws → Delimits rest → x.run (ws ++ (cs ++ rest)) = .ok (a, rest)

/-- `x` stops inside the text `cs` at the fault `f`, whatever follows it. -/
structure Reader.Stops (x : Reader α) (cs : List Char) (f : Fault) : Prop where
  begins : Begins cs
  run_append : ∀ {ws}, Blank ws → ∀ rest, x.run (ws ++ (cs ++ rest)) = .error f

theorem Reader.Reads.run {x : Reader α} {cs rest : List Char} {a : α} (h : x.Reads cs a)
    (hrest : Delimits rest) : x.run (cs ++ rest) = .ok (a, rest) :=
  h.run_append blank_nil hrest

theorem Reader.Stops.run {x : Reader α} {cs : List Char} {e : Fault} (h : x.Stops cs e)
    (rest : List Char) : x.run (cs ++ rest) = .error e :=
  h.run_append blank_nil rest

theorem reads_value {f : Char → Reader α} {c : Char} {cs : List Char} {a : α}
    (hc : endsValue c = false)
    (h : ∀ rest, Delimits rest → (f c).run (c :: cs ++ rest) = .ok (a, rest)) :
    (value f).Reads (c :: cs) a where
  begins := ⟨c, cs, rfl, hc⟩
  run_append hws hrest :=
    (run_afterBlanks_peek _ f hws (not_endsValue_class hc).1 _).trans (h _ hrest)

theorem stops_value {f : Char → Reader α} {c : Char} {cs : List Char} {e : Fault}
    (hc : endsValue c = false) (h : ∀ rest, (f c).run (c :: cs ++ rest) = .error e) :
    (value f).Stops (c :: cs) e where
  begins := ⟨c, cs, rfl, hc⟩
  run_append hws rest :=
    (run_afterBlanks_peek _ f hws (not_endsValue_class hc).1 _).trans (h rest)

namespace Reader

theorem run_map_of_ok {x : Reader α} {s r : List Char} {a : α} (h : x.run s = .ok (a, r))
    (f : α → β) : (x.map f).run s = .ok (f a, r) := by
  rw [run_map, h]

theorem run_map_of_error {x : Reader α} {s : List Char} {e : Fault} (h : x.run s = .error e)
    (f : α → β) : (x.map f).run s = .error e := by
  rw [run_map, h]

theorem run_bind_of_ok {x : Reader α} {s r : List Char} {a : α} (h : x.run s = .ok (a, r))
    (f : α → Reader β) : (x.bind f).run s = (f a).run r := by
  rw [run_bind, h]

theorem run_bind_of_error {x : Reader α} {s : List Char} {e : Fault} (h : x.run s = .error e)
    (f : α → Reader β) : (x.bind f).run s = .error e := by
  rw [run_bind, h]

theorem run_andThen_of_done {x : Reader α} {s r : List Char} {a : α} {b : β} {f : α → Next β}
    (h : x.run s = .ok (a, r)) (hf : f a = .done b) : (x.andThen f).run s = .ok (b, r) := by
  rw [run_andThen, h]
  dsimp only
  rw [hf]

theorem run_andThen_of_error {x : Reader α} {s : List Char} {e : Fault} (h : x.run s = .error e)
    (f : α → Next β) : (x.andThen f).run s = .error e := by
  rw [run_andThen, h]

theorem Reads.map {x : Reader α} {cs : List Char} {a : α} (h : x.Reads cs a) (f : α → β) :
    (x.map f).Reads cs (f a) where
  begins := h.begins
  run_append hws hrest := run_map_of_ok (h.run_append hws hrest) f

theorem Stops.map {x : Reader α} {cs : List Char} {e : Fault} (h : x.Stops cs e) (f : α → β) :
    (x.map f).Stops cs e where
  begins := h.begins
  run_append hws rest := run_map_of_error (h.run_append hws rest) f

/-- A text that is read as a value, with blanks around it, stands for the value. -/
theorem Reads.decode_eq {x : Reader α} {text : String} {before cs after : List Char} {a : α}
    (h : x.Reads cs a) (hbefore : Blank before) (hafter : Blank after)
    (htext : text.toList = before ++ (cs ++ after)) : x.decode text = .ok a := by
  have hdelimits := Delimits.append hafter delimits_nil
  have hblanks := blanksDropped_append hafter []
  rw [List.append_nil] at hdelimits hblanks
  rw [decode, htext, h.run_append hbefore hdelimits]
  exact if_pos hblanks

/-- A text in which the reader stops cannot be read. -/
theorem Stops.decode_eq {x : Reader α} {text : String} {before cs rest : List Char} {e : Fault}
    (h : x.Stops cs e) (hbefore : Blank before) (htext : text.toList = before ++ (cs ++ rest)) :
    x.decode text = .error e := by
  rw [decode, htext, h.run_append hbefore rest]

end Reader

/-! ### Codecs -/

/-- A codec is lawful if it reads what it writes. -/
def Codec.Lawful (x : Codec α) : Prop := ∀ a, x.reader.Reads (x.write a) a

theorem Codec.Lawful.decode_encode {x : Codec α} (h : x.Lawful) (a : α) :
    x.decode (x.encode a) = .ok a := by
  refine (h a).decode_eq blank_nil blank_nil ?_
  rw [encode, String.toList_ofList, List.nil_append, List.append_nil]

theorem Codec.Lawful.map {x : Codec α} (h : x.Lawful) {there : α → β} {back : β → α}
    (hback : ∀ b, there (back b) = b) : (x.map there back).Lawful := by
  intro b
  have hmap := (h (back b)).map there
  rwa [hback] at hmap

end TabletopDice.Json
