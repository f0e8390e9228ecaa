import TabletopDice.Json.Fault

/-!
# Json — readers

A `Reader α` reads a value of type `α` at the start of a text: it gives the value and the rest of
the text, or a fault.  Every reader that succeeds has taken at least one character (`shortens`),
and this is why repeating a reader ends (`Reader.loop`), whatever it reads.

Readers are put together from a few operations; each has its equation on `run`.
-/

namespace TabletopDice.Json

/-- A way to read an `α` at the start of a text. -/
structure Reader (α : Type) where
  /-- The value read and the rest of the text, or the first fault. -/
  run : List Char → Except Fault (α × List Char)
  /-- Something of the text was read. -/
  shortens : ∀ {s : List Char} {a : α} {r : List Char}, run s = .ok (a, r) → r.length < s.length

/-- A text without its leading blanks. -/
def blanksDropped (s : List Char) : List Char := s.dropWhile Char.isWhitespace

theorem length_blanksDropped_le (s : List Char) : (blanksDropped s).length ≤ s.length :=
  (List.dropWhile_suffix _).length_le

namespace Reader

variable {α β γ : Type}

/-! ### Putting readers together -/

/-- Always stops at this fault. -/
def fault (f : Fault) : Reader α where
  run _ := .error f
  shortens h := nomatch h

/-- How reading goes on after a value. -/
inductive Next (β : Type) where
  /-- Not at all: this is the value. -/
  | done (b : β)
  /-- Not at all: there is a fault. -/
  | fail (f : Fault)
  /-- With another reader. -/
  | more (y : Reader β)

/-- Reads with `x` and goes on as its value says. -/
def andThen (x : Reader α) (f : α → Next β) : Reader β where
  run s :=
    match x.run s with
    | .error e => .error e
    | .ok (a, r) =>
      match f a with
      | .done b => .ok (b, r)
      | .fail e => .error e
      | .more y => y.run r
  shortens h := by
    split at h
    · cases h
    · next hx =>
      split at h
      · cases h; exact x.shortens hx
      · cases h
      · next y _ => exact Nat.lt_trans (y.shortens h) (x.shortens hx)

/-- Reads with `x` and changes the value. -/
def map (f : α → β) (x : Reader α) : Reader β := x.andThen fun a => .done (f a)

/-- Reads with `x`, and then with the reader that its value selects. -/
def bind (x : Reader α) (f : α → Reader β) : Reader β := x.andThen fun a => .more (f a)

/-- Reads one character and takes what it stands for; `atEnd` is the fault of a text without one. -/
def char (atEnd : Fault) (f : Char → Except Fault α) : Reader α where
  run
    | [] => .error atEnd
    | c :: r =>
      match f c with
      | .ok a => .ok (a, r)
      | .error e => .error e
  shortens {s a r} h := by
    split at h
    · cases h
    · split at h
      · cases h; exact Nat.lt_succ_self _
      · cases h

/-- Reads with the reader that the first character selects, which reads that character too. -/
def peek (atEnd : Fault) (f : Char → Reader α) : Reader α where
  run
    | [] => .error atEnd
    | c :: r => (f c).run (c :: r)
  shortens {s a r} h := by
    split at h
    · cases h
    · exact (f _).shortens h

/-- Reads one character, whatever it is, and then with `x`. -/
def skipThen (x : Reader α) : Reader α where
  run
    | [] => x.run []
    | _ :: r => x.run r
  shortens {s a r} h := by
    split at h
    · exact x.shortens h
    · exact Nat.lt_trans (x.shortens h) (Nat.lt_succ_self _)

/-- Reads one character, whatever it is, and answers `a`. -/
def skipTo (a : α) : Reader α := char (.ended .value) fun _ => .ok a

@[simp] theorem run_fault (f : Fault) (s : List Char) : (fault f : Reader α).run s = .error f := rfl

theorem run_andThen (x : Reader α) (f : α → Next β) (s : List Char) :
    (x.andThen f).run s =
      match x.run s with
      | .error e => .error e
      | .ok (a, r) =>
        match f a with
        | .done b => .ok (b, r)
        | .fail e => .error e
        | .more y => y.run r := rfl

theorem run_map (f : α → β) (x : Reader α) (s : List Char) :
    (x.map f).run s =
      match x.run s with
      | .error e => .error e
      | .ok (a, r) => .ok (f a, r) := rfl

theorem run_bind (x : Reader α) (f : α → Reader β) (s : List Char) :
    (x.bind f).run s =
      match x.run s with
      | .error e => .error e
      | .ok (a, r) => (f a).run r := rfl

@[simp] theorem run_char_cons (atEnd : Fault) (f : Char → Except Fault α) (c : Char)
    (r : List Char) :
    (char atEnd f).run (c :: r) =
      match f c with
      | .ok a => .ok (a, r)
      | .error e => .error e := rfl

@[simp] theorem run_peek_cons (atEnd : Fault) (f : Char → Reader α) (c : Char) (r : List Char) :
    (peek atEnd f).run (c :: r) = (f c).run (c :: r) := rfl

@[simp] theorem run_skipThen_cons (x : Reader α) (c : Char) (r : List Char) :
    (skipThen x).run (c :: r) = x.run r := rfl

@[simp] theorem run_skipTo_cons (a : α) (c : Char) (r : List Char) :
    (skipTo a).run (c :: r) = .ok (a, r) := rfl

/-- Reads with `x` after the leading blanks. -/
def afterBlanks (x : Reader α) : Reader α where
  run s := x.run (blanksDropped s)
  shortens h := Nat.lt_of_lt_of_le (x.shortens h) (length_blanksDropped_le _)

@[simp] theorem run_afterBlanks (x : Reader α) (s : List Char) :
    (afterBlanks x).run s = x.run (blanksDropped s) := rfl

/-- Reads with `x`, and with `y` if what follows begins as `y` does. -/
def optionally (x : Reader α) (begins : Char → Bool) (y : Reader β) : Reader (α × Option β) where
  run s :=
    match x.run s with
    | .error e => .error e
    | .ok (a, []) => .ok ((a, none), [])
    | .ok (a, c :: r) =>
      if begins c then
        match y.run (c :: r) with
        | .ok (b, r) => .ok ((a, some b), r)
        | .error e => .error e
      else .ok ((a, none), c :: r)
  shortens h := by
    split at h
    · cases h
    · next hx => cases h; exact x.shortens hx
    · next hx =>
      split at h
      · split at h
        · next hy => cases h; exact Nat.lt_trans (y.shortens hy) (x.shortens hx)
        · cases h
      · cases h; exact x.shortens hx

/-- Reads as many characters of a class as there are, and at least one. -/
def many (atEnd otherwise : Fault) (p : Char → Bool) : Reader (List Char) where
  run
    | [] => .error atEnd
    | c :: r => if p c then .ok (c :: r.takeWhile p, r.dropWhile p) else .error otherwise
  shortens {s a r} h := by
    split at h
    · cases h
    · split at h
      · cases h
        exact Nat.lt_succ_of_le (List.dropWhile_suffix _).length_le
      · cases h

/-- Reads the characters of a word. -/
def word (atEnd otherwise : Fault) : Char → List Char → Reader Unit
  | c, [] => char atEnd fun d => if d = c then .ok () else .error otherwise
  | c, d :: ds =>
    (char atEnd fun e => if e = c then .ok () else .error otherwise).bind fun _ =>
      word atEnd otherwise d ds

/-! ### Repetition -/

/-- How a repetition goes on after one step. -/
inductive Progress (β γ : Type) where
  /-- With another step from here. -/
  | again (state : β)
  /-- Not at all: this is the result. -/
  | done (result : γ)

/-- The steps of a repetition, each from the state that the last one left. -/
def steps (step : β → Reader (Progress β γ)) (b : β) (s : List Char) :
    Except Fault (γ × List Char) :=
  match _ : (step b).run s with
  | .error e => .error e
  | .ok (.done c, r) => .ok (c, r)
  | .ok (.again b', r) => steps step b' r
termination_by s.length
decreasing_by exact (step b).shortens (by assumption)

theorem length_lt_of_steps {step : β → Reader (Progress β γ)} {b : β} {s : List Char} {c : γ}
    {r : List Char} (h : steps step b s = .ok (c, r)) : r.length < s.length := by
  fun_induction steps step b s with
  | case1 => cases h
  | case2 b s c r hs => cases h; exact (step b).shortens hs
  | case3 b s b' r' hs ih => exact Nat.lt_trans (ih h) ((step b).shortens hs)

/-- Repeats a step from the state `b` until it is done. -/
def loop (step : β → Reader (Progress β γ)) (b : β) : Reader γ where
  run := steps step b
  shortens := length_lt_of_steps

/-- A repetition is one step and, unless that is the last, the repetition from where it leads. -/
theorem run_loop (step : β → Reader (Progress β γ)) (b : β) (s : List Char) :
    (loop step b).run s =
      match (step b).run s with
      | .error e => .error e
      | .ok (.done c, r) => .ok (c, r)
      | .ok (.again b, r) => (loop step b).run r := by
  show steps step b s = _
  rw [steps]
  split <;> simp_all [loop]

/-! ### Whole texts -/

/-- Reads a whole text, with blanks around it. -/
def decode (x : Reader α) (text : String) : Except Fault α :=
  match x.run text.toList with
  | .ok (a, r) => if blanksDropped r = [] then .ok a else .error (.malformed .trailingCharacters)
  | .error e => .error e

end Reader

end TabletopDice.Json
