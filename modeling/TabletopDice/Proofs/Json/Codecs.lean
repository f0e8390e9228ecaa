import TabletopDice.Proofs.Json.Items
import TabletopDice.Proofs.Json.Numbers
import TabletopDice.Proofs.Json.Strings

/-!
# Json — codecs

What the readers of words, amounts and texts read, and what those of missing values, lists and
choices read, in terms of the codecs and labels that they are made of:

* a missing value stands as `null`, so no other value may begin with an `n`;
* the elements of a list are taken one after the other, and it stops where an element does;
* a choice is known by its label, so two choices may not share one.

What is written is one of these texts, so all of the codecs are lawful.
-/

namespace TabletopDice.Json

open Reader

variable {α : Type}

/-! ### Numbers -/

/-- The codec of values that are known by a natural number of some range. -/
theorem lawful_natural {range : NumberRange} (lo : range.low = 0)
    (hi : range.high < 0x10000000000000000) {toNat : α → Nat} {ofNat : Nat → α}
    (hback : ∀ a, ofNat (toNat a) = a) (hmem : ∀ a, (toNat a : Int) ≤ range.high) :
    Codec.Lawful ⟨(wholeNumber range).map fun n => ofNat n.val.toNat,
      fun a => Text.natural (toNat a)⟩ := by
  intro a
  have hlow : range.low ≤ (toNat a : Int) := by rw [lo]; exact Int.natCast_nonneg _
  have hreads := reads_wholeNumber (by rw [lo]; decide) hi ⟨(toNat a : Int), hlow, hmem a⟩
  have hmap := hreads.map fun n => ofNat n.val.toNat
  rwa [Int.toNat_natCast, hback] at hmap

theorem lawful_word32 : Codec.word32.Lawful :=
  lawful_natural rfl (by decide) (fun _ => UInt32.ofNat_toNat)
    fun w => Int.ofNat_le.mpr (Nat.le_of_lt_succ w.toNat_lt)

theorem lawful_word64 : Codec.word64.Lawful :=
  lawful_natural rfl (by decide) (fun _ => UInt64.ofNat_toNat)
    fun w => Int.ofNat_le.mpr (Nat.le_of_lt_succ w.toNat_lt)

theorem lawful_amount : Codec.amount.Lawful := by
  intro a
  have hreads := reads_wholeNumber (by decide) (by decide)
    (⟨a.toInt, a.least_le, a.le_greatest⟩ : NumberRange.Member .amount)
  exact hreads.map fun n => (⟨n.val, n.property.1, n.property.2⟩ : Amount)

/-! ### Texts -/

/-- A value that is read from a literal and the closing quote after it. -/
theorem reads_quoted {f : Char → Reader α} {x : Reader α} (hf : f '"' = .skipThen x)
    {cs : List Char} {a : α} (h : ∀ rest, x.run (cs ++ '"' :: rest) = .ok (a, rest)) :
    (value f).Reads ('"' :: (cs ++ ['"'])) a := by
  refine reads_value rfl fun rest _ => ?_
  rw [hf, List.cons_append, run_skipThen_cons, List.append_assoc]
  exact h rest

theorem reads_text {cs : List Char} {text : String} (h : LiteralOf cs text.toList) :
    Codec.text.reader.Reads ('"' :: (cs ++ ['"'])) text := by
  refine reads_quoted (if_pos rfl) fun rest => ?_
  rw [run_map_of_ok (run_stringTail h rest), String.ofList_toList]

theorem lawful_text : Codec.text.Lawful := fun text => reads_text (literalOf_escaped text.toList)

/-! ### Values that may be missing -/

theorem reads_null (x : Codec α) : x.optional.reader.Reads ['n', 'u', 'l', 'l'] none :=
  reads_value rfl fun _ _ => rfl

theorem reads_some {x : Codec α} {cs : List Char} {a : α} (h : x.reader.Reads cs a)
    (hn : cs.head? ≠ some 'n') : x.optional.reader.Reads cs (some a) := by
  obtain ⟨c, tail, rfl, hc⟩ := h.begins
  have hne : c ≠ 'n' := fun heq => hn (congrArg some heq)
  refine reads_value hc fun rest hrest => ?_
  rw [if_neg hne]
  exact run_map_of_ok (h.run hrest) some

theorem stops_some {x : Codec α} {cs : List Char} {e : Fault} (h : x.reader.Stops cs e)
    (hn : cs.head? ≠ some 'n') : x.optional.reader.Stops cs e := by
  obtain ⟨c, tail, rfl, hc⟩ := h.begins
  have hne : c ≠ 'n' := fun heq => hn (congrArg some heq)
  refine stops_value hc fun rest => ?_
  rw [if_neg hne]
  exact run_map_of_error (h.run rest) some

theorem lawful_optional {x : Codec α} (h : x.Lawful) (hn : ∀ a, (x.write a).head? ≠ some 'n') :
    x.optional.Lawful := by
  intro o
  cases o with
  | none => exact reads_null x
  | some a => exact reads_some (h a) (hn a)

/-! ### Lists -/

/-- The elements of a list, from any of them on, where `read` are those before. -/
def elementsAfter (x : Codec α) (read : List α) : Reader (List α) :=
  loop (elementStep x.reader) read

theorem takes_element {x : Codec α} {cs : List Char} {a : α} (h : x.reader.Reads cs a)
    (read : List α) : Takes (elementsAfter x) List.isEmpty cs read (a :: read) where
  not_first := rfl
  run_append {gap rest} hgap hrest := by
    obtain ⟨c, tail, rfl, hc⟩ := h.begins
    have hrun := run_map_of_ok (h.run hrest) fun a => Progress.again (γ := List α) (a :: read)
    rw [elementsAfter, run_loop, elementStep, List.cons_append, run_nextElement hgap _ _ hc,
      ← List.cons_append, hrun]
    rfl

theorem takesAll_elements {x : Codec α} {texts : List (List Char)} {as : List α}
    (h : List.Forall₂ x.reader.Reads texts as) (read : List α) :
    TakesAll (elementsAfter x) List.isEmpty texts read (as.reverse ++ read) := by
  induction h generalizing read with
  | nil => exact .nil
  | @cons _ a _ as ha _ ih =>
      have hrest := ih (a :: read)
      rw [List.append_cons, ← List.reverse_cons] at hrest
      exact .cons (takes_element ha read) hrest

/-- **Lists.**  A list is read if its elements are. -/
theorem reads_list {x : Codec α} {texts : List (List Char)} {as : List α} {body : List Char}
    (h : List.Forall₂ x.reader.Reads texts as) (hbody : Spaced true texts body) :
    (Codec.list x).reader.Reads ('[' :: (body ++ [']'])) as := by
  refine reads_value rfl fun rest _ => ?_
  obtain ⟨ws, hws, hrun⟩ :=
    (takesAll_elements h []).run_closing hbody (delimits_cons (c := ']') rfl rest)
  rw [List.append_nil] at hrun
  rw [if_pos rfl, List.cons_append, run_skipThen_cons, List.append_assoc, List.singleton_append]
  refine hrun.trans ?_
  rw [elementsAfter, run_loop, elementStep, run_nextElement_close hws, run_skipTo_cons,
    List.reverse_reverse]

/-- A list is not read if one of its elements is not. -/
theorem stops_list {x : Codec α} {texts : List (List Char)} {as : List α} {cs body : List Char}
    {e : Fault} (h : List.Forall₂ x.reader.Reads texts as) (hcs : x.reader.Stops cs e)
    (hbody : Spaced true (texts ++ [cs]) body) : (Codec.list x).reader.Stops ('[' :: body) e := by
  refine stops_value rfl fun rest => ?_
  obtain ⟨gap, tail, hgap, hrun⟩ := (takesAll_elements h []).run_stopping hbody rest
  obtain ⟨c, cs, rfl, hc⟩ := hcs.begins
  rw [if_pos rfl, List.cons_append, run_skipThen_cons]
  refine hrun.trans ?_
  rw [elementsAfter, run_loop, elementStep, List.cons_append, run_nextElement hgap _ _ hc,
    ← List.cons_append, run_map_of_error (hcs.run tail)]

/-- Texts with nothing but a comma between them. -/
theorem spaced_intercalate (texts : List (List Char)) :
    Spaced true texts ([','].intercalate texts) := by
  have htail : ∀ (text : List Char) (texts : List (List Char)), ∃ cs, Spaced false texts cs ∧
      [','].intercalate (text :: texts) = text ++ cs := by
    intro text texts
    induction texts generalizing text with
    | nil => exact ⟨[], .nil blank_nil, by simp⟩
    | cons text' texts ih =>
        obtain ⟨cs, hcs, heq⟩ := ih text'
        refine ⟨_, .cons (.next blank_nil blank_nil) hcs, ?_⟩
        rw [List.intercalate_cons_cons, heq, List.append_assoc]
        rfl
  cases texts with
  | nil => exact .nil blank_nil
  | cons text texts =>
      obtain ⟨cs, hcs, heq⟩ := htail text texts
      rw [heq]
      exact .cons (.first blank_nil) hcs

theorem lawful_list {x : Codec α} (h : x.Lawful) : (Codec.list x).Lawful := by
  intro as
  refine reads_list ?_ (spaced_intercalate _)
  rw [List.forall₂_map_left_iff, List.forall₂_same]
  exact fun a _ => h a

/-! ### Choices -/

/-- The only member of a list with a property is found by it. -/
theorem find?_of_unique {p : α → Bool} {as : List α} {a : α} (ha : a ∈ as) (hp : p a)
    (hunique : ∀ b ∈ as, p b → b = a) : as.find? p = some a := by
  cases hfind : as.find? p with
  | none => exact absurd hp (List.find?_eq_none.mp hfind a ha)
  | some b => rw [hunique b (List.mem_of_find?_eq_some hfind) (List.find?_some hfind)]

theorem reads_choice {choices : List α} {label : α → String} (mem : ∀ a, a ∈ choices)
    (inj : ∀ a b, label a = label b → a = b) {cs : List Char} {a : α}
    (h : LiteralOf cs (label a).toList) :
    (Codec.choice choices label).reader.Reads ('"' :: (cs ++ ['"'])) a := by
  refine reads_quoted (if_pos rfl) fun rest => ?_
  have hfind : (choices.find? fun b => (label b).toList = (label a).toList) = some a := by
    refine find?_of_unique (mem a) (decide_eq_true rfl) fun b _ hb => inj b a ?_
    exact String.toList_inj.mp (of_decide_eq_true hb)
  refine run_andThen_of_done (run_stringTail h rest) ?_
  rw [hfind]

theorem lawful_choice {choices : List α} {label : α → String} (mem : ∀ a, a ∈ choices)
    (inj : ∀ a b, label a = label b → a = b) : (Codec.choice choices label).Lawful :=
  fun a => reads_choice mem inj (literalOf_escaped (label a).toList)

end TabletopDice.Json
