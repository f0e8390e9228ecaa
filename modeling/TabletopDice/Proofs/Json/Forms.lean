import Mathlib.Data.List.ReduceOption
import TabletopDice.Proofs.Json.Grammar

/-!
# Json — the texts of a value

A value has many texts: strings may escape what they like, blanks may stand between tokens, and a
record is an object with its members in any order, or a list.  A `Form` tells all of them without
reading any (`Form.Says`).

A form also tells the texts in which a key of some record comes twice (`Form.Repeats`).  Such a text
says what a record says, of whatever value, as far as the closing quote of the key; what follows
may be anything.

The forms below are put together as the codecs are, but from the texts that values have and not from
readers.  A record has its labels, the order of its keys and what may be left out of it here once
more (`Form.record`): they are what a reader of it has to agree with.
-/

namespace TabletopDice.Json

variable {α β : Type}

/-- The texts that stand for the values of a type. -/
structure Form (α : Type) where
  /-- The text stands for the value. -/
  Says : List Char → α → Prop
  /-- The text ends with a key of this label where the record that it is in has that key already. -/
  Repeats : List Char → (label : String) → Prop

namespace Form

/-! ### Numbers, strings, lists -/

/-- Values with one text only. -/
def written (write : α → List Char) : Form α where
  Says cs a := cs = write a
  Repeats _ _ := False

/-- Values that are known by a text, which stands between quotes. -/
def quoted (text : α → String) : Form α where
  Says cs a := ∃ literal, LiteralOf literal (text a).toList ∧ cs = '"' :: (literal ++ ['"'])
  Repeats _ _ := False

/-- Values that may be missing, and then stand as `null`. -/
def optional (form : Form α) : Form (Option α) where
  Says
    | cs, none => cs = ['n', 'u', 'l', 'l']
    | cs, some a => form.Says cs a
  Repeats := form.Repeats

/-- Lists, with a key that comes twice in one of the elements. -/
def list (form : Form α) : Form (List α) where
  Says cs as := ∃ texts body, List.Forall₂ form.Says texts as ∧ Spaced true texts body ∧
    cs = '[' :: (body ++ [']'])
  Repeats cs label := ∃ texts as text body, List.Forall₂ form.Says texts as ∧
    form.Repeats text label ∧ Spaced true (texts ++ [text]) body ∧ cs = '[' :: body

/-- Values that are known by another one. -/
def via (back : β → α) (form : Form α) : Form β where
  Says cs b := form.Says cs (back b)
  Repeats := form.Repeats

/-! ### Records -/

variable {Key : Type} {Value : Key → Type}

section

variable (label : Key → String) (Says : (k : Key) → List Char → Value k → Prop)

/-- A member of an object that stands for a record: a key with its value, or a label that no key
has, with a value of any kind. -/
inductive IsMember (fields : (k : Key) → Value k) : List Char → Option Key → Prop where
  | known {k : Key} {value cs : List Char} : Says k value (fields k) →
      MemberOf (LiteralOf · (label k).toList) value cs → IsMember fields cs (some k)
  | other {name value cs : List Char} : (∀ k, (label k).toList ≠ name) → IsValue value →
      MemberOf (LiteralOf · name) value cs → IsMember fields cs none

/-- An element of a list that stands for a record. -/
def IsElement (fields : (k : Key) → Value k) (cs : List Char) (k : Key) : Prop :=
  Says k cs (fields k)

/-- The texts of a record.  An object has its members in any order, and a list the values in the
order of the keys, of which it may leave out the last ones. -/
inductive IsRecord (order : List Key) (mayOmit : (k : Key) → Value k → Prop)
    (fields : (k : Key) → Value k) : List Char → Prop where
  | object {texts : List (List Char)} {keys : List (Option Key)} {body : List Char} :
      List.Forall₂ (IsMember label Says fields) texts keys → keys.reduceOption.Nodup →
      (∀ k, some k ∉ keys → mayOmit k (fields k)) → Spaced true texts body →
      IsRecord order mayOmit fields ('\x7b' :: (body ++ ['\x7d']))
  | list {texts : List (List Char)} {keys omitted : List Key} {body : List Char} :
      order = keys ++ omitted → List.Forall₂ (IsElement Says fields) texts keys →
      (∀ k ∈ omitted, mayOmit k (fields k)) → Spaced true texts body →
      IsRecord order mayOmit fields ('[' :: (body ++ [']']))

variable (Repeats : (k : Key) → List Char → (label : String) → Prop)

/-- What comes after members with these keys: one of the keys, or a new one in whose value a key
comes twice. -/
inductive RepeatsAfter (keys : List (Option Key)) : List Char → (repeated : String) → Prop where
  | key {k : Key} {literal : List Char} : some k ∈ keys → LiteralOf literal (label k).toList →
      RepeatsAfter keys ('"' :: (literal ++ ['"'])) (label k)
  | value {k : Key} {value cs : List Char} {repeated : String} : some k ∉ keys →
      Repeats k value repeated → MemberOf (LiteralOf · (label k).toList) value cs →
      RepeatsAfter keys cs repeated

/-- The texts of records as far as the first key that comes twice. -/
inductive RecordRepeats (order : List Key) : List Char → (repeated : String) → Prop where
  | object {fields : (k : Key) → Value k} {texts : List (List Char)} {keys : List (Option Key)}
      {text body : List Char} {repeated : String} :
      List.Forall₂ (IsMember label Says fields) texts keys → keys.reduceOption.Nodup →
      RepeatsAfter label Repeats keys text repeated → Spaced true (texts ++ [text]) body →
      RecordRepeats order ('\x7b' :: body) repeated
  | list {fields : (k : Key) → Value k} {texts : List (List Char)} {keys later : List Key} {k : Key}
      {text body : List Char} {repeated : String} :
      order = keys ++ k :: later → List.Forall₂ (IsElement Says fields) texts keys →
      Repeats k text repeated → Spaced true (texts ++ [text]) body →
      RecordRepeats order ('[' :: body) repeated

end

/-- Records with a value for every key: the labels of the keys, their order in a list, the forms of
their values, and which values may be left out. -/
def record (label : Key → String) (order : List Key) (forms : (k : Key) → Form (Value k))
    (mayOmit : (k : Key) → Value k → Prop) : Form ((k : Key) → Value k) where
  Says cs fields := IsRecord label (fun k => (forms k).Says) order mayOmit fields cs
  Repeats := RecordRepeats label (fun k => (forms k).Says) (fun k => (forms k).Repeats) order

end Form

/-! ### Whole texts -/

/-- The whole text stands for the value, with blanks around it. -/
def Form.Presents (form : Form α) (text : String) (a : α) : Prop :=
  ∃ before cs after, Blank before ∧ form.Says cs a ∧ Blank after ∧
    text.toList = before ++ (cs ++ after)

/-- The text presents a value up to a key that comes twice in a record. -/
def Form.Overwrites (form : Form α) (text : String) (label : String) : Prop :=
  ∃ before cs rest, Blank before ∧ form.Repeats cs label ∧ text.toList = before ++ (cs ++ rest)

end TabletopDice.Json
