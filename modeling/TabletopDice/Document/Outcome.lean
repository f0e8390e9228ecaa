import TabletopDice.Json.Record
import TabletopDice.Outcome

/-!
# Documents — outcomes

The documents of an outcome and of its parts.  A group without a modifier has the one that adds
nothing, and that modifier is never written; an outcome without an excerpt may leave it out of an
object, but not out of a list.
-/

namespace TabletopDice.Document

open Json (Codec Shape)

/-! ### Ranges -/

inductive RangeKey where
  | lower
  | upper
deriving DecidableEq

/-- The record of a range whose ends have the codec `x`. -/
def rangeShape {α : Type} (name lower upper : String) (x : Codec α) : Shape where
  name := name
  Key := RangeKey
  decEq := inferInstance
  keys := [.lower, .upper]
  mem_keys k := by cases k <;> simp
  label
    | .lower => lower
    | .upper => upper
  Value _ := α
  codec _ := x
  whenMissing _ := none
  whenCut _ := none
  omits _ _ := false

def totalRangeShape : Shape :=
  rangeShape "TotalBounds" "totalLowerBound" "totalUpperBound" .amount

def totalRangeFields (range : TotalRange) : totalRangeShape.Fields
  | .lower => range.lower
  | .upper => range.upper

/-- The documents of ranges of totals. -/
def totalRange : Codec TotalRange :=
  totalRangeShape.codecOf (fun f => ⟨f .lower, f .upper⟩) totalRangeFields

def faceRangeShape : Shape :=
  rangeShape "DieBounds" "dieLowerBound" "dieUpperBound" .word32

def faceRangeFields (range : FaceRange) : faceRangeShape.Fields
  | .lower => range.lower
  | .upper => range.upper

/-- The documents of ranges of faces. -/
def faceRange : Codec FaceRange :=
  faceRangeShape.codecOf (fun f => ⟨f .lower, f .upper⟩) faceRangeFields

/-! ### Groups -/

/-- The documents of modifiers. -/
def modifier : Codec Modifier := Codec.text.map .mk Modifier.text

inductive GroupKey where
  | faces
  | modifier
deriving DecidableEq

abbrev GroupKey.Value : GroupKey → Type
  | .faces => List UInt32
  | .modifier => Modifier

def groupShape : Shape where
  name := "RollDetail"
  Key := GroupKey
  decEq := inferInstance
  keys := [.faces, .modifier]
  mem_keys k := by cases k <;> simp
  label
    | .faces => "dice"
    | .modifier => "mod"
  Value := GroupKey.Value
  codec
    | .faces => .list .word32
    | .modifier => modifier
  whenMissing
    | .faces => none
    | .modifier => some .zero
  whenCut
    | .faces => none
    | .modifier => some .zero
  omits
    | .faces, _ => false
    | .modifier, (m : Modifier) => decide (m = .zero)

def groupFields (g : Group) : groupShape.Fields
  | .faces => g.faces
  | .modifier => g.modifier

/-- The documents of groups. -/
def group : Codec Group := groupShape.codecOf (fun f => ⟨f .faces, f .modifier⟩) groupFields

/-- The documents of the groups of an outcome. -/
def groups : Codec (List Group) := .list group

/-! ### Outcomes -/

inductive OutcomeKey where
  | total
  | excerpt
  | groups
  | totalRange
  | faceRange
deriving DecidableEq

abbrev OutcomeKey.Value : OutcomeKey → Type
  | .total => Amount
  | .excerpt => Option String
  | .groups => List Group
  | .totalRange => TotalRange
  | .faceRange => FaceRange

def outcomeShape : Shape where
  name := "RollOutcome"
  Key := OutcomeKey
  decEq := inferInstance
  keys := [.total, .excerpt, .groups, .totalRange, .faceRange]
  mem_keys k := by cases k <;> simp
  label
    | .total => "result"
    | .excerpt => "params"
    | .groups => "details"
    | .totalRange => "totalBounds"
    | .faceRange => "dieBounds"
  Value := OutcomeKey.Value
  codec
    | .total => .amount
    | .excerpt => .optional .text
    | .groups => groups
    | .totalRange => totalRange
    | .faceRange => faceRange
  whenMissing
    | .excerpt => some none
    | .total | .groups | .totalRange | .faceRange => none
  whenCut _ := none
  omits _ _ := false

def outcomeFields (o : Outcome) : outcomeShape.Fields
  | .total => o.total
  | .excerpt => o.excerpt
  | .groups => o.groups
  | .totalRange => o.totalRange
  | .faceRange => o.faceRange

/-- The documents of outcomes. -/
def outcome : Codec Outcome :=
  outcomeShape.codecOf
    (fun f => ⟨f .total, f .excerpt, f .groups, f .totalRange, f .faceRange⟩) outcomeFields

end TabletopDice.Document
