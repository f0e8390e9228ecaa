import TabletopDice.Json.Skip

/-!
# Json — records

A `Shape` describes a record: its keys in order, the label of each key, the codec of each value,
and which values may be left out.  `Shape.codecOf` is the codec of a type whose values are the
records of a shape.

A record is read from an object, whose members come in any order and among members with other
labels, which are passed over; or from a list of its values in the order of the keys.  A label
that comes twice is a fault, and so is a missing one for which the shape has no value.  A record
is always written as an object, in the order of the keys.
-/

namespace TabletopDice.Json

/-- The description of a record. -/
structure Shape where
  /-- The name of the record in faults. -/
  name : String
  Key : Type
  decEq : DecidableEq Key
  /-- The keys in order. -/
  keys : List Key
  mem_keys : ∀ k, k ∈ keys
  /-- How a key is written. -/
  label : Key → String
  Value : Key → Type
  codec : (k : Key) → Codec (Value k)
  /-- The value of a key that is missing from an object. -/
  whenMissing : (k : Key) → Option (Value k)
  /-- The value of a key that a list ends before. -/
  whenCut : (k : Key) → Option (Value k)
  /-- Whether a value is left out in writing. -/
  omits : (k : Key) → Value k → Bool

namespace Shape

variable (shape : Shape)

instance : DecidableEq shape.Key := shape.decEq

/-- A record of the shape: a value for every key. -/
abbrev Fields := (k : shape.Key) → shape.Value k

/-- A record that is being read: a value for some keys. -/
abbrev Draft := (k : shape.Key) → Option (shape.Value k)

variable {shape}

def Draft.empty : shape.Draft := fun _ => none

/-- A draft with the value of a key set. -/
def Draft.set (d : shape.Draft) (k : shape.Key) (v : shape.Value k) : shape.Draft := fun j =>
  if h : j = k then some (h ▸ v) else d j

/-- The draft, and `others` for the keys that it has no value for. -/
def Draft.or (d others : shape.Draft) : shape.Draft := fun k => (d k).or (others k)

/-- The record of a draft that has a value for every key; otherwise the first key without one. -/
def Draft.complete (d : shape.Draft) : Except shape.Key shape.Fields :=
  match h : shape.keys.find? fun k => (d k).isNone with
  | some k => .error k
  | none => .ok fun k => (d k).get <| by
      have := List.find?_eq_none.mp h k (shape.mem_keys k)
      simpa [Option.isSome_iff_ne_none] using this

/-! ### Lists -/

/-- The record of a list that has ended. -/
def cut (d : shape.Draft) : Reader.Next shape.Fields :=
  match (d.or shape.whenCut).complete with
  | .ok fields => .done fields
  | .error k =>
    .fail (.misshapen (.tooShort (shape.keys.idxOf k) shape.name shape.keys.length))

/-- Reads the closing bracket of a list that has a value for every key. -/
def closeList : Reader Unit :=
  .afterBlanks <| .peek (.ended .list) fun c =>
    if c = ']' then .skipTo ()
    else if c = ',' then
      .skipThen <| .afterBlanks <| .peek (.malformed .trailingCharacters) fun c =>
        .fault (.malformed (if c = ']' then .trailingComma else .trailingCharacters))
    else .fault (.malformed .trailingCharacters)

/-- Reads the values of the given keys from a list. -/
def elements : List shape.Key → (first : Bool) → shape.Draft → Reader shape.Fields
  | [], _, d => closeList.andThen fun _ => cut d
  | k :: keys, first, d =>
    nextElement first ((shape.codec k).reader.bind fun v => elements keys false (d.set k v))
      ((Reader.skipTo ()).andThen fun _ => cut d)

/-! ### Objects -/

/-- Reads up to the next member of an object and then with `member` after the opening quote of its
key, or with `atClose` at the closing brace.  A comma stands before every member but the first. -/
def nextMember {α : Type} (first : Bool) (member atClose : Reader α) : Reader α :=
  .afterBlanks <| .peek (.ended .object) fun c =>
    if c = '\x7d' then atClose
    else if first then
      if c = '"' then .skipThen member else .fault (.malformed .keyNotString)
    else if c = ',' then .skipThen <| value fun c =>
      if c = '"' then .skipThen member
      else .fault (.malformed (if c = '\x7d' then .trailingComma else .keyNotString))
    else .fault (.malformed .expectedCommaOrBrace)

open Reader (Progress)

/-- The key with this label. -/
def key? (name : List Char) : Option shape.Key :=
  shape.keys.find? fun k => (shape.label k).toList = name

/-- Reads a member after the opening quote of its key, and gives the draft with its value.  A
repeated label is noticed before the colon. -/
def member (d : shape.Draft) : Reader shape.Draft :=
  stringTail.bind fun name =>
    match key? name with
    | none => colon.bind fun _ => skipped.map fun _ => d
    | some k =>
      if (d k).isSome then .fault (.misshapen (.repeated (shape.label k)))
      else colon.bind fun _ => (shape.codec k).reader.map fun v => d.set k v

/-- Reads a member of an object, or its closing brace; the state is whether it is the first, and
what was read before. -/
def memberStep (state : Bool × shape.Draft) :
    Reader (Progress (Bool × shape.Draft) shape.Draft) :=
  nextMember state.1 ((member state.2).map fun d => .again (false, d)) (.skipTo (.done state.2))

/-- Reads the members of an object after its opening brace. -/
def members : Reader shape.Draft := .loop memberStep (true, .empty)

/-- The record of an object that has ended. -/
def closed (d : shape.Draft) : Reader.Next shape.Fields :=
  match (d.or shape.whenMissing).complete with
  | .ok fields => .done fields
  | .error k => .fail (.misshapen (.missing (shape.label k)))

/-! ### Records -/

variable (shape)

def reader : Reader shape.Fields :=
  value fun c =>
    if c = '[' then .skipThen (elements shape.keys true .empty)
    else if c = '\x7b' then .skipThen (members.andThen closed)
    else mismatch (.record shape.name)

variable {shape}

def writeMember (fields : shape.Fields) (k : shape.Key) : List Char :=
  writeString (shape.label k) ++ ':' :: (shape.codec k).write (fields k)

/-- Writes a record, without the values that are left out. -/
def write (fields : shape.Fields) : List Char :=
  '\x7b' :: [','].intercalate
    ((shape.keys.filter fun k => !shape.omits k (fields k)).map (writeMember fields)) ++ ['\x7d']

/-- The codec of a type whose values are the records of the shape. -/
def codecOf {α : Type} (shape : Shape) (ofFields : shape.Fields → α) (fields : α → shape.Fields) :
    Codec α where
  reader := shape.reader.map ofFields
  write a := write (fields a)

end Shape

end TabletopDice.Json
