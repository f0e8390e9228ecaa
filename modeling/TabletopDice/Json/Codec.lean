import TabletopDice.Amount
import TabletopDice.Json.Number
import TabletopDice.Json.Strings

/-!
# Json — codecs

A `Codec α` reads values of type `α` and writes them.  Here are the codecs of words, amounts, texts,
values that may be missing, lists and choices.  Every reader begins after the leading blanks, and
where a value of another type stands, its fault names what was found (`mismatch`); the value is read
far enough to name it, so a fault inside it comes first.
-/

namespace TabletopDice.Json

/-- A way to read and to write values. -/
structure Codec (α : Type) where
  reader : Reader α
  /-- Writes a value, without blanks. -/
  write : α → List Char

namespace Codec

variable {α β : Type}

/-- The text of a value. -/
def encode (x : Codec α) (a : α) : String := String.ofList (x.write a)

/-- The value of a text, with blanks around it. -/
def decode (x : Codec α) (text : String) : Except Fault α := x.reader.decode text

/-- A codec of values that stand for other ones. -/
def map (there : α → β) (back : β → α) (x : Codec α) : Codec β where
  reader := x.reader.map there
  write b := x.write (back b)

end Codec

/-! ### Values of the wrong type -/

/-- The fault of a text that ends where a value is due. -/
def endedInValue : Fault := .ended .value

/-- Reads a word of letters, such as `null`. -/
def letters (first : Char) (others : List Char) : Reader Unit :=
  .word endedInValue (.malformed .expectedWord) first others

def nullWord : Reader Unit := letters 'n' ['u', 'l', 'l']

def trueWord : Reader Unit := letters 't' ['r', 'u', 'e']

def falseWord : Reader Unit := letters 'f' ['a', 'l', 's', 'e']

/-- Whether a number begins with `c`. -/
def beginsNumber (c : Char) : Bool := c = '-' || c.isDigit

/-- Reads as much of a value as is needed to name it. -/
def found : Reader Found :=
  .peek endedInValue fun c =>
    if c = 'n' then nullWord.map fun _ => .null
    else if c = 't' then trueWord.map fun _ => .boolean true
    else if c = 'f' then falseWord.map fun _ => .boolean false
    else if beginsNumber c then number.map fun v =>
      match v with
      | .integer n => .integer n
      | .fraction f => .fraction (Decimal.ofFloat f)
    else if c = '"' then .skipThen (stringTail.map .string)
    else if c = '[' then .skipTo .sequence
    else if c = '\x7b' then .skipTo .map
    else .fault (.malformed .expectedValue)

/-- Stops at a value of the wrong type. -/
def mismatch {α : Type} (expected : Expected) : Reader α :=
  found.andThen fun f => .fail (.misshapen (.wrongType f expected))

/-- Reads a value after blanks with the reader that its first character selects. -/
def value {α : Type} (f : Char → Reader α) : Reader α := .afterBlanks (.peek endedInValue f)

/-! ### Numbers and strings -/

/-- A whole number in a range. -/
abbrev NumberRange.Member (range : NumberRange) := { n : Int // range.low ≤ n ∧ n ≤ range.high }

/-- Reads a whole number in a range. -/
def wholeNumber (range : NumberRange) : Reader range.Member :=
  value fun c =>
    if beginsNumber c then number.andThen fun v =>
      match v with
      | .integer n =>
        if h : range.low ≤ n ∧ n ≤ range.high then .done ⟨n, h⟩
        else .fail (.misshapen (.outOfRange n range))
      | .fraction f =>
        .fail (.misshapen (.wrongType (.fraction (Decimal.ofFloat f)) (.number range)))
    else mismatch (.number range)

def Codec.word32 : Codec UInt32 where
  reader := (wholeNumber .word32).map fun n => .ofNat n.val.toNat
  write w := Text.natural w.toNat

def Codec.word64 : Codec UInt64 where
  reader := (wholeNumber .word64).map fun n => .ofNat n.val.toNat
  write w := Text.natural w.toNat

def Codec.amount : Codec Amount where
  reader := (wholeNumber .amount).map fun n => ⟨n.val, n.property.1, n.property.2⟩
  write a := Text.integer a.toInt

def Codec.text : Codec String where
  reader := value fun c =>
    if c = '"' then .skipThen (stringTail.map String.ofList) else mismatch .string
  write := writeString

/-! ### Values that may be missing -/

/-- Values that may be missing; `null` stands for none. -/
def Codec.optional {α : Type} (x : Codec α) : Codec (Option α) where
  reader := value fun c =>
    if c = 'n' then nullWord.map fun _ => none else x.reader.map some
  write
    | none => ['n', 'u', 'l', 'l']
    | some a => x.write a

/-! ### Lists -/

/-- Reads up to the next element of a list and then with `element`, or with `atClose` at the closing
bracket.  A comma stands before every element but the first. -/
def nextElement {α : Type} (first : Bool) (element atClose : Reader α) : Reader α :=
  .afterBlanks <| .peek (.ended .list) fun c =>
    if c = ']' then atClose
    else if first then element
    else if c = ',' then
      .skipThen <| value fun c => if c = ']' then .fault (.malformed .trailingComma) else element
    else .fault (.malformed .expectedCommaOrBracket)

open Reader (Progress)

/-- Reads an element of a list, or its closing bracket, after the elements `read`, the last one
first. -/
def elementStep {α : Type} (x : Reader α) (read : List α) :
    Reader (Progress (List α) (List α)) :=
  nextElement read.isEmpty (x.map fun a => .again (a :: read)) (.skipTo (.done read.reverse))

/-- Reads the elements of a list after its opening bracket. -/
def elements {α : Type} (x : Reader α) : Reader (List α) := .loop (elementStep x) []

def Codec.list {α : Type} (x : Codec α) : Codec (List α) where
  reader := value fun c => if c = '[' then .skipThen (elements x.reader) else mismatch .sequence
  write as := '[' :: [','].intercalate (as.map x.write) ++ [']']

/-! ### Choices -/

def colon : Reader Unit :=
  .afterBlanks <| .char (.ended .object) fun c =>
    if c = ':' then .ok () else .error (.malformed .expectedColon)

/-- Reads `null` and nothing else. -/
def nothing : Reader Unit := value fun c => if c = 'n' then nullWord else mismatch .nothing

/-- Reads the name of a choice after its opening quote. -/
def choiceTail {α : Type} (choices : List α) (label : α → String) : Reader α :=
  stringTail.andThen fun name =>
    match choices.find? fun a => (label a).toList = name with
    | some a => .done a
    | none => .fail (.misshapen (.unknownChoice name (choices.map label)))

/-- Reads the name of a choice where it is the key of an object. -/
def choiceKey {α : Type} (choices : List α) (label : α → String) : Reader α :=
  .afterBlanks <| .peek (.ended .object) fun c =>
    if c = '"' then .skipThen (choiceTail choices label)
    else .fault (.malformed (if c = '\x7d' then .expectedValue else .keyNotString))

/-- One of several choices, by name; the name may also be the key of an object whose only value is
`null`. -/
def Codec.choice {α : Type} (choices : List α) (label : α → String) : Codec α where
  reader := value fun c =>
    if c = '"' then .skipThen (choiceTail choices label)
    else if c = '\x7b' then .skipThen <|
      (choiceKey choices label).bind fun a => colon.bind fun _ => nothing.bind fun _ =>
        .afterBlanks <| .char (.ended .object) fun c =>
          if c = '\x7d' then .ok a else .error (.malformed .expectedValue)
    else .fault (.malformed .expectedValue)
  write a := writeString (label a)

end TabletopDice.Json
