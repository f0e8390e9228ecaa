import TabletopDice.Text.Numeral
import TabletopDice.Text.Quoted

/-!
# Json — what can be wrong with a text

Reading stops at the first fault from the left.  A text may end too early, it may break the rules of
JSON, or it may be JSON of another shape than the one asked for; these are the three constructors
of `Fault`.  A fault is kept as its cause, and `Fault.message` is how it is worded.
-/

namespace TabletopDice.Json

/-- What a text ended in the middle of. -/
inductive Unfinished where
  | value
  | list
  | object
  | string
deriving DecidableEq

/-- A broken rule of JSON. -/
inductive Malformed where
  /-- No value begins here. -/
  | expectedValue
  /-- A word that is none of `null`, `true` and `false`. -/
  | expectedWord
  | invalidNumber
  /-- A number beyond the floating-point numbers. -/
  | numberOutOfRange
  | expectedColon
  | expectedCommaOrBracket
  | expectedCommaOrBrace
  | keyNotString
  | trailingComma
  /-- Something after the end of a value that has to end there. -/
  | trailingCharacters
  | invalidEscape
  /-- The first half of an escaped pair without the second. -/
  | halfPair
  /-- An escape that is the second half of a pair, or a pair with a wrong second half. -/
  | looseHalf
  | controlCharacter
deriving DecidableEq

/-- The whole numbers that a place in a document takes. -/
inductive NumberRange where
  /-- Unsigned, 32 bits. -/
  | word32
  /-- Unsigned, 64 bits. -/
  | word64
  /-- Signed, 64 bits. -/
  | amount
deriving DecidableEq

/-- What a place in a document takes. -/
inductive Expected where
  | number (range : NumberRange)
  | string
  | sequence
  /-- Only `null`. -/
  | nothing
  | record (name : String)
deriving DecidableEq

/-- What stands in a place that takes something else. -/
inductive Found where
  | null
  | boolean (b : Bool)
  | integer (n : Int)
  /-- A number that is no integer, in its shortest form. -/
  | fraction (digits : List Char)
  | string (text : List Char)
  | sequence
  | map
deriving DecidableEq

/-- A way in which a document has another shape than the one asked for. -/
inductive Misshape where
  | wrongType (found : Found) (expected : Expected)
  | outOfRange (n : Int) (range : NumberRange)
  | unknownChoice (name : List Char) (choices : List String)
  | missing (label : String)
  | repeated (label : String)
  /-- A positional record of `size` elements that ends after `count`. -/
  | tooShort (count : Nat) (record : String) (size : Nat)
deriving DecidableEq

/-- Why a text cannot be read. -/
inductive Fault where
  /-- The text ends in the middle of something. -/
  | ended (inside : Unfinished)
  | malformed (rule : Malformed)
  /-- The text has another shape than the one asked for. -/
  | misshapen (shape : Misshape)
deriving DecidableEq

/-! ### Wordings -/

def Unfinished.label : Unfinished → String
  | .value => "a value"
  | .list => "a list"
  | .object => "an object"
  | .string => "a string"

def Malformed.message : Malformed → String
  | .expectedValue => "expected value"
  | .expectedWord => "expected ident"
  | .invalidNumber => "invalid number"
  | .numberOutOfRange => "number out of range"
  | .expectedColon => "expected `:`"
  | .expectedCommaOrBracket => "expected `,` or `]`"
  | .expectedCommaOrBrace => "expected `,` or `\x7d`"
  | .keyNotString => "key must be a string"
  | .trailingComma => "trailing comma"
  | .trailingCharacters => "trailing characters"
  | .invalidEscape => "invalid escape"
  | .halfPair => "unexpected end of hex escape"
  | .looseHalf => "lone leading surrogate in hex escape"
  | .controlCharacter =>
    "control character (\\u0000-\\u001F) found while parsing a string"

def NumberRange.low : NumberRange → Int
  | .word32 | .word64 => 0
  | .amount => -9223372036854775808

def NumberRange.high : NumberRange → Int
  | .word32 => 4294967295
  | .word64 => 18446744073709551615
  | .amount => 9223372036854775807

def NumberRange.label : NumberRange → String
  | .word32 => "u32"
  | .word64 => "u64"
  | .amount => "i64"

def Expected.label : Expected → String
  | .number range => range.label
  | .string => "a string"
  | .sequence => "a sequence"
  | .nothing => "unit"
  | .record name => "struct " ++ name

/-- `text` between back quotes. -/
def ticked (text : String) : String := "`" ++ text ++ "`"

def Found.label : Found → String
  | .null => "null"
  | .boolean b => "boolean " ++ ticked (if b then "true" else "false")
  | .integer n => "integer " ++ ticked (String.ofList (Text.integer n))
  | .fraction digits => "floating point " ++ ticked (String.ofList digits)
  | .string text => "string " ++ Text.quoted (String.ofList text)
  | .sequence => "sequence"
  | .map => "map"

/-- The list of choices: two with `or` between them, more after `one of`. -/
def choicesLabel (choices : List String) : String :=
  match choices with
  | [a, b] => ticked a ++ " or " ++ ticked b
  | _ => "one of " ++ ", ".intercalate (choices.map ticked)

def Misshape.message : Misshape → String
  | .wrongType found expected => "invalid type: " ++ found.label ++ ", expected " ++ expected.label
  | .outOfRange n range =>
    "invalid value: integer " ++ ticked (String.ofList (Text.integer n))
      ++ ", expected " ++ range.label
  | .unknownChoice name choices =>
    "unknown variant " ++ ticked (String.ofList name) ++ ", expected " ++ choicesLabel choices
  | .missing label => "missing field " ++ ticked label
  | .repeated label => "duplicate field " ++ ticked label
  | .tooShort count record size =>
    "invalid length " ++ String.ofList (Text.natural count) ++ ", expected struct " ++ record
      ++ " with " ++ String.ofList (Text.natural size) ++ " elements"

def Fault.message : Fault → String
  | .ended inside => "EOF while parsing " ++ inside.label
  | .malformed rule => rule.message
  | .misshapen shape => shape.message

end TabletopDice.Json
