import TabletopDice.Json.Reader

/-!
# Json — strings

Between its quotes a string stands for its characters.  In writing, quotes, backslashes and
control characters are escaped (`escapedChar`) and nothing else is.  In reading, every escape of
JSON is accepted (`stringTail`): a code point beyond U+FFFF is escaped as a pair of halves, and a
half without the other one is refused.  `stringTailSkipped` passes over a string without putting
halves together.
-/

namespace TabletopDice.Json

/-! ### Writing -/

/-- One character as it is written between quotes. -/
def escapedChar (c : Char) : List Char :=
  if c = '"' ∨ c = '\\' then ['\\', c]
  else if c = '\x08' then ['\\', 'b']
  else if c = '\x0c' then ['\\', 'f']
  else if c = '\n' then ['\\', 'n']
  else if c = '\r' then ['\\', 'r']
  else if c = '\t' then ['\\', 't']
  else if c.toNat < 0x20 then
    ['\\', 'u', '0', '0', Nat.digitChar (c.toNat / 16), Nat.digitChar (c.toNat % 16)]
  else [c]

/-- A string as it is written. -/
def writeString (text : String) : List Char :=
  '"' :: text.toList.flatMap escapedChar ++ ['"']

/-! ### Escapes -/

def hexDigit? (c : Char) : Option Nat :=
  if '0' ≤ c ∧ c ≤ '9' then some (c.toNat - '0'.toNat)
  else if 'a' ≤ c ∧ c ≤ 'f' then some (c.toNat - 'a'.toNat + 10)
  else if 'A' ≤ c ∧ c ≤ 'F' then some (c.toNat - 'A'.toNat + 10)
  else none

def hexValue? (a b c d : Char) : Option Nat := do
  return (((← hexDigit? a) * 16 + (← hexDigit? b)) * 16 + (← hexDigit? c)) * 16 + (← hexDigit? d)

/-- The length of a text in UTF-8. -/
def byteCount (s : List Char) : Nat := s.foldr (fun c bytes => c.utf8Size + bytes) 0

/-- Reads the four hexadecimal digits of an escape.  They take four bytes: a text that is shorter
ends in the middle of the string, whatever it holds. -/
def hexEscape : Reader Nat where
  run
    | a :: b :: c :: d :: r =>
      match hexValue? a b c d with
      | some n => .ok (n, r)
      | none => .error (.malformed .invalidEscape)
    | s => .error (if byteCount s < 4 then .ended .string else .malformed .invalidEscape)
  shortens {s n r} h := by
    split at h
    · split at h
      · cases h; simp only [List.length_cons]; omega
      · cases h
    · cases h

/-- The character of an escape of one letter. -/
def escapedLetter? (c : Char) : Option Char :=
  if c = '"' ∨ c = '\\' ∨ c = '/' then some c
  else if c = 'b' then some '\x08'
  else if c = 'f' then some '\x0c'
  else if c = 'n' then some '\n'
  else if c = 'r' then some '\r'
  else if c = 't' then some '\t'
  else none

/-- The fault of a text that ends inside a string. -/
def endedInString : Fault := .ended .string

/-- Reads the second half of a pair whose first half was `high`. -/
def pairTail (high : Nat) : Reader Char :=
  (Reader.word endedInString (.malformed .halfPair) '\\' ['u']).bind fun _ =>
    hexEscape.andThen fun low =>
      if 0xDC00 ≤ low ∧ low < 0xE000 then
        .done (Char.ofNat (0x10000 + (high - 0xD800) * 0x400 + (low - 0xDC00)))
      else .fail (.malformed .looseHalf)

/-- Reads an escape after its backslash. -/
def escape : Reader Char :=
  .peek endedInString fun c =>
    if c = 'u' then
      .skipThen <| hexEscape.andThen fun n =>
        if 0xDC00 ≤ n ∧ n < 0xE000 then .fail (.malformed .looseHalf)
        else if 0xD800 ≤ n ∧ n < 0xDC00 then .more (pairTail n)
        else .done (Char.ofNat n)
    else .char endedInString fun c =>
      match escapedLetter? c with
      | some d => .ok d
      | none => .error (.malformed .invalidEscape)

/-- Passes over an escape after its backslash, without putting halves together. -/
def escapeSkipped : Reader Unit :=
  .peek endedInString fun c =>
    if c = 'u' then .skipThen (hexEscape.map fun _ => ())
    else .char endedInString fun c =>
      if (escapedLetter? c).isSome then .ok () else .error (.malformed .invalidEscape)

/-! ### Reading -/

open Reader (Progress)

/-- Reads a character of a string, or its closing quote, after the characters `read`, the last one
first. -/
def stringStep (read : List Char) : Reader (Progress (List Char) (List Char)) :=
  .peek endedInString fun c =>
    if c = '"' then .skipTo (.done read.reverse)
    else if c = '\\' then .skipThen (escape.map fun d => .again (d :: read))
    else if c.toNat < 0x20 then .fault (.malformed .controlCharacter)
    else .skipTo (.again (c :: read))

/-- Reads the rest of a string after its opening quote. -/
def stringTail : Reader (List Char) := .loop stringStep []

/-- Passes over a character of a string, or its closing quote. -/
def stringStepSkipped : Reader (Progress Unit Unit) :=
  .peek endedInString fun c =>
    if c = '"' then .skipTo (.done ())
    else if c = '\\' then .skipThen (escapeSkipped.map fun _ => .again ())
    else if c.toNat < 0x20 then .fault (.malformed .controlCharacter)
    else .skipTo (.again ())

/-- Passes over the rest of a string after its opening quote. -/
def stringTailSkipped : Reader Unit := .loop (fun _ => stringStepSkipped) ()

end TabletopDice.Json
