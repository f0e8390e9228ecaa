import TabletopDice.Json.Codec

/-!
# Json — passing over a value

A value that nobody asked for is passed over: it has to be JSON, but its numbers may be of any size,
halves of escaped pairs may stand alone in its strings, and it may be nested to any depth.

Instead of a recursion the brackets that are open are kept in a list, the innermost first, and one
step goes from one of four places (`Skip.Place`) to the next.
-/

namespace TabletopDice.Json.Skip

inductive Bracket where
  | list
  | object
deriving DecidableEq

/-- The closing character of a bracket. -/
def Bracket.close : Bracket → Char
  | .list => ']'
  | .object => '\x7d'

/-- The fault of a text that ends inside a bracket. -/
def Bracket.ended : Bracket → Fault
  | .list => .ended .list
  | .object => .ended .object

/-- The fault of a value that neither a comma nor the closing character follows. -/
def Bracket.unclosed : Bracket → Fault
  | .list => .malformed .expectedCommaOrBracket
  | .object => .malformed .expectedCommaOrBrace

/-- A place in a value, with the brackets that are open there. -/
inductive Place where
  /-- Where a value begins. -/
  | value (opened : List Bracket)
  /-- After an opening bracket. -/
  | opening (bracket : Bracket) (outer : List Bracket)
  /-- Where the key of a member begins. -/
  | key (outer : List Bracket)
  /-- After a value inside a bracket. -/
  | after (bracket : Bracket) (outer : List Bracket)
deriving DecidableEq

open Reader (Progress)

/-- How it goes on after a whole value. -/
def afterValue : List Bracket → Progress Place Unit
  | [] => .done ()
  | bracket :: outer => .again (.after bracket outer)

/-- Passes over a value that is no list and no object, or over an opening bracket. -/
def valueStep (opened : List Bracket) : Reader (Progress Place Unit) :=
  Json.value fun c =>
    if c = 'n' then nullWord.map fun _ => afterValue opened
    else if c = 't' then trueWord.map fun _ => afterValue opened
    else if c = 'f' then falseWord.map fun _ => afterValue opened
    else if beginsNumber c then numberSkipped.map fun _ => afterValue opened
    else if c = '"' then .skipThen (stringTailSkipped.map fun _ => afterValue opened)
    else if c = '[' then .skipTo (.again (.opening .list opened))
    else if c = '\x7b' then .skipTo (.again (.opening .object opened))
    else .fault (.malformed .expectedValue)

/-- Passes over a key and its colon. -/
def keyStep (outer : List Bracket) : Reader (Progress Place Unit) :=
  .afterBlanks <| .peek (.ended .object) fun c =>
    if c = '"' then
      .skipThen <| stringTailSkipped.bind fun _ =>
        colon.map fun _ => .again (.value (.object :: outer))
    else .fault (.malformed .keyNotString)

/-- Where the next item of a bracket begins. -/
def item (bracket : Bracket) (outer : List Bracket) : Place :=
  match bracket with
  | .list => .value (.list :: outer)
  | .object => .key outer

/-- Passes over the next part of a value. -/
def step : Place → Reader (Progress Place Unit)
  | .value opened => valueStep opened
  | .key outer => keyStep outer
  | .opening bracket outer =>
    .afterBlanks <| .peek bracket.ended fun c =>
      if c = bracket.close then .skipTo (afterValue outer)
      else match bracket with
        | .list => valueStep (.list :: outer)
        | .object => keyStep outer
  | .after bracket outer =>
    .afterBlanks <| .char bracket.ended fun c =>
      if c = ',' then .ok (.again (item bracket outer))
      else if c = bracket.close then .ok (afterValue outer)
      else .error bracket.unclosed

end TabletopDice.Json.Skip

namespace TabletopDice.Json

def skipped : Reader Unit := .loop Skip.step (.value [])

end TabletopDice.Json
