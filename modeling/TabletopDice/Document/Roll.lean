import TabletopDice.Json.Record
import TabletopDice.Roll

/-!
# Documents — rolls

A roll is written in full and never read back: its expression says the same.  The kinds of modifiers
are choices by name.
-/

namespace TabletopDice.Document

open Json (Codec)

/-- A roll as a document. -/
def writeRoll (r : Roll) : List Char :=
  let member (label : String) (value : List Char) := Json.writeString label ++ ':' :: value
  '\x7b' :: [','].intercalate
    [member "rolls_count" (Codec.word32.write r.repeats.word),
      member "dice_count" (Codec.word32.write r.dice.word),
      member "sides" (Codec.word32.write r.sides.word),
      member "modifier_text" (Codec.text.write r.modifier.text),
      member "raw_text" ((Codec.optional .text).write r.excerpt)] ++ ['\x7d']

def kindName : Modifier.Kind → String
  | .add => "Add"
  | .subtract => "Subtract"
  | .multiply => "Multiply"
  | .divide => "Divide"
  | .lowMarker => "LowMarker"
  | .highMarker => "HighMarker"
  | .unrecognized => "Unrecognized"

/-- The documents of kinds of modifiers. -/
def kind : Codec Modifier.Kind :=
  .choice [.add, .subtract, .multiply, .divide, .lowMarker, .highMarker, .unrecognized] kindName

end TabletopDice.Document
