import TabletopDice.Outcome
import TabletopDice.Text.Quoted

/-!
# Notices — what happened while a roll was read and performed

Reading and performing a roll leave notices: what was read, what was rolled, and every number that
was written but could not be used, with the default that took its place.  A notice is kept as its
cause; `Notice.level` and `Notice.message` are how it is shown.
-/

namespace TabletopDice

/-- How much attention a notice asks for. -/
inductive Level where
  /-- For following what happens. -/
  | detail
  /-- For something written that was not used. -/
  | warning
deriving DecidableEq

/-- Something to report. -/
inductive Notice where
  /-- A part of a roll was written as zero. -/
  | zeroCount (part : Roll.Part)
  /-- The digits of a part of a roll denote too large a number. -/
  | largeCount (part : Roll.Part) (digits : List Char)
  /-- The number of a modifier is out of range. -/
  | largeModifier (modifier : Modifier)
  /-- A roll was read from an excerpt. -/
  | found (excerpt : String) (roll : Roll)
  /-- A text held no expression. -/
  | missing (text : String)
  /-- A roll was performed. -/
  | rolled (outcome : Outcome)
deriving DecidableEq

namespace Notice

/-- The level of a notice: substitutions are warnings. -/
def level : Notice → Level
  | .zeroCount _ | .largeCount _ _ | .largeModifier _ => .warning
  | .found _ _ | .missing _ | .rolled _ => .detail

/-- A default as it is written in messages. -/
def fallbackText (part : Roll.Part) : String :=
  String.ofList (Text.natural part.fallback.toNat)

def message : Notice → String
  | .zeroCount part => part.label ++ " of zero is not allowed, using " ++ fallbackText part
  | .largeCount part digits =>
    part.label ++ " " ++ Text.quoted (String.ofList digits)
      ++ " is not usable (number too large to fit in target type), using " ++ fallbackText part
  | .largeModifier m =>
    "Modifier " ++ Text.quoted m.text ++ " is out of range, treating it as +0"
  | .found excerpt roll => "Parsed " ++ Text.quoted excerpt ++ " as " ++ roll.written
  | .missing text => "No dice notation in " ++ Text.quoted text ++ ", using defaults"
  | .rolled outcome => outcome.written

end Notice

end TabletopDice
