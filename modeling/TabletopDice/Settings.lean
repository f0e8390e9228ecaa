import TabletopDice.Interpretation

/-!
# Sessions — their settings

Settings are fixed before a session begins: its policy for texts without an expression, and the
seed of its faces.
-/

namespace TabletopDice

/-- How a session treats texts, and where its faces come from. -/
@[ext] structure Settings where
  /-- What to do with a text that holds no expression. -/
  policy : Policy
  /-- The seed of the faces; without one they are unpredictable. -/
  seed : Option UInt64
deriving DecidableEq

/-- Lenient, and without a seed. -/
def Settings.standard : Settings := ⟨.lenient, none⟩

/-- Strict, and without a seed. -/
def Settings.strict : Settings := ⟨.strict, none⟩

end TabletopDice
