import TabletopDice.Faces.Source
import TabletopDice.Notice

/-!
# Rolls — performing them

`Roll.perform` draws all dice of a roll from a source, group after group, and then adds up: face by
face, and the modifier after each group, every addition in the saturating arithmetic of `Amount`
(`tally`).  A total that has stopped at one end of the range goes on from there.

What is drawn depends on the counts of the roll and on the source, never on what was drawn before.

The lists of an outcome are unbounded, so there is an outcome here for every roll.  A machine keeps
all faces in its memory; where they do not fit, it stops and returns none.
-/

namespace TabletopDice

open FaceSource

/-- Draws `groups` groups of `dice` dice. -/
def drawGroups {σ : Type} [FaceSource σ] (sides : UInt32) (dice : Nat) :
    Nat → σ → List (List UInt32) × σ
  | 0, s => ([], s)
  | n + 1, s =>
    let (faces, s) := drawMany sides dice s
    let (groups, s) := drawGroups sides dice n s
    (faces :: groups, s)

/-- The amount that a face counts. -/
def faceAmount (face : UInt32) : Amount := .clamp face.toNat

/-- `total` with the faces of a group added one by one, and then its modifier. -/
def tallyGroup (modifier total : Amount) (faces : List UInt32) : Amount :=
  faces.foldl (fun total face => total + faceAmount face) total + modifier

/-- The total of groups that each have the modifier added. -/
def tally (modifier : Amount) (groups : List (List UInt32)) : Amount :=
  groups.foldl (tallyGroup modifier) 0

namespace Roll

/-- The outcome of a roll when these are the groups drawn. -/
def outcome (r : Roll) (groups : List (List UInt32)) : Outcome where
  total := tally r.modifier.value groups
  excerpt := r.excerpt
  groups := groups.map fun faces => ⟨faces, r.modifier⟩
  totalRange := r.totalRange
  faceRange := r.faceRange

/-- Performs a roll: its outcome with the next faces of the source, and the source after them. -/
def perform {σ : Type} [FaceSource σ] (r : Roll) (s : σ) : Outcome × σ :=
  let (groups, s) := drawGroups r.sides.word r.dice.toNat r.repeats.toNat s
  (r.outcome groups, s)

/-- What there is to report of a modifier each time its amount is needed. -/
def modifierNotices (r : Roll) : List Notice :=
  if r.modifier.outOfRange then [.largeModifier r.modifier] else []

/-- What there is to report of a performed roll: the amount of the modifier is needed once for the
total and once for the range. -/
def notices (r : Roll) (o : Outcome) : List Notice :=
  r.modifierNotices ++ r.modifierNotices ++ [.rolled o]

end Roll

end TabletopDice
