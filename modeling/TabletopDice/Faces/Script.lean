import TabletopDice.Faces.Source

/-!
# Faces — a fixed script

A `Script` replays a list of faces and starts again when it runs out.  A face that does not fit the
die is moved to the nearest one that does, so a script for twenty-sided dice serves smaller dice
too; an empty script always shows 1.
-/

namespace TabletopDice

/-- A list of faces to show, again and again, and how many were shown. -/
@[ext] structure Script where
  faces : List UInt32
  /-- The number of faces shown so far.  It has no end; a counter in a machine word is taken never to
  pass its greatest value. -/
  drawn : Nat
deriving DecidableEq

namespace Script

/-- A script at its beginning. -/
def ofFaces (faces : List UInt32) : Script := ⟨faces, 0⟩

/-- The face of a die nearest to `face`. -/
def fit (sides face : UInt32) : UInt32 := max 1 (min face (max sides 1))

/-- The face that die number `k` of a script shows, counting from 0. -/
def face (faces : List UInt32) (k : Nat) (sides : UInt32) : UInt32 :=
  fit sides (faces[k % faces.length]?.getD 1)

instance : FaceSource Script where
  draw sides s := (face s.faces s.drawn sides, { s with drawn := s.drawn + 1 })

end Script

end TabletopDice
