import TabletopDice.Faces.Keystream
import TabletopDice.Faces.Source

/-!
# Faces — generators

A `Generator` is a position in a keystream.  Drawing a face takes one word, and seldom a second
one where the first does not decide between two faces; forking takes the next eight words as the
key of a new generator.

A `Family` is a growing list of generators, numbered from 0, whose members are drawn from and forked
in any order (`Family.Step`).
-/

namespace TabletopDice

open Keystream (Key)

/-- A position in a keystream. -/
@[ext] structure Generator where
  key : Key
  /-- The number of words taken so far. -/
  position : Nat
deriving DecidableEq

namespace Generator

/-- The generator at the beginning of a keystream. -/
def ofKey (key : Key) : Generator := ⟨key, 0⟩

def ofSeed (seed : UInt64) : Generator := ofKey (.ofSeed seed)

/-- The generator `n` words further on. -/
def advance (g : Generator) (n : Nat) : Generator := { g with position := g.position + n }

/-- The word `n` places after the position. -/
def peek (g : Generator) (n : Nat) : UInt32 := g.key.word (g.position + n)

/-- The number of faces of a die; a die has at least one. -/
def faceCount (sides : UInt32) : Nat := max sides.toNat 1

/-- The face that the words `first` and `second` give among `n`, counting from 0, and how many of
the two words decide it.  The face is the high word of `first * n`.  Where the low word is so
large that a continuation of `first` could carry into the high word, the continuation `second`
says whether it does. -/
def choose (n : Nat) (first second : UInt32) : Nat × Nat :=
  let high := first.toNat * n / UInt32.size
  let low := first.toNat * n % UInt32.size
  if UInt32.size - n < low then
    (if UInt32.size ≤ low + second.toNat * n / UInt32.size then high + 1 else high, 2)
  else (high, 1)

def draw (sides : UInt32) (g : Generator) : UInt32 × Generator :=
  let (face, used) := choose (faceCount sides) (g.peek 0) (g.peek 1)
  (UInt32.ofNat (face + 1), g.advance used)

instance : FaceSource Generator := ⟨draw⟩

/-- Splits off a generator whose key is the next eight words, and moves past them. -/
def fork (g : Generator) : Generator × Generator :=
  (ofKey (Vector.ofFn fun i : Fin 8 => g.peek i), g.advance 8)

/-! ### Families -/

/-- Generators, numbered from 0 in the order in which they came to be. -/
abbrev Family := List Generator

/-- What can be done with a family. -/
inductive Family.Step where
  | draw (index : Nat) (sides : UInt32)
  /-- Fork member `index` into a new last member. -/
  | fork (index : Nat)
deriving DecidableEq

/-- What a step answers. -/
inductive Family.Answer where
  | face (face : UInt32)
  | member (index : Nat)
deriving DecidableEq

/-- Performs one step; there is no answer where there is no such member. -/
def Family.perform (step : Step) (family : Family) : Option Answer × Family :=
  match step with
  | .draw index sides =>
    match family[index]? with
    | some g => let (face, g) := g.draw sides; (some (.face face), family.set index g)
    | none => (none, family)
  | .fork index =>
    match family[index]? with
    | some g =>
      let (child, g) := g.fork
      (some (.member family.length), family.set index g ++ [child])
    | none => (none, family)

def Family.run (family : Family) : List Step → List (Option Answer) × Family
  | [] => ([], family)
  | step :: steps =>
    let (answer, family) := family.perform step
    let (answers, family) := run family steps
    (answer :: answers, family)

end Generator

end TabletopDice
