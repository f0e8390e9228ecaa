/-!
# Faces — sources of faces

A `FaceSource` answers every request for one die with a face and its own next state.  Nothing else
is asked of it: that faces lie between 1 and the number of sides is the separate predicate
`FaceSource.Fair`, where a die without sides counts as one-sided.

`FaceSource.drawMany` draws several dice of one kind in turn.  What one draws in two stretches is
what one draws at once (`drawMany_add`).
-/

namespace TabletopDice

/-- States that answer requests for dice: for a number of sides, a face and the next state. -/
class FaceSource (σ : Type) where
  draw : (sides : UInt32) → σ → UInt32 × σ

namespace FaceSource

variable {σ : Type} [FaceSource σ]

/-- Every state answers with a face between 1 and the number of sides, or 1 where there are none. -/
def Fair (σ : Type) [FaceSource σ] : Prop :=
  ∀ (sides : UInt32) (s : σ), 1 ≤ (draw sides s).1 ∧ (draw sides s).1 ≤ max sides 1

/-- Draws `n` dice with the same number of sides. -/
def drawMany (sides : UInt32) : Nat → σ → List UInt32 × σ
  | 0, s => ([], s)
  | n + 1, s =>
    let (face, s) := draw sides s
    let (faces, s) := drawMany sides n s
    (face :: faces, s)

@[simp] theorem drawMany_zero (sides : UInt32) (s : σ) : drawMany sides 0 s = ([], s) := rfl

theorem drawMany_succ (sides : UInt32) (n : Nat) (s : σ) :
    drawMany sides (n + 1) s =
      ((draw sides s).1 :: (drawMany sides n (draw sides s).2).1,
        (drawMany sides n (draw sides s).2).2) := rfl

@[simp] theorem length_drawMany (sides : UInt32) (n : Nat) (s : σ) :
    (drawMany sides n s).1.length = n := by
  induction n generalizing s with
  | zero => rfl
  | succ n ih => simp [drawMany_succ, ih]

theorem drawMany_add (sides : UInt32) (m n : Nat) (s : σ) :
    drawMany sides (m + n) s =
      ((drawMany sides m s).1 ++ (drawMany sides n (drawMany sides m s).2).1,
        (drawMany sides n (drawMany sides m s).2).2) := by
  induction m generalizing s with
  | zero => simp
  | succ m ih => rw [Nat.add_right_comm]; simp [drawMany_succ, ih]

end FaceSource

end TabletopDice
