import TabletopDice.Proofs.Families
import TabletopDice.Proofs.Sources

/-!
# Sources — every face is a face of its die

A script moves what does not fit a die to its nearest face, so it is fair whatever is written in it
(`Script.fair`).  With a generator it is less plain: the face is the high word of a product, and one
more where a second product carries over.

Read the two words that a draw may take as one number below `2 ^ 64`, the first word leading.  What
is chosen among `n` faces is that number times `n`, without its lowest 64 bits (`choose_eq`), and so
it is below `n`.  The second word is left alone only where nothing can be carried, because the high
word of its product is below `n` as well.

**Every source is fair** (`sources_fair`), in every state, and so is every die that a session shows
(`Session.shown_of_fair`).
-/

namespace TabletopDice

open FaceSource

namespace Generator

/-! ### What is chosen among the faces -/

/-- The next two words as one number, the first one leading. -/
def peekWide (g : Generator) : Nat := (g.peek 0).toNat * UInt32.size + (g.peek 1).toNat

/-- The product of a two-word number, without its two lowest words. -/
theorem wide_mul_div (first second n : Nat) :
    (first * UInt32.size + second) * n / (UInt32.size * UInt32.size) =
      first * n / UInt32.size +
        (first * n % UInt32.size + second * n / UInt32.size) / UInt32.size := by
  have hpos : 0 < UInt32.size := by decide
  calc (first * UInt32.size + second) * n / (UInt32.size * UInt32.size)
    _ = (UInt32.size * (first * n) + second * n) / UInt32.size / UInt32.size := by
        rw [Nat.div_div_eq_div_mul, Nat.add_mul, Nat.mul_right_comm, Nat.mul_comm (first * n)]
    _ = (first * n + second * n / UInt32.size) / UInt32.size := by
        rw [Nat.mul_add_div hpos]
    _ = (UInt32.size * (first * n / UInt32.size) +
          (first * n % UInt32.size + second * n / UInt32.size)) / UInt32.size := by
        rw [← Nat.add_assoc, Nat.div_add_mod]
    _ = _ := Nat.mul_add_div hpos _ _

/-- **What is chosen.**  It is the product of the two-word number, without its two lowest words. -/
theorem choose_eq {n : Nat} (pos : 0 < n) (lt : n < UInt32.size) (first second : UInt32) :
    (choose n first second).1 =
      (first.toNat * UInt32.size + second.toNat) * n / (UInt32.size * UInt32.size) := by
  have hlow : first.toNat * n % UInt32.size < UInt32.size := Nat.mod_lt _ (by decide)
  have hsecond : second.toNat * n / UInt32.size < n :=
    Nat.div_lt_of_lt_mul (Nat.mul_lt_mul_of_pos_right second.toNat_lt pos)
  rw [wide_mul_div, choose]
  generalize first.toNat * n / UInt32.size = high
  generalize first.toNat * n % UInt32.size = low at *
  generalize second.toNat * n / UInt32.size = carried at *
  by_cases hask : UInt32.size - n < low
  · simp only [hask, if_true]
    by_cases hcarry : UInt32.size ≤ low + carried
    · have hone : (low + carried) / UInt32.size = 1 := Nat.div_eq_of_lt_le (by omega) (by omega)
      rw [if_pos hcarry, hone]
    · rw [if_neg hcarry, Nat.div_eq_of_lt (Nat.lt_of_not_le hcarry), Nat.add_zero]
  -- the first word decides, since nothing can be carried to it
  · have hfits : low + carried < UInt32.size := by omega
    simp only [hask, if_false, Nat.div_eq_of_lt hfits, Nat.add_zero]

/-- Neither word takes the choice past the last face. -/
theorem choose_lt {n : Nat} (pos : 0 < n) (lt : n < UInt32.size) (first second : UInt32) :
    (choose n first second).1 < n := by
  have hfirst := first.toNat_lt
  have hsecond := second.toNat_lt
  have hwide : first.toNat * UInt32.size + second.toNat < UInt32.size * UInt32.size := by
    simp only [UInt32.size]
    omega
  rw [choose_eq pos lt]
  exact Nat.div_lt_of_lt_mul (Nat.mul_lt_mul_of_pos_right hwide pos)

/-! ### Faces of a die -/

theorem faceCount_pos (sides : UInt32) : 0 < faceCount sides := by
  rw [faceCount]
  omega

theorem faceCount_lt (sides : UInt32) : faceCount sides < UInt32.size := by
  have hsides := sides.toNat_lt
  rw [faceCount]
  simp only [UInt32.size]
  omega

theorem toNat_max_one (sides : UInt32) : (max sides 1).toNat = faceCount sides := by
  rw [toNat_max_word, UInt32.toNat_one, faceCount]

/-- The face is the choice, counted from 1; there is a word for it, even on the largest die. -/
theorem toNat_draw (sides : UInt32) (g : Generator) : (g.draw sides).1.toNat =
    1 + g.peekWide * faceCount sides / (UInt32.size * UInt32.size) := by
  have hlt := choose_lt (faceCount_pos sides) (faceCount_lt sides) (g.peek 0) (g.peek 1)
  have hfits : (choose (faceCount sides) (g.peek 0) (g.peek 1)).1 + 1 < UInt32.size :=
    Nat.lt_of_le_of_lt hlt (faceCount_lt sides)
  show (UInt32.ofNat ((choose (faceCount sides) (g.peek 0) (g.peek 1)).1 + 1)).toNat = _
  rw [UInt32.toNat_ofNat_of_lt' hfits, Nat.add_comm,
    choose_eq (faceCount_pos sides) (faceCount_lt sides), peekWide]

theorem draw_mem (sides : UInt32) (g : Generator) :
    1 ≤ (g.draw sides).1 ∧ (g.draw sides).1 ≤ max sides 1 := by
  have hlt := choose_lt (faceCount_pos sides) (faceCount_lt sides) (g.peek 0) (g.peek 1)
  rw [choose_eq (faceCount_pos sides) (faceCount_lt sides), ← peekWide] at hlt
  rw [UInt32.le_iff_toNat_le, UInt32.le_iff_toNat_le, toNat_max_one, toNat_draw,
    UInt32.toNat_one]
  exact ⟨Nat.le_add_right 1 _, by rw [Nat.add_comm]; exact hlt⟩

/-- Whatever its key and its position are, a generator shows a face of the die. -/
theorem fair : Fair Generator := draw_mem

end Generator

/-! ### Whatever came before -/

section Runs

variable {σ : Type} [FaceSource σ]

/-- Every die on record shows one of its own faces. -/
def Recorder.IsFair (t : Recorder σ) : Prop := ∀ die ∈ t.dice, 1 ≤ die.2 ∧ die.2 ≤ max die.1 1

theorem Recorder.IsFair.draw (hfair : Fair σ) {t : Recorder σ} (h : t.IsFair) (sides : UInt32) :
    (FaceSource.draw sides t).2.IsFair := by
  intro die hdie
  rw [draw_recorder] at hdie
  rcases List.mem_append.mp hdie with hdie | hdie
  · exact h die hdie
  · obtain rfl := List.mem_singleton.mp hdie
    exact hfair sides t.source

/-- Every die that a run over a fair source shows, single or in an outcome, shows one of its own
faces. -/
theorem Session.shown_of_fair (hfair : Fair σ) (s : Session σ) (steps : List Step) :
    ∀ die ∈ s.shown steps, 1 ≤ die.2 ∧ die.2 ≤ max die.1 1 := by
  have hrecord : ((s.recording []).after steps).source.IsFair := by
    refine (reaches_after (s.recording []) steps).keeps (fun sides t h => h.draw hfair sides) ?_
    intro die hdie
    cases hdie
  rw [after_recording, List.nil_append] at hrecord
  exact hrecord

end Runs

open Generator in
/-- **Every source is fair.**  A script shows a face of the die whatever is written in it, and so
does a generator whatever its key and its position are.  In a family, which may have begun with one
seeded generator, every member that is there after any draws and forks shows a face when it is drawn
from: the next two words of its keystream, taken as a part of `2 ^ 64`, are this part of the die. -/
theorem sources_fair :
    Fair Script ∧ Fair Generator ∧
      ∀ (family : Family) (history : List Family.Step) (index : Nat) (g : Generator)
        (sides : UInt32), (family.run history).2[index]? = some g →
        ∃ face, ((family.run history).2.perform (.draw index sides)).1 = some (.face face) ∧
          face.toNat = 1 + g.peekWide * max sides.toNat 1 / 2 ^ 64 ∧
          1 ≤ face ∧ face ≤ max sides 1 := by
  refine ⟨Script.fair, Generator.fair, fun family history index g sides hg => ?_⟩
  have hmember : (family.run history).2[(Family.Step.draw index sides).index]? = some g := hg
  have hanswer := congrArg Prod.fst (Family.perform_of_member hmember)
  exact ⟨(g.draw sides).1, hanswer, toNat_draw sides g, Generator.fair sides g⟩

/-- The largest die, drawn from a generator that was forked twice from a seed. -/
theorem sources_fair_grandchild :
    let start : Generator.Family := [.ofSeed 42]
    let history : List Generator.Family.Step := [.fork 0, .fork 1, .draw 0 6]
    (start.run history).2[2]? = some (Generator.ofSeed 42).fork.1.fork.1 ∧
    ∃ face, ((start.run history).2.perform (.draw 2 4294967295)).1 = some (.face face) ∧
      1 ≤ face ∧ face ≤ 4294967295 := by
  intro start history
  have hmember : (start.run history).2[2]? = some (Generator.ofSeed 42).fork.1.fork.1 := rfl
  obtain ⟨-, -, hfamilies⟩ := sources_fair
  obtain ⟨face, hanswer, -, lo, hi⟩ := hfamilies start history 2 _ 4294967295 hmember
  exact ⟨hmember, face, hanswer, lo, hi⟩

end TabletopDice
