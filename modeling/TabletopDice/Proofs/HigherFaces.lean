import Mathlib.Data.List.Forall2
import TabletopDice.Proofs.TotalRange

/-!
# Totals — higher faces, higher totals

Two sources roll the same dice, and each face of the one is at most the face of the other in the
same place.  Then the total of the one is at most the total of the other, although both may stop at
either end of the range of amounts, each after another die.

A sum of amounts that stops is still no higher than a sum of higher amounts, so each addition keeps
the order of the two totals: over the faces of a group, over its modifier (`tallyGroup_mono`), and
from group to group (`tally_mono`).

**Higher faces, higher totals** (`total_mono`).  In particular the sources that always show 1 and
always show the highest face have the lowest and the highest total of all that show faces of the
die.
-/

namespace TabletopDice

open FaceSource

theorem Amount.le_refl (a : Amount) : a ≤ a := Int.le_refl a.toInt

/-- Of two numbers that stop, the smaller one is still at most the other. -/
theorem Amount.clamp_le_clamp {m n : Int} (h : m ≤ n) : clamp m ≤ clamp n := by
  rw [le_iff, toInt_clamp, toInt_clamp]
  simp only [least, greatest]
  omega

theorem Amount.add_le_add {a b c d : Amount} (hab : a ≤ b) (hcd : c ≤ d) : a + c ≤ b + d :=
  clamp_le_clamp (Int.add_le_add hab hcd)

theorem faceAmount_mono {face face' : UInt32} (h : face ≤ face') :
    faceAmount face ≤ faceAmount face' := by
  rw [Amount.le_iff, toInt_faceAmount, toInt_faceAmount]
  exact Int.ofNat_le.mpr (UInt32.le_iff_toNat_le.mp h)

/-! ### Tallies -/

/-- Faces keep the order of two totals, if none of the one list is higher. -/
theorem foldl_faceAmount_mono {total total' : Amount} {faces faces' : List UInt32}
    (htotal : total ≤ total') (hfaces : List.Forall₂ (· ≤ ·) faces faces') :
    faces.foldl (fun total face => total + faceAmount face) total ≤
      faces'.foldl (fun total face => total + faceAmount face) total' := by
  induction hfaces generalizing total total' with
  | nil => exact htotal
  | cons hface _ ih => exact ih (Amount.add_le_add htotal (faceAmount_mono hface))

/-- **One group.**  The faces and the modifier of a group keep the order of two totals. -/
theorem tallyGroup_mono {modifier total total' : Amount} {faces faces' : List UInt32}
    (htotal : total ≤ total') (hfaces : List.Forall₂ (· ≤ ·) faces faces') :
    tallyGroup modifier total faces ≤ tallyGroup modifier total' faces' :=
  Amount.add_le_add (foldl_faceAmount_mono htotal hfaces) (Amount.le_refl modifier)

theorem foldl_tallyGroup_mono {modifier total total' : Amount} {groups groups' : List (List UInt32)}
    (htotal : total ≤ total') (h : List.Forall₂ (List.Forall₂ (· ≤ ·)) groups groups') :
    groups.foldl (tallyGroup modifier) total ≤ groups'.foldl (tallyGroup modifier) total' := by
  induction h generalizing total total' with
  | nil => exact htotal
  | cons hfaces _ ih => exact ih (tallyGroup_mono htotal hfaces)

/-- **All groups.**  No tally is higher than one of higher faces. -/
theorem tally_mono {modifier : Amount} {groups groups' : List (List UInt32)}
    (h : List.Forall₂ (List.Forall₂ (· ≤ ·)) groups groups') :
    tally modifier groups ≤ tally modifier groups' :=
  foldl_tallyGroup_mono (Amount.le_refl 0) h

/-! ### Two sources -/

namespace FaceSource

variable {σ τ : Type} [FaceSource σ] [FaceSource τ]

/-- The next `n` dice with `sides` sides show from `s`, one by one, at most what they show from
`t`. -/
def ShowsAtMost (sides : UInt32) (n : Nat) (s : σ) (t : τ) : Prop :=
  List.Forall₂ (· ≤ ·) (drawMany sides n s).1 (drawMany sides n t).1

instance (sides : UInt32) (n : Nat) (s : σ) (t : τ) : Decidable (ShowsAtMost sides n s t) :=
  inferInstanceAs (Decidable (List.Forall₂ _ _ _))

/-- What two sources show, die by die, is ordered if no face with the one property is higher than
one with the other. -/
theorem ShowsAtMost.of_shows {P Q : UInt32 → Prop} {sides : UInt32} {s : σ} {t : τ}
    (hs : Shows P sides s) (ht : Shows Q sides t)
    (hPQ : ∀ face face', P face → Q face' → face ≤ face') (n : Nat) : ShowsAtMost sides n s t := by
  refine List.forall₂_iff_zip.mpr ⟨?_, fun hmem => ?_⟩
  · rw [length_drawMany, length_drawMany]
  · obtain ⟨hface, hface'⟩ := List.of_mem_zip hmem
    exact hPQ _ _ (hs n _ hface) (ht n _ hface')

/-- Dice that are ordered one by one are ordered group by group. -/
theorem ShowsAtMost.drawGroups {sides : UInt32} {dice n : Nat} {s : σ} {t : τ}
    (h : ShowsAtMost sides (n * dice) s t) :
    List.Forall₂ (List.Forall₂ (· ≤ ·)) (drawGroups sides dice n s).1
      (drawGroups sides dice n t).1 := by
  induction n generalizing s t with
  | zero => exact .nil
  | succ n ih =>
      rw [ShowsAtMost, Nat.succ_mul, Nat.add_comm, drawMany_add, drawMany_add] at h
      -- the first group, and the dice after it
      have hfirst := List.forall₂_take dice h
      have hlater := List.forall₂_drop dice h
      rw [List.take_left' (length_drawMany ..), List.take_left' (length_drawMany ..)] at hfirst
      rw [List.drop_left' (length_drawMany ..), List.drop_left' (length_drawMany ..)] at hlater
      rw [drawGroups_succ, drawGroups_succ]
      exact .cons hfirst (ih hlater)

end FaceSource

namespace Roll

variable {σ τ : Type} [FaceSource σ] [FaceSource τ]

theorem total_le_total {r : Roll} {s : σ} {t : τ}
    (h : ShowsAtMost r.sides.word (r.repeats.toNat * r.dice.toNat) s t) :
    (r.perform s).1.total ≤ (r.perform t).1.total := by
  rw [total_perform, total_perform]
  exact tally_mono h.drawGroups

/-- **Higher faces, higher totals.**  If the dice of a roll show from one state, one by one, at most
what they show from another, then the total is at most the other total.  From a state that shows
faces of the die the total lies between the totals of two scripts, one of the face 1 and one of the
highest face. -/
theorem total_mono (r : Roll) (s : σ) :
    (∀ t : τ, ShowsAtMost r.sides.word (r.repeats.toNat * r.dice.toNat) s t →
      (r.perform s).1.total ≤ (r.perform t).1.total) ∧
    (FairFrom r.sides.word s →
      (r.perform (Script.ofFaces [1])).1.total ≤ (r.perform s).1.total ∧
      (r.perform s).1.total ≤ (r.perform (Script.ofFaces [r.sides.word])).1.total) := by
  refine ⟨fun t h => total_le_total h, fun hfair => ?_⟩
  have hsides : 1 ≤ r.sides.word := by
    obtain ⟨hlo, hhi⟩ := hfair 1 _ (List.mem_singleton_self _)
    exact UInt32.le_trans hlo hhi
  have hlow : Shows (· = 1) r.sides.word (Script.ofFaces [1]) :=
    Script.shows_constant (UInt32.le_refl 1) hsides
  have hhigh : Shows (· = r.sides.word) r.sides.word (Script.ofFaces [r.sides.word]) :=
    Script.shows_constant hsides (UInt32.le_refl _)
  refine ⟨total_le_total (.of_shows hlow hfair ?_ _), total_le_total (.of_shows hfair hhigh ?_ _)⟩
  · rintro _ face' rfl hface'
    exact hface'.1
  · rintro face _ hface rfl
    exact hface.2

/-- The totals of both scripts stop at the low end after two of three groups. -/
theorem total_mono_deepRoll :
    ShowsAtMost deepRoll.sides.word (deepRoll.repeats.toNat * deepRoll.dice.toNat)
      (Script.ofFaces [2, 1, 1]) (Script.ofFaces [2, 6, 1]) ∧
    (deepRoll.perform (Script.ofFaces [2, 1, 1])).1.total ≤
      (deepRoll.perform (Script.ofFaces [2, 6, 1])).1.total ∧
    FairFrom deepRoll.sides.word (Script.ofFaces [2, 1, 1]) ∧
    (deepRoll.perform (Script.ofFaces [1])).1.total ≤
      (deepRoll.perform (Script.ofFaces [2, 1, 1])).1.total ∧
    (deepRoll.perform (Script.ofFaces [2, 1, 1])).1.total ≤
      (deepRoll.perform (Script.ofFaces [deepRoll.sides.word])).1.total := by
  have hfair := Script.fair.fairFrom deepRoll.sides.ne_zero (Script.ofFaces [2, 1, 1])
  have hatMost : ShowsAtMost deepRoll.sides.word (deepRoll.repeats.toNat * deepRoll.dice.toNat)
      (Script.ofFaces [2, 1, 1]) (Script.ofFaces [2, 6, 1]) := by
    decide
  obtain ⟨hmono, hbetween⟩ :=
    total_mono (τ := Script) deepRoll (Script.ofFaces [2, 1, 1])
  exact ⟨hatMost, hmono _ hatMost, hfair, hbetween hfair⟩

end Roll

end TabletopDice
