import TabletopDice.Faces.Script
import TabletopDice.Performance

/-!
# Draws — the dice of a performance, and what a source shows

A performance draws its dice group after group, but its source only sees one request after the
other: laid end to end, the groups are what the source shows when it is asked for all dice at once,
and the source is left in the same state (`flatten_drawGroups`, `drawGroups_snd`).

`FaceSource.Shows P sides s` says that a source in state `s` answers every request for a die with
`sides` sides, now and later, with a face that has the property `P`.  Nothing is asked of the states
that `s` does not lead to, nor of other dice.  What a source shows holds of every face of every
group that it rolls (`Shows.forall_mem_drawGroups`); `FaceSource.FairFrom` is the case of a die that
shows one of its own faces.
-/

namespace TabletopDice

open FaceSource

/-! ### The larger and the smaller of two words -/

theorem toNat_max_word (a b : UInt32) : (max a b).toNat = max a.toNat b.toNat := by
  show (if a ≤ b then b else a).toNat = max a.toNat b.toNat
  split <;> rename_i h <;> rw [UInt32.le_iff_toNat_le] at h <;> omega

theorem toNat_min_word (a b : UInt32) : (min a b).toNat = min a.toNat b.toNat := by
  show (if a ≤ b then a else b).toNat = min a.toNat b.toNat
  split <;> rename_i h <;> rw [UInt32.le_iff_toNat_le] at h <;> omega

section Groups

variable {σ : Type} [FaceSource σ]

/-! ### Groups, laid end to end -/

@[simp] theorem drawGroups_zero (sides : UInt32) (dice : Nat) (s : σ) :
    drawGroups sides dice 0 s = ([], s) := rfl

theorem drawGroups_succ (sides : UInt32) (dice n : Nat) (s : σ) :
    drawGroups sides dice (n + 1) s =
      ((drawMany sides dice s).1 :: (drawGroups sides dice n (drawMany sides dice s).2).1,
        (drawGroups sides dice n (drawMany sides dice s).2).2) := rfl

/-- The groups hold the dice that the source shows at once, in the same order. -/
theorem flatten_drawGroups (sides : UInt32) (dice n : Nat) (s : σ) :
    (drawGroups sides dice n s).1.flatten = (drawMany sides (n * dice) s).1 := by
  induction n generalizing s with
  | zero => simp
  | succ n ih =>
      rw [drawGroups_succ, List.flatten_cons, ih, Nat.succ_mul, Nat.add_comm, drawMany_add]

theorem drawGroups_snd (sides : UInt32) (dice n : Nat) (s : σ) :
    (drawGroups sides dice n s).2 = (drawMany sides (n * dice) s).2 := by
  induction n generalizing s with
  | zero => simp
  | succ n ih => rw [drawGroups_succ, ih, Nat.succ_mul, Nat.add_comm, drawMany_add]

/-- Groups that are drawn in two stretches are those that are drawn at once. -/
theorem drawGroups_add (sides : UInt32) (dice m n : Nat) (s : σ) :
    drawGroups sides dice (m + n) s =
      ((drawGroups sides dice m s).1 ++ (drawGroups sides dice n (drawGroups sides dice m s).2).1,
        (drawGroups sides dice n (drawGroups sides dice m s).2).2) := by
  induction m generalizing s with
  | zero => simp
  | succ m ih => rw [Nat.add_right_comm]; simp [drawGroups_succ, ih]

@[simp] theorem length_drawGroups (sides : UInt32) (dice n : Nat) (s : σ) :
    (drawGroups sides dice n s).1.length = n := by
  induction n generalizing s with
  | zero => rfl
  | succ n ih => rw [drawGroups_succ, List.length_cons, ih]

/-- Every group has its full number of dice. -/
theorem length_of_mem_drawGroups {sides : UInt32} {dice n : Nat} {s : σ} {faces : List UInt32}
    (h : faces ∈ (drawGroups sides dice n s).1) : faces.length = dice := by
  induction n generalizing s with
  | zero => cases h
  | succ n ih =>
      rw [drawGroups_succ] at h
      rcases List.mem_cons.mp h with rfl | h
      · exact length_drawMany sides dice s
      · exact ih h

end Groups

/-! ### What a source shows -/

namespace FaceSource

variable {σ : Type} [FaceSource σ]

/-- From `s` on, every die with `sides` sides shows a face with the property `P`. -/
def Shows (P : UInt32 → Prop) (sides : UInt32) (s : σ) : Prop :=
  ∀ n, ∀ face ∈ (drawMany sides n s).1, P face

/-- From `s` on, every die with `sides` sides shows one of its own faces. -/
abbrev FairFrom (sides : UInt32) (s : σ) : Prop :=
  Shows (fun face => 1 ≤ face ∧ face ≤ sides) sides s

/-- A property of states that every draw keeps, and that gives every drawn face the property `P`. -/
theorem Shows.of_invariant {P : UInt32 → Prop} {sides : UInt32} (Inv : σ → Prop)
    (step : ∀ s, Inv s → P (draw sides s).1 ∧ Inv (draw sides s).2) {s : σ} (hs : Inv s) :
    Shows P sides s := by
  intro n
  induction n generalizing s with
  | zero => intro face h; cases h
  | succ n ih =>
      intro face h
      rw [drawMany_succ] at h
      rcases List.mem_cons.mp h with rfl | h
      · exact (step s hs).1
      · exact ih (step s hs).2 face h

theorem Shows.imp {P Q : UInt32 → Prop} {sides : UInt32} {s : σ} (hPQ : ∀ face, P face → Q face)
    (h : Shows P sides s) : Shows Q sides s :=
  fun n face hf => hPQ face (h n face hf)

/-- What a source shows it still shows after some of these dice. -/
theorem Shows.after_drawMany {P : UInt32 → Prop} {sides : UInt32} {s : σ} (h : Shows P sides s)
    (n : Nat) : Shows P sides (drawMany sides n s).2 := by
  intro m face hf
  refine h (n + m) face ?_
  rw [drawMany_add]
  exact List.mem_append_right _ hf

/-- What a source shows holds of every face of every group that it rolls. -/
theorem Shows.forall_mem_drawGroups {P : UInt32 → Prop} {sides : UInt32} {s : σ}
    (h : Shows P sides s) {dice n : Nat} {faces : List UInt32}
    (hf : faces ∈ (drawGroups sides dice n s).1) : ∀ face ∈ faces, P face := by
  intro face hface
  refine h (n * dice) face ?_
  rw [← flatten_drawGroups]
  exact List.mem_flatten.mpr ⟨faces, hf, hface⟩

/-- A fair source shows faces of the die, if the die has sides. -/
theorem Fair.fairFrom (h : Fair σ) {sides : UInt32} (hs : sides ≠ 0) (s : σ) :
    FairFrom sides s := by
  refine Shows.of_invariant (fun _ => True) (fun s _ => ⟨?_, trivial⟩) trivial
  have hmax : max sides 1 = sides := by
    have hpos : 0 < sides.toNat := Nat.pos_of_ne_zero fun h0 => hs (UInt32.toNat_inj.mp h0)
    rw [← UInt32.toNat_inj, toNat_max_word, UInt32.toNat_one]
    omega
  have hface := h sides s
  rwa [hmax] at hface

end FaceSource

/-! ### What a script shows -/

namespace Script

/-- Whatever is written in a script, the face that it shows is a face of the die. -/
theorem fit_mem (sides face : UInt32) : 1 ≤ fit sides face ∧ fit sides face ≤ max sides 1 := by
  simp only [fit, UInt32.le_iff_toNat_le, toNat_max_word, toNat_min_word, UInt32.toNat_one]
  omega

theorem fit_eq_self {sides face : UInt32} (lo : 1 ≤ face) (hi : face ≤ sides) :
    fit sides face = face := by
  rw [UInt32.le_iff_toNat_le, UInt32.toNat_one] at lo
  rw [UInt32.le_iff_toNat_le] at hi
  rw [← UInt32.toNat_inj]
  simp only [fit, toNat_max_word, toNat_min_word, UInt32.toNat_one]
  omega

theorem fair : FaceSource.Fair Script := fun sides _ => fit_mem sides _

/-- A script of one face shows that face, on every die that has it. -/
theorem shows_constant {sides face : UInt32} (lo : 1 ≤ face) (hi : face ≤ sides) :
    FaceSource.Shows (· = face) sides (ofFaces [face]) := by
  refine FaceSource.Shows.of_invariant (fun s : Script => s.faces = [face])
    (fun s hs => ⟨?_, hs⟩) rfl
  show Script.face s.faces s.drawn sides = face
  rw [Script.face, hs, List.length_singleton, Nat.mod_one]
  exact fit_eq_self lo hi

end Script

end TabletopDice
