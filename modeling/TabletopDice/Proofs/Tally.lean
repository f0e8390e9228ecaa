import Mathlib.Algebra.Ring.Nat
import Mathlib.Data.List.Induction
import TabletopDice.Performance

/-!
# Tallies — a sum that stops at the ends of its range

`tally` adds faces and modifiers one by one, and each addition stops at an end of the range of
amounts.  A total that has stopped goes on from there, so a tally need not be the amount nearest to
the exact sum.

One group is one step.  Faces are not negative: while they are added the total stops at the high
end or nowhere, and then the modifier moves it once (`toInt_tallyGroup`).  A tally is this step for
one group after the other (`tally_induction`), and what it ends at is compared with three numbers.

* `tally_le`: with at most `cap` in a group, a tally is at most the groups times the amount of one.
* `le_tally`: with at least `floor` in a group, a tally is at least the groups times the amount of
  one, unless the modifier is negative and their exact product lies above `greatest + modifier`.
  No tally with a negative modifier ends above that (`tally_le_of_neg`).
* `tally_eq_clamp`: if the groups times `cap` stay in the range, a tally is the amount nearest to
  the exact sum, however large the modifier is.
-/

namespace TabletopDice

namespace Amount

@[simp] theorem clamp_zero : clamp 0 = 0 := rfl

theorem clamp_add {n : Int} (lo : least ≤ n) (hi : n ≤ greatest) (a : Amount) :
    clamp n + a = clamp (n + a.toInt) := by
  show clamp ((clamp n).toInt + a.toInt) = clamp (n + a.toInt)
  rw [toInt_clamp_of_mem lo hi]

theorem clamp_of_le_least {n : Int} (h : n ≤ least) : clamp n = clamp least := by
  have hmin : min n greatest = n := Int.min_eq_left (Int.le_trans h (by decide))
  rw [Amount.ext_iff, toInt_clamp, hmin, Int.max_eq_left h]
  rfl

theorem clamp_of_greatest_le {n : Int} (h : greatest ≤ n) : clamp n = clamp greatest := by
  rw [Amount.ext_iff, toInt_clamp, Int.min_eq_right h]
  rfl

/-- A positive multiple of the amount nearest to `n` stops where the multiple of `n` stops. -/
theorem clamp_mul_clamp {k : Int} (hk : 1 ≤ k) (n : Int) :
    clamp (k * (clamp n).toInt) = clamp (k * n) := by
  have hk0 : 0 ≤ k := Int.le_trans (by decide) hk
  -- beyond an end of the range, multiples only go further out
  have hneg : k * least ≤ least := by
    simpa using Int.mul_le_mul_of_nonpos_right hk (show least ≤ 0 by decide)
  have hpos : greatest ≤ k * greatest := by
    simpa using Int.mul_le_mul_of_nonneg_right hk (show 0 ≤ greatest by decide)
  rcases Int.le_total n least with hlo | hlo
  · have hmul : k * n ≤ least := Int.le_trans (Int.mul_le_mul_of_nonneg_left hlo hk0) hneg
    rw [clamp_of_le_least hlo, toInt_clamp_of_mem (Int.le_refl _) (by decide),
      clamp_of_le_least hneg, clamp_of_le_least hmul]
  · rcases Int.le_total greatest n with hhi | hhi
    · have hmul : greatest ≤ k * n :=
        Int.le_trans hpos (Int.mul_le_mul_of_nonneg_left hhi hk0)
      rw [clamp_of_greatest_le hhi, toInt_clamp_of_mem (by decide) (Int.le_refl _),
        clamp_of_greatest_le hpos, clamp_of_greatest_le hmul]
    · rw [toInt_clamp_of_mem hlo hhi]

end Amount

open Amount

/-! ### Multiples -/

theorem natCast_mul_sign (k : Nat) (n : Int) : (0 ≤ n → 0 ≤ k * n) ∧ (n ≤ 0 → k * n ≤ 0) :=
  ⟨fun h => Int.mul_nonneg (Int.natCast_nonneg k) h,
    fun h => Int.mul_nonpos_of_nonneg_of_nonpos (Int.natCast_nonneg k) h⟩

/-- A bound on a multiple bounds the smaller multiples. -/
theorem natCast_mul_le {k n : Nat} (hkn : k ≤ n) {w b : Int} (hb : 0 ≤ b) (h : n * w ≤ b) :
    k * w ≤ b := by
  rcases Int.le_total 0 w with hw | hw
  · exact Int.le_trans (Int.mul_le_mul_of_nonneg_right (Int.ofNat_le.mpr hkn) hw) h
  · exact Int.le_trans ((natCast_mul_sign k w).2 hw) hb

/-! ### The faces of a group -/

@[simp] theorem faceSum_nil : faceSum [] = 0 := rfl

@[simp] theorem faceSum_cons (face : UInt32) (faces : List UInt32) :
    faceSum (face :: faces) = face.toNat + faceSum faces := rfl

/-- Bounds on each face bound their sum. -/
theorem faceSum_bounds {lo hi : Nat} {faces : List UInt32}
    (h : ∀ face ∈ faces, lo ≤ face.toNat ∧ face.toNat ≤ hi) :
    faces.length * lo ≤ faceSum faces ∧ faceSum faces ≤ faces.length * hi := by
  induction faces with
  | nil => simp
  | cons face faces ih =>
      have hface := h face (by simp)
      have hfaces := ih fun f hf => h f (by simp [hf])
      rw [faceSum_cons, List.length_cons, Nat.succ_mul, Nat.succ_mul]
      omega

/-- A bound on each group bounds the sum of all groups. -/
theorem sum_faceSum_le {groups : List (List UInt32)} {cap : Nat}
    (hcap : ∀ faces ∈ groups, faceSum faces ≤ cap) :
    (groups.map faceSum).sum ≤ groups.length * cap := by
  induction groups with
  | nil => simp
  | cons faces groups ih =>
      have hfaces := hcap faces (by simp)
      have hgroups := ih fun g hg => hcap g (by simp [hg])
      rw [List.map_cons, List.sum_cons, List.length_cons, Nat.succ_mul]
      omega

theorem toInt_faceAmount (face : UInt32) : (faceAmount face).toInt = face.toNat := by
  have := face.toNat_lt
  exact toInt_clamp_of_mem (by simp only [least]; omega) (by simp only [greatest]; omega)

theorem toInt_foldl_faceAmount (faces : List UInt32) (total : Amount) :
    (faces.foldl (fun total face => total + faceAmount face) total).toInt =
      min (total.toInt + faceSum faces) greatest := by
  induction faces generalizing total with
  | nil =>
      have := total.le_greatest
      simp only [List.foldl_nil, faceSum_nil, greatest]
      omega
  | cons face faces ih =>
      have := total.least_le
      rw [List.foldl_cons, ih, toInt_add, toInt_faceAmount, faceSum_cons]
      simp only [least, greatest]
      omega

/-! ### One group, and all groups -/

/-- **One group.**  The faces take the total up, to the high end at most, and the modifier moves it
once. -/
theorem toInt_tallyGroup (modifier total : Amount) (faces : List UInt32) :
    (tallyGroup modifier total faces).toInt =
      max least (min (min (total.toInt + faceSum faces) greatest + modifier.toInt) greatest) := by
  rw [tallyGroup, toInt_add, toInt_foldl_faceAmount]

theorem tally_append_singleton (modifier : Amount) (groups : List (List UInt32))
    (faces : List UInt32) :
    tally modifier (groups ++ [faces]) = tallyGroup modifier (tally modifier groups) faces := by
  simp [tally]

/-- **All groups.**  What holds of no groups and zero, and is kept by one more group, holds of the
groups and their tally. -/
theorem tally_induction {modifier : Amount} {groups : List (List UInt32)}
    (Inv : List (List UInt32) → Amount → Prop) (nil : Inv [] 0)
    (step : ∀ done faces, done ++ [faces] <+: groups → ∀ total, Inv done total →
      Inv (done ++ [faces]) (tallyGroup modifier total faces)) :
    Inv groups (tally modifier groups) := by
  have run : ∀ done, done <+: groups → Inv done (tally modifier done) := by
    intro done
    induction done using List.reverseRecOn with
    | nil => exact fun _ => nil
    | append_singleton done faces ih =>
        intro h
        rw [tally_append_singleton]
        exact step done faces h _ (ih ((List.prefix_append done [faces]).trans h))
  exact run groups (List.prefix_refl groups)

/-! ### Bounds -/

/-- With at most `cap` in a group, a tally is at most the groups times the amount of one. -/
theorem tally_le {modifier : Amount} {groups : List (List UInt32)} {cap : Nat}
    (hm : -greatest ≤ modifier.toInt) (hcap : ∀ faces ∈ groups, faceSum faces ≤ cap) :
    tally modifier groups ≤ clamp (groups.length * (clamp cap + modifier).toInt) := by
  refine tally_induction
    (fun done total => total ≤ clamp (done.length * (clamp cap + modifier).toInt)) ?_ ?_
  · simp [le_iff]
  · intro done faces hd total ih
    have hS := hcap faces (hd.subset (by simp))
    -- the sign of one group decides at which end the groups so far can have stopped
    obtain ⟨hpos, hneg⟩ := natCast_mul_sign done.length (clamp cap + modifier).toInt
    rw [le_iff, toInt_clamp] at *
    rw [toInt_tallyGroup, List.length_append, List.length_singleton, Int.natCast_add,
      Int.natCast_one, Int.add_mul, Int.one_mul]
    generalize hU : (clamp cap + modifier).toInt = U at *
    generalize done.length * U = p at *
    rw [toInt_add, toInt_clamp] at hU
    have := total.least_le
    have := modifier.le_greatest
    simp only [least, greatest] at *
    omega

/-- With at least `floor` in a group, a tally is at least the groups times the amount of one,
provided that a negative modifier leaves room for the exact product. -/
theorem le_tally {modifier : Amount} {groups : List (List UInt32)} {floor : Nat}
    (hm : -greatest ≤ modifier.toInt) (hfloor : ∀ faces ∈ groups, floor ≤ faceSum faces)
    (hf : (floor : Int) ≤ greatest)
    (h : 0 ≤ modifier.toInt ∨
      groups.length * (floor + modifier.toInt) ≤ greatest + modifier.toInt) :
    clamp (groups.length * (clamp floor + modifier).toInt) ≤ tally modifier groups := by
  refine tally_induction
    (fun done total => clamp (done.length * (clamp floor + modifier).toInt) ≤ total) ?_ ?_
  · simp [le_iff]
  · intro done faces hd total ih
    have hS := hfloor faces (hd.subset (by simp))
    -- the room for all groups is room for the groups so far
    have hk : 0 ≤ modifier.toInt ∨
        (done.length + 1 : Nat) * (floor + modifier.toInt) ≤ greatest + modifier.toInt :=
      h.imp_right (natCast_mul_le (by simpa using hd.length_le) (by omega))
    rw [le_iff, toInt_clamp] at *
    rw [toInt_tallyGroup, List.length_append, List.length_singleton, Int.natCast_add,
      Int.natCast_one, Int.add_mul, Int.one_mul]
    rw [Int.natCast_add, Int.natCast_one, Int.add_mul, Int.one_mul] at hk
    by_cases hm0 : 0 ≤ modifier.toInt
    -- no group goes down
    · obtain ⟨hpos, -⟩ := natCast_mul_sign done.length (clamp floor + modifier).toInt
      generalize hL : (clamp floor + modifier).toInt = L at *
      generalize done.length * L = p at *
      rw [toInt_add, toInt_clamp] at hL
      simp only [least, greatest] at *
      omega
    -- the amount of one group is exact, and the room is needed for the last modifier
    · have hL : (clamp floor + modifier).toInt = floor + modifier.toInt := by
        rw [toInt_add, toInt_clamp]
        simp only [least, greatest] at *
        omega
      have hk := hk.resolve_left hm0
      rw [hL] at ih ⊢
      generalize done.length * (floor + modifier.toInt) = p at *
      simp only [least, greatest] at *
      omega

/-- The modifier is added last, so a negative one keeps every tally away from the high end. -/
theorem tally_le_of_neg {modifier : Amount} {groups : List (List UInt32)} (hne : groups ≠ [])
    (hm : modifier.toInt < 0) : (tally modifier groups).toInt ≤ greatest + modifier.toInt := by
  rw [← List.dropLast_concat_getLast hne, tally_append_singleton, toInt_tallyGroup]
  have := modifier.least_le
  simp only [least, greatest] at *
  omega

/-! ### The exact sum -/

/-- **The exact sum, clamped.**  If the groups times `cap` stay in the range, a tally is the amount
nearest to the exact sum.  A modifier that outweighs a group takes every group down, so a total at
the low end stays there; one that does not is too small to take all groups to the low end. -/
theorem tally_eq_clamp {modifier : Amount} {groups : List (List UInt32)} {cap : Nat}
    (hcap : ∀ faces ∈ groups, faceSum faces ≤ cap) (h : (groups.length * cap : Nat) ≤ greatest) :
    tally modifier groups = clamp ((groups.map faceSum).sum + groups.length * modifier.toInt) := by
  refine tally_induction
    (fun done total =>
      total = clamp ((done.map faceSum).sum + done.length * modifier.toInt)) ?_ ?_
  · simp
  · intro done faces hd total ih
    have hS := hcap faces (hd.subset (by simp))
    have hsum : (done.map faceSum).sum ≤ done.length * cap :=
      sum_faceSum_le fun g hg => hcap g (hd.subset (List.mem_append_left _ hg))
    have hlen : (done.length + 1) * cap ≤ groups.length * cap :=
      Nat.mul_le_mul_right cap (by simpa using hd.length_le)
    obtain ⟨hp, hp'⟩ := natCast_mul_sign done.length modifier.toInt
    obtain ⟨hq, hq'⟩ := natCast_mul_sign done.length (cap + modifier.toInt)
    rw [Int.mul_add, ← Int.natCast_mul] at hq hq'
    rw [Nat.add_mul, Nat.one_mul] at hlen
    rw [Amount.ext_iff, toInt_tallyGroup, ih, toInt_clamp, toInt_clamp]
    simp only [List.map_append, List.map_cons, List.map_nil, List.sum_append, List.sum_cons,
      List.sum_nil, List.length_append, List.length_singleton, Int.natCast_add, Int.natCast_one,
      Int.add_mul, Int.one_mul]
    generalize (done.length : Int) * modifier.toInt = p at *
    generalize done.length * cap = q at *
    simp only [least, greatest] at *
    by_cases hm : 0 ≤ modifier.toInt
    · omega
    · by_cases hc : 0 ≤ cap + modifier.toInt
      -- the modifiers so far do not outweigh the caps, so no total was at the low end
      · have := hq hc
        omega
      -- the groups so far went down one by one, and this one cannot leave the low end again
      · have := hq' (by omega)
        omega

end TabletopDice
