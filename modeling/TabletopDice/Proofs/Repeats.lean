import TabletopDice.Proofs.Requests

/-!
# Rolls — splitting the repetitions

A roll that is repeated as often as two others together draws what they draw one after the other.
So its groups are theirs, end to end, and the source is left where the second one leaves it.

Its range and its total are theirs added up, although a sum of amounts may stop at an end of their
range and amounts do not add up in every order.  For the ends of the range it is enough that both
summands have the sign of one group (`Amount.clamp_add_clamp_of_same_sign`).  The totals need not
have the same sign, but where they do not, a modifier that is negative leaves a group with all its
highest faces above zero, and then neither total has stopped.

**Repetitions add up** (`perform_repeated_plus`).
-/

namespace TabletopDice

open FaceSource

/-! ### Sums that stop -/

namespace Amount

/-- Amounts on one side of zero, added up, stop where their exact sum stops. -/
theorem clamp_add_clamp_of_same_sign {m n : Int} (h : 0 ≤ m ∧ 0 ≤ n ∨ m ≤ 0 ∧ n ≤ 0) :
    clamp m + clamp n = clamp (m + n) := by
  rw [Amount.ext_iff, toInt_add, toInt_clamp, toInt_clamp, toInt_clamp]
  simp only [least, greatest]
  omega

/-- Multiples of one number, added up, stop where their exact sum stops. -/
theorem clamp_add_mul (a b : Nat) (n : Int) :
    clamp ((a + b : Nat) * n) = clamp (a * n) + clamp (b * n) := by
  rw [clamp_add_clamp_of_same_sign, Int.natCast_add, Int.add_mul]
  obtain ⟨ha, ha'⟩ := natCast_mul_sign a n
  obtain ⟨hb, hb'⟩ := natCast_mul_sign b n
  rcases Int.le_total 0 n with hn | hn
  · exact .inl ⟨ha hn, hb hn⟩
  · exact .inr ⟨ha' hn, hb' hn⟩

/-- Sums of groups with at most `cap` in each and one modifier, if the caps stay in the range. -/
theorem clamp_add_groups {a b S T cap : Nat} {modifier : Int} (hS : S ≤ a * cap)
    (hT : T ≤ b * cap) (h : ((a + b) * cap : Nat) ≤ greatest) :
    clamp (S + a * modifier) + clamp (T + b * modifier) =
      clamp ((S + T : Nat) + (a + b : Nat) * modifier) := by
  obtain ⟨ha, ha'⟩ := natCast_mul_sign a (cap + modifier)
  obtain ⟨hb, hb'⟩ := natCast_mul_sign b (cap + modifier)
  obtain ⟨hpa, hna⟩ := natCast_mul_sign a modifier
  obtain ⟨hpb, hnb⟩ := natCast_mul_sign b modifier
  rw [Int.mul_add, ← Int.natCast_mul] at ha ha' hb hb'
  rw [Nat.add_mul] at h
  have hsum : ((S + T : Nat) + (a + b : Nat) * modifier : Int) =
      (S + a * modifier) + (T + b * modifier) := by
    rw [Int.natCast_add, Int.natCast_add, Int.add_mul]
    omega
  rw [hsum]
  generalize (a : Int) * modifier = p at *
  generalize (b : Int) * modifier = q at *
  by_cases hm : 0 ≤ modifier
  · exact clamp_add_clamp_of_same_sign (.inl (by omega))
  · by_cases hc : 0 ≤ cap + modifier
    -- the modifiers do not outweigh the caps, so neither sum has left the range
    · have := ha hc
      have := hb hc
      rw [clamp_add (by simp only [least, greatest] at *; omega) (by omega),
        toInt_clamp_of_mem (by simp only [least, greatest] at *; omega) (by omega)]
    -- every group goes down
    · have := ha' (by omega)
      have := hb' (by omega)
      exact clamp_add_clamp_of_same_sign (.inr (by omega))

end Amount

/-! ### Repetitions -/

/-- The sum of two counts that is a count. -/
def Count.plus (a b : Count) (lt : a.toNat + b.toNat < 4294967296) : Count :=
  .ofNat (a.toNat + b.toNat) (Nat.add_pos_left a.toNat_pos _) lt

@[simp] theorem Count.toNat_plus (a b : Count) (lt : a.toNat + b.toNat < 4294967296) :
    (a.plus b lt).toNat = a.toNat + b.toNat :=
  toNat_ofNat _ lt

namespace Roll

/-- The roll with another number of repetitions. -/
def repeated (r : Roll) (n : Count) : Roll := { r with repeats := n }

variable {σ : Type} [FaceSource σ]

theorem rolled_repeated_plus (r : Roll) {a b : Count} (lt : a.toNat + b.toNat < 4294967296)
    (s : σ) : (r.repeated (a.plus b lt)).rolled s =
      (r.repeated a).rolled s ++ (r.repeated b).rolled ((r.repeated a).perform s).2 := by
  rw [rolled, repeated, Count.toNat_plus, drawGroups_add]
  rfl

theorem snd_perform_repeated_plus (r : Roll) {a b : Count}
    (lt : a.toNat + b.toNat < 4294967296) (s : σ) :
    ((r.repeated (a.plus b lt)).perform s).2 =
      ((r.repeated b).perform ((r.repeated a).perform s).2).2 := by
  rw [snd_perform, repeated, Count.toNat_plus, drawGroups_add]
  rfl

/-- A source that is fair to a die is still fair to it after a roll of such dice. -/
theorem fairFrom_perform {r : Roll} {s : σ} (h : FairFrom r.sides.word s) :
    FairFrom r.sides.word (r.perform s).2 := by
  rw [snd_perform, drawGroups_snd]
  exact h.after_drawMany _

theorem lower_repeated_plus (r : Roll) {a b : Count} (lt : a.toNat + b.toNat < 4294967296) :
    (r.repeated (a.plus b lt)).totalRange.lower =
      (r.repeated a).totalRange.lower + (r.repeated b).totalRange.lower := by
  rw [lower_eq, lower_eq, lower_eq]
  simp only [repeated, Count.toNat_plus]
  exact Amount.clamp_add_mul ..

theorem upper_repeated_plus (r : Roll) {a b : Count} (lt : a.toNat + b.toNat < 4294967296) :
    (r.repeated (a.plus b lt)).totalRange.upper =
      (r.repeated a).totalRange.upper + (r.repeated b).totalRange.upper := by
  rw [upper_eq, upper_eq, upper_eq]
  simp only [repeated, Count.toNat_plus]
  exact Amount.clamp_add_mul ..

/-- The faces of all groups have at most the highest face of every die as their sum. -/
theorem sum_rolled_le {r : Roll} {s : σ} (h : FairFrom r.sides.word s) :
    ((r.rolled s).map faceSum).sum ≤ r.repeats.toNat * (r.dice.toNat * r.sides.toNat) := by
  rw [← length_rolled r s]
  exact sum_faceSum_le fun faces hf => (faceSum_rolled (shows_of_fairFrom h) faces hf).2

theorem total_repeated_plus {r : Roll} {s : σ} (h : FairFrom r.sides.word s) {a b : Count}
    (lt : a.toNat + b.toNat < 4294967296)
    (hsmall : ((a.toNat + b.toNat) * r.dice.toNat * r.sides.toNat : Nat) ≤ Amount.greatest) :
    ((r.repeated (a.plus b lt)).perform s).1.total =
      ((r.repeated a).perform s).1.total +
        ((r.repeated b).perform ((r.repeated a).perform s).2).1.total := by
  have hlater : FairFrom r.sides.word ((r.repeated a).perform s).2 :=
    fairFrom_perform (r := r.repeated a) h
  -- fewer repetitions have a smaller product
  have hfewer : ∀ n ≤ a.toNat + b.toNat,
      (n * r.dice.toNat * r.sides.toNat : Nat) ≤ Amount.greatest := fun n hn =>
    Int.le_trans (Int.ofNat_le.mpr (Nat.mul_le_mul_right _ (Nat.mul_le_mul_right _ hn))) hsmall
  have hwhole := hfewer _ (Nat.le_of_eq (a.toNat_plus b lt))
  rw [total_eq_clamp (r := r.repeated (a.plus b lt)) h hwhole,
    total_eq_clamp (r := r.repeated a) h (hfewer _ (Nat.le_add_right _ _)),
    total_eq_clamp (r := r.repeated b) hlater (hfewer _ (Nat.le_add_left _ _)), map_sum_groups,
    map_sum_groups, map_sum_groups, rolled_repeated_plus, List.map_append, List.sum_append]
  simp only [repeated, Count.toNat_plus]
  rw [Nat.mul_assoc] at hsmall
  exact (Amount.clamp_add_groups (sum_rolled_le (r := r.repeated a) h)
    (sum_rolled_le (r := r.repeated b) hlater) hsmall).symm

/-- **Repetitions add up.**  A roll with `a + b` repetitions draws the groups of the one with `a`
and then those of the one with `b`, and leaves the source where that one leaves it.  The ends of its
range are the sums of theirs; and so is its total, if repetitions, dice and sides have a product in
the range of amounts and the source shows faces of the die. -/
theorem perform_repeated_plus (r : Roll) {a b : Count} (lt : a.toNat + b.toNat < 4294967296)
    (s : σ) :
    let whole := (r.repeated (a.plus b lt)).perform s
    let first := (r.repeated a).perform s
    let second := (r.repeated b).perform first.2
    whole.1.groups = first.1.groups ++ second.1.groups ∧ whole.2 = second.2 ∧
    whole.1.totalRange.lower = first.1.totalRange.lower + second.1.totalRange.lower ∧
    whole.1.totalRange.upper = first.1.totalRange.upper + second.1.totalRange.upper ∧
    (((a.toNat + b.toNat) * r.dice.toNat * r.sides.toNat : Nat) ≤ Amount.greatest →
      FairFrom r.sides.word s → whole.1.total = first.1.total + second.1.total) := by
  intro whole first second
  have hgroups : whole.1.groups = first.1.groups ++ second.1.groups := by
    rw [groups_perform, groups_perform, groups_perform, rolled_repeated_plus, List.map_append]
    rfl
  exact ⟨hgroups, snd_perform_repeated_plus r lt s, lower_repeated_plus r lt,
    upper_repeated_plus r lt, fun hsmall h => total_repeated_plus h lt hsmall⟩

/-- The modifier of `deepRoll` takes one group to the low end, and two groups beyond it. -/
theorem perform_repeated_plus_deepRoll :
    let one : Count := ⟨1, by decide⟩
    let two : Count := ⟨2, by decide⟩
    let script := Script.ofFaces [2, 6, 1]
    one.toNat + two.toNat < 4294967296 ∧
    (((one.toNat + two.toNat) * deepRoll.dice.toNat * deepRoll.sides.toNat : Nat) ≤
      Amount.greatest ∧ FairFrom deepRoll.sides.word script) ∧
    ((deepRoll.repeated (one.plus two (by decide))).perform script).1.total =
      ((deepRoll.repeated one).perform script).1.total +
        ((deepRoll.repeated two).perform ((deepRoll.repeated one).perform script).2).1.total := by
  intro one two script
  have lt : one.toNat + two.toNat < 4294967296 := by decide
  have hsmall : ((one.toNat + two.toNat) * deepRoll.dice.toNat * deepRoll.sides.toNat : Nat) ≤
      Amount.greatest := by decide
  have hfair : FairFrom deepRoll.sides.word script :=
    Script.fair.fairFrom deepRoll.sides.ne_zero script
  exact ⟨lt, ⟨hsmall, hfair⟩, (perform_repeated_plus deepRoll lt script).2.2.2.2 hsmall hfair⟩

end Roll

end TabletopDice
