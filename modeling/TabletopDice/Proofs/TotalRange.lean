import TabletopDice.Proofs.Draws
import TabletopDice.Proofs.Tally

/-!
# Total ranges — where the total of a performance lies

The range of a roll and the total of its performance both stop at the ends of the range of amounts,
but at different places: the range once in a product, the total after each face and each modifier.

They could come apart in one way only.  The total stops at the high end, and the negative modifier
of the last group pulls it back from there; the low end of the range is a product that has gone past
that point (`Roll.Overruns`).  This takes `2 ^ 63` dice or more (`Roll.Overruns.two_pow_le_dice`).
An outcome keeps every face, and so many faces have no place in a memory with addresses of 64 bits
(`Outcome.Addressable`): no machine returns the outcome of a roll that overruns.

* `totalRange_contains_total`: for a source that shows faces of the die, the total of an outcome
  that a memory can hold lies in its range, wherever the total and the ends of the range stop.
* `totalRange_contains_total_iff`: for outcomes of any size, the total lies in the range if and only
  if the roll does not overrun.
* `total_exact_of_small`: if repetitions, dice and sides have a product in the range, the total is
  the amount nearest to the exact sum of the faces and modifiers, and both ends of the range are
  totals, of the sources that always show 1 and always show the highest face.
-/

namespace TabletopDice

open FaceSource

/-! ### The amount of a modifier -/

/-- The amount of a modifier is not the least one: its negation is an amount too. -/
theorem Modifier.neg_greatest_le_value (m : Modifier) : -Amount.greatest ≤ m.value.toInt := by
  rw [Modifier.value]
  split
  · decide
  · split
    · rw [Amount.toInt_neg, Amount.toInt_clamp]
      simp only [Amount.least, Amount.greatest]
      omega
    · rw [Amount.toInt_clamp]
      simp only [Amount.least, Amount.greatest]
      omega

theorem contains_iff {range : TotalRange} {total : Amount} :
    range.contains total ↔ range.lower ≤ total ∧ total ≤ range.upper := by
  rw [TotalRange.contains, Bool.and_eq_true, decide_eq_true_iff, decide_eq_true_iff]

/-! ### The memory of an outcome -/

/-- The bytes that the faces of an outcome take, four for each. -/
def Outcome.faceBytes (o : Outcome) : Nat := 4 * (o.groups.flatMap Group.faces).length

/-- Every byte of the faces can have an address of 64 bits.  The lists of an outcome are unbounded;
an outcome that a machine returns is held in its memory with all faces, and is addressable. -/
def Outcome.Addressable (o : Outcome) : Prop := o.faceBytes ≤ 2 ^ 64

namespace Roll

variable {σ : Type} [FaceSource σ]

/-! ### The groups of a performance -/

/-- The faces of each group of a performance. -/
def rolled (r : Roll) (s : σ) : List (List UInt32) :=
  (drawGroups r.sides.word r.dice.toNat r.repeats.toNat s).1

theorem total_perform (r : Roll) (s : σ) :
    (r.perform s).1.total = tally r.modifier.value (r.rolled s) := rfl

theorem totalRange_perform (r : Roll) (s : σ) : (r.perform s).1.totalRange = r.totalRange := rfl

@[simp] theorem length_rolled (r : Roll) (s : σ) : (r.rolled s).length = r.repeats.toNat :=
  length_drawGroups _ _ _ _

theorem rolled_ne_nil (r : Roll) (s : σ) : r.rolled s ≠ [] := by
  rw [← List.length_pos_iff, length_rolled]
  exact r.repeats.toNat_pos

theorem groups_perform (r : Roll) (s : σ) :
    (r.perform s).1.groups = (r.rolled s).map fun faces => ⟨faces, r.modifier⟩ := rfl

/-- The dice of an outcome in the order of its groups. -/
theorem flatMap_faces_perform (r : Roll) (s : σ) :
    (r.perform s).1.groups.flatMap Group.faces = (r.rolled s).flatten := by
  rw [groups_perform, List.flatMap_map, List.flatMap_id']

theorem flatMap_faces_eq_drawMany (r : Roll) (s : σ) : (r.perform s).1.groups.flatMap Group.faces =
    (drawMany r.sides.word (r.repeats.toNat * r.dice.toNat) s).1 := by
  rw [flatMap_faces_perform, rolled, flatten_drawGroups]

theorem length_flatMap_faces (r : Roll) (s : σ) :
    ((r.perform s).1.groups.flatMap Group.faces).length = r.repeats.toNat * r.dice.toNat := by
  rw [flatMap_faces_eq_drawMany, length_drawMany]

theorem faceBytes_perform (r : Roll) (s : σ) :
    (r.perform s).1.faceBytes = 4 * (r.repeats.toNat * r.dice.toNat) := by
  rw [Outcome.faceBytes, length_flatMap_faces]

theorem map_sum_groups (r : Roll) (s : σ) :
    (r.perform s).1.groups.map Group.sum = (r.rolled s).map faceSum :=
  List.map_map

/-- Bounds on what the source shows bound each group. -/
theorem faceSum_rolled {r : Roll} {s : σ} {lo hi : Nat}
    (h : Shows (fun face => lo ≤ face.toNat ∧ face.toNat ≤ hi) r.sides.word s) :
    ∀ faces ∈ r.rolled s,
      r.dice.toNat * lo ≤ faceSum faces ∧ faceSum faces ≤ r.dice.toNat * hi := by
  intro faces hf
  rw [← length_of_mem_drawGroups hf]
  exact faceSum_bounds (h.forall_mem_drawGroups hf)

theorem shows_of_fairFrom {r : Roll} {s : σ} (h : FairFrom r.sides.word s) :
    Shows (fun face => 1 ≤ face.toNat ∧ face.toNat ≤ r.sides.toNat) r.sides.word s :=
  h.imp fun face hf => by
    rw [UInt32.le_iff_toNat_le, UInt32.toNat_one, UInt32.le_iff_toNat_le] at hf
    exact hf

/-! ### The ends of the range -/

theorem lower_eq (r : Roll) : r.totalRange.lower =
    .clamp (r.repeats.toNat * (.clamp r.dice.toNat + r.modifier.value : Amount).toInt) := by
  rw [totalRange, Amount.ext_iff, Amount.toInt_mul, Count.toInt_amount]
  rfl

theorem upper_eq (r : Roll) : r.totalRange.upper =
    .clamp (r.repeats.toNat *
      (.clamp (r.dice.toNat * r.sides.toNat : Nat) + r.modifier.value : Amount).toInt) := by
  have hmul : r.dice.amount * r.sides.amount = .clamp (r.dice.toNat * r.sides.toNat : Nat) := by
    rw [Amount.ext_iff, Amount.toInt_mul, Count.toInt_amount, Count.toInt_amount,
      Amount.toInt_clamp, Int.natCast_mul]
  rw [totalRange, hmul, Amount.ext_iff, Amount.toInt_mul, Count.toInt_amount]
  rfl

theorem toNat_dice_le (r : Roll) : (r.dice.toNat : Int) ≤ Amount.greatest := by
  have := r.dice.toNat_lt
  simp only [Amount.greatest]
  omega

theorem one_le_repeats (r : Roll) : (1 : Int) ≤ r.repeats.toNat :=
  Int.ofNat_le.mpr r.repeats.toNat_pos

theorem lower_eq_clamp (r : Roll) : r.totalRange.lower =
    .clamp (r.repeats.toNat * (r.dice.toNat + r.modifier.value.toInt)) := by
  have lo : Amount.least ≤ r.dice.toNat := by simp only [Amount.least]; omega
  rw [lower_eq, Amount.clamp_add lo r.toNat_dice_le, Amount.clamp_mul_clamp r.one_le_repeats]

theorem upper_eq_clamp {r : Roll} (h : (r.dice.toNat * r.sides.toNat : Nat) ≤ Amount.greatest) :
    r.totalRange.upper =
      .clamp (r.repeats.toNat * (r.dice.toNat * r.sides.toNat + r.modifier.value.toInt)) := by
  have lo : Amount.least ≤ (r.dice.toNat * r.sides.toNat : Nat) := by
    simp only [Amount.least]; omega
  rw [upper_eq, Amount.clamp_add lo h, Amount.clamp_mul_clamp r.one_le_repeats, Int.natCast_mul]

/-! ### Where the total lies -/

/-- The modifier is negative, and the least total that the groups can have, reckoned without an end,
lies above the place that the last modifier can pull the total back to. -/
def Overruns (r : Roll) : Prop :=
  r.modifier.value.toInt < 0 ∧
    Amount.greatest + r.modifier.value.toInt <
      r.repeats.toNat * (r.dice.toNat + r.modifier.value.toInt)

instance (r : Roll) : Decidable r.Overruns := inferInstanceAs (Decidable (_ ∧ _))

/-- A roll that overruns has `2 ^ 63` dice or more: the negative modifiers together take at least
what one of them takes, so the dice alone, each with the face 1, have gone past the greatest
amount. -/
theorem Overruns.two_pow_le_dice {r : Roll} (h : r.Overruns) :
    2 ^ 63 ≤ r.repeats.toNat * r.dice.toNat := by
  obtain ⟨hm, hover⟩ := h
  have hmodifiers : r.repeats.toNat * r.modifier.value.toInt ≤ 1 * r.modifier.value.toInt :=
    Int.mul_le_mul_of_nonpos_right r.one_le_repeats (Int.le_of_lt hm)
  rw [Int.mul_add, ← Int.natCast_mul] at hover
  simp only [Amount.greatest] at hover
  omega

theorem total_le_upper {r : Roll} {s : σ} (h : FairFrom r.sides.word s) :
    (r.perform s).1.total ≤ r.totalRange.upper := by
  rw [total_perform, upper_eq, ← length_rolled r s]
  exact tally_le r.modifier.neg_greatest_le_value
    fun faces hf => (faceSum_rolled (shows_of_fairFrom h) faces hf).2

theorem lower_le_total {r : Roll} {s : σ} (h : FairFrom r.sides.word s) (hr : ¬ r.Overruns) :
    r.totalRange.lower ≤ (r.perform s).1.total := by
  rw [total_perform, lower_eq, ← length_rolled r s]
  refine le_tally r.modifier.neg_greatest_le_value (fun faces hf => ?_) r.toNat_dice_le ?_
  · simpa using (faceSum_rolled (shows_of_fairFrom h) faces hf).1
  · rw [length_rolled]
    rw [Overruns] at hr
    omega

/-- In a roll that overruns, every total lies below the range, whatever the faces are. -/
theorem total_lt_lower {r : Roll} (hr : r.Overruns) (s : σ) :
    (r.perform s).1.total.toInt < r.totalRange.lower.toInt := by
  obtain ⟨hm, hover⟩ := hr
  have htotal := tally_le_of_neg (r.rolled_ne_nil s) hm
  rw [total_perform, lower_eq_clamp, Amount.toInt_clamp]
  have := r.modifier.neg_greatest_le_value
  simp only [Amount.least, Amount.greatest] at *
  omega

theorem not_contains_of_overruns {r : Roll} (hr : r.Overruns) (s : σ) :
    ¬ (r.perform s).1.totalRange.contains (r.perform s).1.total := by
  rw [totalRange_perform, contains_iff, Amount.le_iff]
  have hlt := total_lt_lower hr s
  omega

/-- For outcomes of any size, the total of a performance lies in the range of the roll if and only if
the roll does not overrun, from a state that shows faces of the die. -/
theorem totalRange_contains_total_iff (r : Roll) (s : σ) (h : FairFrom r.sides.word s) :
    (r.perform s).1.totalRange.contains (r.perform s).1.total ↔ ¬ r.Overruns := by
  constructor
  · intro hc hr
    exact not_contains_of_overruns hr s hc
  · intro hr
    rw [totalRange_perform, contains_iff]
    exact ⟨lower_le_total h hr, total_le_upper h⟩

/-- As many one-sided dice as can be asked for, and one taken off each group. -/
example : (ofWords 4294967295 4294967295 1 "-1").Overruns := by decide

/-- The faces of a roll that overruns take `2 ^ 65` bytes or more. -/
theorem not_overruns_of_addressable {r : Roll} {s : σ} (h : (r.perform s).1.Addressable) :
    ¬ r.Overruns := by
  intro hr
  have hdice := hr.two_pow_le_dice
  rw [Outcome.Addressable, faceBytes_perform] at h
  omega

/-- **The total lies in the range.**  From a state that shows faces of the die, whatever the counts
and the modifier are, the total of an outcome that a memory can hold lies in its range.  A machine
returns no other outcome. -/
theorem totalRange_contains_total (r : Roll) (s : σ) (h : FairFrom r.sides.word s)
    (hmemory : (r.perform s).1.Addressable) :
    (r.perform s).1.totalRange.contains (r.perform s).1.total :=
  (totalRange_contains_total_iff r s h).mpr (not_overruns_of_addressable hmemory)

/-- Nearly as many dice as a memory can hold, each with as many sides as there can be, and the
greatest amount taken off each group. -/
def vastRoll : Roll := ofWords 1073741824 4294967295 4294967295 "-9223372036854775807"

/-- Every group of `vastRoll` takes the total to the high end and back. -/
theorem totalRange_contains_total_vastRoll :
    FairFrom vastRoll.sides.word (Script.ofFaces [4294967295]) ∧
      (vastRoll.perform (Script.ofFaces [4294967295])).1.Addressable ∧
      (vastRoll.perform (Script.ofFaces [4294967295])).1.totalRange.contains
        (vastRoll.perform (Script.ofFaces [4294967295])).1.total := by
  have hfair := Script.fair.fairFrom vastRoll.sides.ne_zero (Script.ofFaces [4294967295])
  have hmemory : (vastRoll.perform (Script.ofFaces [4294967295])).1.Addressable := by
    rw [Outcome.Addressable, faceBytes_perform]
    decide
  exact ⟨hfair, hmemory, totalRange_contains_total vastRoll _ hfair hmemory⟩

/-! ### The exact total -/

theorem total_eq_clamp {r : Roll} {s : σ} (h : FairFrom r.sides.word s)
    (hsmall : (r.repeats.toNat * r.dice.toNat * r.sides.toNat : Nat) ≤ Amount.greatest) :
    (r.perform s).1.total = .clamp (((r.perform s).1.groups.map Group.sum).sum +
      r.repeats.toNat * r.modifier.value.toInt) := by
  rw [total_perform, map_sum_groups, ← length_rolled r s]
  refine tally_eq_clamp (fun faces hf => (faceSum_rolled (shows_of_fairFrom h) faces hf).2) ?_
  rwa [length_rolled, ← Nat.mul_assoc]

/-- A source that always shows the same face of the die gives every group the same sum. -/
theorem total_of_constant {r : Roll} {s : σ} {face : UInt32} (lo : 1 ≤ face)
    (hi : face ≤ r.sides.word) (h : Shows (· = face) r.sides.word s)
    (hsmall : (r.repeats.toNat * r.dice.toNat * r.sides.toNat : Nat) ≤ Amount.greatest) :
    (r.perform s).1.total =
      .clamp (r.repeats.toNat * (r.dice.toNat * face.toNat + r.modifier.value.toInt)) := by
  have hgroups : (r.rolled s).map faceSum =
      List.replicate r.repeats.toNat (r.dice.toNat * face.toNat) := by
    rw [List.eq_replicate_iff, List.length_map, length_rolled]
    refine ⟨rfl, fun n hn => ?_⟩
    obtain ⟨faces, hf, rfl⟩ := List.mem_map.mp hn
    -- the face bounds itself from both sides, and so does the sum of a group
    have hface : Shows (fun f => face.toNat ≤ f.toNat ∧ f.toNat ≤ face.toNat) r.sides.word s :=
      h.imp fun f hf => by rw [hf]; exact ⟨Nat.le_refl _, Nat.le_refl _⟩
    obtain ⟨hlo, hhi⟩ := faceSum_rolled hface faces hf
    exact Nat.le_antisymm hhi hlo
  have hfair : FairFrom r.sides.word s := h.imp fun f hf => by rw [hf]; exact ⟨lo, hi⟩
  rw [total_eq_clamp hfair hsmall, map_sum_groups, hgroups, List.sum_replicate_nat,
    Int.natCast_mul, Int.natCast_mul, Int.mul_add]

/-- **The total is exact, and the range is attained**, where repetitions, dice and sides have a
product in the range of amounts.  From a state that shows faces of the die, the total is the amount
nearest to the exact sum of all faces and modifiers; one that always shows 1 gives the low end, and
one that always shows the highest face gives the high end. -/
theorem total_exact_of_small (r : Roll) (s : σ)
    (hsmall : (r.repeats.toNat * r.dice.toNat * r.sides.toNat : Nat) ≤ Amount.greatest) :
    (FairFrom r.sides.word s →
      (r.perform s).1.total = .clamp (((r.perform s).1.groups.map Group.sum).sum +
        r.repeats.toNat * r.modifier.value.toInt)) ∧
    (Shows (· = 1) r.sides.word s →
      (r.perform s).1.total = (r.perform s).1.totalRange.lower) ∧
    (Shows (· = r.sides.word) r.sides.word s →
      (r.perform s).1.total = (r.perform s).1.totalRange.upper) := by
  have hsides : (1 : UInt32) ≤ r.sides.word := by
    rw [UInt32.le_iff_toNat_le, UInt32.toNat_one]
    exact r.sides.toNat_pos
  refine ⟨fun h => total_eq_clamp h hsmall, fun h => ?_, fun h => ?_⟩
  · rw [total_of_constant (UInt32.le_refl 1) hsides h hsmall, totalRange_perform, lower_eq_clamp,
      UInt32.toNat_one, Int.natCast_one, Int.mul_one]
  · have hgroup : (r.dice.toNat * r.sides.toNat : Nat) ≤ Amount.greatest := by
      have := Nat.le_mul_of_pos_left (r.dice.toNat * r.sides.toNat) r.repeats.toNat_pos
      rw [← Nat.mul_assoc] at this
      omega
    rw [total_of_constant hsides (UInt32.le_refl _) h hsmall, totalRange_perform,
      upper_eq_clamp hgroup]
    rfl

/-- Three groups that the modifier takes to the low end of the range and beyond. -/
def deepRoll : Roll := ofWords 3 2 6 "-9223372036854775807"

theorem total_exact_deepRoll :
    (deepRoll.repeats.toNat * deepRoll.dice.toNat * deepRoll.sides.toNat : Nat) ≤ Amount.greatest ∧
      (FairFrom deepRoll.sides.word (Script.ofFaces [2, 6, 1]) ∧
        (deepRoll.perform (Script.ofFaces [2, 6, 1])).1.total = .clamp
          (((deepRoll.perform (Script.ofFaces [2, 6, 1])).1.groups.map Group.sum).sum +
            deepRoll.repeats.toNat * deepRoll.modifier.value.toInt)) ∧
      (Shows (· = 1) deepRoll.sides.word (Script.ofFaces [1]) ∧
        (deepRoll.perform (Script.ofFaces [1])).1.total =
          (deepRoll.perform (Script.ofFaces [1])).1.totalRange.lower) ∧
      (Shows (· = deepRoll.sides.word) deepRoll.sides.word (Script.ofFaces [6]) ∧
        (deepRoll.perform (Script.ofFaces [6])).1.total =
          (deepRoll.perform (Script.ofFaces [6])).1.totalRange.upper) := by
  have hsmall : (deepRoll.repeats.toNat * deepRoll.dice.toNat * deepRoll.sides.toNat : Nat) ≤
      Amount.greatest := by decide
  have hfair := Script.fair.fairFrom deepRoll.sides.ne_zero (Script.ofFaces [2, 6, 1])
  have hone : Shows (· = 1) deepRoll.sides.word (Script.ofFaces [1]) :=
    Script.shows_constant (by decide) (by decide)
  have hsix : Shows (· = deepRoll.sides.word) deepRoll.sides.word (Script.ofFaces [6]) :=
    Script.shows_constant (UInt32.le_iff_toNat_le.mpr (by decide)) (UInt32.le_refl _)
  exact ⟨hsmall, ⟨hfair, (total_exact_of_small deepRoll _ hsmall).1 hfair⟩,
    ⟨hone, (total_exact_of_small deepRoll _ hsmall).2.1 hone⟩,
    ⟨hsix, (total_exact_of_small deepRoll _ hsmall).2.2 hsix⟩⟩

end Roll

end TabletopDice
