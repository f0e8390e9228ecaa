import TabletopDice.Proofs.Policies
import TabletopDice.Proofs.Sources

/-!
# Sessions — what the faces do not reach

Two sessions over two sources, alike in everything else, take the same steps.  Their sources may be
of different types and have nothing in common, and after the first die they are in states that have
nothing in common either.

What is read of a text never depends on a face, and a performance takes from its source the faces
and nothing else.  So only faces and totals can differ: the outcomes are *alike* (`Outcome.Alike`),
and the sessions *agree* (`Agrees`).  A step keeps this, also where it is rejected and where it
leaves an outcome of an earlier step (`agrees_perform`), and therefore a run does.

**The faces reach faces and totals only** (`runs_agree`).  If the last roll that was performed has
one-sided dice and both sources are honest, the faces have no choice, and the outcomes are equal.
-/

namespace TabletopDice

open FaceSource

/-- Two outcomes with the same excerpt, the same ranges and groups of the same kind; the faces and
the total may differ. -/
structure Outcome.Alike (o o' : Outcome) : Prop where
  excerpt : o.excerpt = o'.excerpt
  totalRange : o.totalRange = o'.totalRange
  faceRange : o.faceRange = o'.faceRange
  /-- As many groups, with as many dice and the same modifiers. -/
  groups : (o.groups.map fun g => (g.faces.length, g.modifier)) =
    o'.groups.map fun g => (g.faces.length, g.modifier)

theorem Outcome.Alike.refl (o : Outcome) : o.Alike o := ⟨rfl, rfl, rfl, rfl⟩

/-! ### Honest sources -/

namespace FaceSource

variable {σ : Type} [FaceSource σ]

/-- From `s` on, whatever dice are drawn, each shows one of its own faces. -/
def Honest (s : σ) : Prop :=
  ∀ t, Reaches s t → ∀ sides, sides ≠ 0 → 1 ≤ (draw sides t).1 ∧ (draw sides t).1 ≤ sides

theorem Honest.fairFrom {s t : σ} (h : Honest s) (ht : Reaches s t) {sides : UInt32}
    (hs : sides ≠ 0) : FairFrom sides t :=
  Shows.of_invariant (Reaches s) (fun u hu => ⟨h u hu sides hs, hu.draw sides⟩) ht

theorem Fair.honest (h : Fair σ) (s : σ) : Honest s := by
  intro t _ sides hs
  exact h.fairFrom hs t 1 _ (by rw [drawMany_succ]; exact List.mem_cons_self)

end FaceSource

namespace Roll

variable {σ τ : Type} [FaceSource σ] [FaceSource τ]

/-! ### One performance from two sources -/

theorem groups_shape_perform (r : Roll) (s : σ) :
    ((r.perform s).1.groups.map fun g => (g.faces.length, g.modifier)) =
      List.replicate r.repeats.toNat (r.dice.toNat, r.modifier) := by
  rw [groups_perform, List.map_map, List.eq_replicate_iff, List.length_map, length_rolled]
  refine ⟨rfl, fun p hp => ?_⟩
  obtain ⟨faces, hf, rfl⟩ := List.mem_map.mp hp
  exact congrArg (·, r.modifier) (length_of_mem_drawGroups hf)

theorem alike_perform (r : Roll) (s : σ) (t : τ) : (r.perform s).1.Alike (r.perform t).1 where
  excerpt := rfl
  totalRange := rfl
  faceRange := rfl
  groups := by rw [groups_shape_perform, groups_shape_perform]

/-- One-sided dice, honestly drawn, all show 1. -/
theorem rolled_of_one_sided {r : Roll} (hr : r.sides.word = 1) {s : σ}
    (h : FairFrom r.sides.word s) : r.rolled s =
      List.replicate r.repeats.toNat (List.replicate r.dice.toNat 1) := by
  rw [List.eq_replicate_iff, length_rolled]
  refine ⟨rfl, fun faces hf => ?_⟩
  rw [List.eq_replicate_iff, length_of_mem_drawGroups hf]
  refine ⟨rfl, fun face hface => ?_⟩
  obtain ⟨hlo, hhi⟩ := h.forall_mem_drawGroups hf face hface
  rw [hr] at hhi
  exact UInt32.le_antisymm hhi hlo

theorem perform_of_one_sided {r : Roll} (hr : r.sides.word = 1) {s : σ} {t : τ}
    (hs : FairFrom r.sides.word s) (ht : FairFrom r.sides.word t) :
    (r.perform s).1 = (r.perform t).1 := by
  show r.outcome (r.rolled s) = r.outcome (r.rolled t)
  rw [rolled_of_one_sided hr hs, rolled_of_one_sided hr ht]

end Roll

namespace Session

variable {σ τ : Type}

/-! ### Agreement -/

/-- Two sessions with the same settings and the same roll, both without an outcome or with outcomes
that are alike. -/
structure Agrees (s : Session σ) (t : Session τ) : Prop where
  settings : s.settings = t.settings
  roll : s.roll = t.roll
  outcome : Option.Rel Outcome.Alike s.outcome t.outcome

variable [FaceSource σ] [FaceSource τ]

/-- What a step answers is an error, or it is not, in both of two sessions that agree; and they
still agree after it. -/
theorem agrees_perform {s : Session σ} {t : Session τ} (h : s.Agrees t) (step : Step) :
    (∀ rejection, (s.perform step).1 = .error rejection ↔ (t.perform step).1 = .error rejection) ∧
      (s.perform step).2.Agrees (t.perform step).2 := by
  refine ⟨fun rejection => ?_, ?_, ?_, ?_⟩
  · rw [fst_perform_eq_error_iff, fst_perform_eq_error_iff, h.settings]
  · rw [settings_perform, settings_perform, h.settings]
  · rw [roll_perform, roll_perform, h.settings, h.roll]
  · rw [outcome_perform, outcome_perform, Step.outcomeOn, Step.outcomeOn, h.settings, h.roll]
    split
    · exact .some (Roll.alike_perform _ _ _)
    · exact h.outcome

theorem agrees_after {s : Session σ} {t : Session τ} (h : s.Agrees t) (steps : List Step) :
    (s.after steps).Agrees (t.after steps) := by
  induction steps generalizing s t with
  | nil => exact h
  | cons step steps ih =>
      rw [after_cons, after_cons]
      exact ih (agrees_perform h step).2

/-- The roll that was performed last, if one was. -/
def lastPerformed? (policy : Policy) (roll : Roll) (steps : List Step) : Option Roll :=
  (performed policy roll steps).getLast?

/-- After a roll of one-sided dice the outcomes of two honest sources are equal. -/
theorem outcome_after_of_one_sided {s : Session σ} {t : Session τ} (h : s.Agrees t)
    (houtcome : s.outcome = t.outcome) (hs : Honest s.source) (ht : Honest t.source)
    {steps : List Step}
    (hone : ∀ r ∈ lastPerformed? s.settings.policy s.roll steps, r.sides.word = 1) :
    (s.after steps).outcome = (t.after steps).outcome := by
  induction steps using List.reverseRecOn with
  | nil => exact houtcome
  | append_singleton steps step ih =>
      have hsteps := agrees_after h steps
      rw [lastPerformed?, performed_append, performed_cons, ← roll_after] at hone
      rw [after_append_singleton, after_append_singleton, outcome_perform, outcome_perform,
        Step.outcomeOn, Step.outcomeOn, ← hsteps.settings, ← hsteps.roll, settings_after]
      by_cases hp : step.performs s.settings.policy
      -- the step performs the last roll
      · rw [if_pos hp, if_pos hp]
        rw [if_pos hp, performed, List.append_nil, List.getLast?_concat] at hone
        have hr := hone _ rfl
        exact congrArg some (Roll.perform_of_one_sided hr
          (hs.fairFrom (reaches_after s steps) (Count.ne_zero _))
          (ht.fairFrom (reaches_after t steps) (Count.ne_zero _)))
      -- the outcome stays, and so does the last roll
      · rw [if_neg hp, if_neg hp]
        rw [if_neg hp, performed, List.append_nil, List.append_nil] at hone
        exact ih hone

/-- **The faces reach faces and totals only.**  Two sessions that differ in their sources alone take
the same steps.  After each of them the same steps were rejected, for the same reasons, and the
sessions agree.  If both sources are honest and the last roll performed has one-sided dice, the
outcomes are equal. -/
theorem runs_agree (settings : Settings) (roll : Roll) (outcome : Option Outcome) (source : σ)
    (source' : τ) (steps : List Step) :
    let s : Session σ := ⟨settings, source, roll, outcome⟩
    let t : Session τ := ⟨settings, source', roll, outcome⟩
    ∀ k < steps.length, ∃ entry entry', (s.run steps)[k]? = some entry ∧
      (t.run steps)[k]? = some entry' ∧
      (∀ rejection, entry.1 = .error rejection ↔ entry'.1 = .error rejection) ∧
      entry.2.Agrees entry'.2 ∧
      (Honest source → Honest source' →
        (∀ r ∈ lastPerformed? settings.policy roll (steps.take (k + 1)), r.sides.word = 1) →
        entry.2.outcome = entry'.2.outcome) := by
  intro s t k hk
  have hagrees : s.Agrees t := by
    refine ⟨rfl, rfl, ?_⟩
    cases outcome with
    | none => exact .none
    | some o => exact .some (.refl o)
  obtain ⟨hentry, hnow⟩ := getElem?_run_of_lt s hk
  obtain ⟨hentry', hnow'⟩ := getElem?_run_of_lt t hk
  obtain ⟨herror, hafter⟩ := agrees_perform (agrees_after hagrees (steps.take k)) steps[k]
  refine ⟨_, _, hentry, hentry', herror, hafter, fun hs ht hone => ?_⟩
  rw [hnow, hnow']
  exact outcome_after_of_one_sided hagrees rfl hs ht hone

/-- The sources of the two sessions differ, and the one text that decides what they show last has
one-sided dice; the text after it is rejected. -/
theorem runs_agree_one_sided :
    let source := Script.ofFaces [4, 17]
    let source' := Script.ofFaces []
    let steps : List Step := [.total (some "2d20"), .outcome (some "3d1+2"), .total (some "hello")]
    2 < steps.length ∧ Honest source ∧ Honest source' ∧
      (∀ r ∈ lastPerformed? .strict .standard (steps.take 3), r.sides.word = 1) ∧
      ∃ entry entry', ((start .strict source).run steps)[2]? = some entry ∧
        ((start .strict source').run steps)[2]? = some entry' ∧
        entry.2.outcome = entry'.2.outcome := by
  intro source source' steps
  have hone : ∀ r ∈ lastPerformed? .strict .standard (steps.take 3), r.sides.word = 1 := by decide
  have hs := Script.fair.honest source
  have ht := Script.fair.honest source'
  obtain ⟨entry, entry', hentry, hentry', -, -, hequal⟩ :=
    runs_agree .strict .standard none source source' steps 2 (by decide)
  exact ⟨by decide, hs, ht, hone, entry, entry', hentry, hentry', hequal hs ht hone⟩

end Session

end TabletopDice
