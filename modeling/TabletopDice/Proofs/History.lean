import Mathlib.Data.List.Induction
import TabletopDice.Faces.Script
import TabletopDice.Proofs.Steps

/-!
# Sessions — what a session is after any steps

The roll and the outcome of a session are changed by different steps and may belong to different
texts.  What a session is after some steps is told by the steps alone, together with the session in
which they began and the source at one point between them.

**The account** (`run_accounts`).  After each step of a run, the settings are those of the
beginning; the roll is the one of the last accepted text; the outcome is the one of the last step
that performed a roll, from the roll and the source as they were then; and the total is the last one
told (`Accounts`).  A session that begins with a text begins as one that reads the text first.
-/

namespace TabletopDice.Session

variable {σ : Type}

theorem views_of_outcome (s : Session σ) :
    (s.outcome = none ∧ s.total = none ∧ s.totalRange = none ∧ s.faceRange = none) ∨
      ∃ o, s.outcome = some o ∧ s.total = some o.total ∧ s.totalRange = some o.totalRange ∧
        s.faceRange = some o.faceRange := by
  rw [total, totalRange, faceRange]
  cases h : s.outcome with
  | none => exact .inl ⟨rfl, rfl, rfl, rfl⟩
  | some o => exact .inr ⟨o, rfl, rfl, rfl, rfl⟩

variable [FaceSource σ]

/-! ### The end of a run -/

/-- The session at the end of a run. -/
def after (s : Session σ) (steps : List Step) : Session σ :=
  ((s.run steps).getLast?.map Prod.snd).getD s

@[simp] theorem after_nil (s : Session σ) : s.after [] = s := rfl

theorem after_cons (s : Session σ) (step : Step) (steps : List Step) :
    s.after (step :: steps) = (s.perform step).2.after steps := by
  rw [after, after, run, List.getLast?_cons, Option.map_some, Option.getD_some]
  cases ((s.perform step).2.run steps).getLast? <;> rfl

theorem after_append (s : Session σ) (steps more : List Step) :
    s.after (steps ++ more) = (s.after steps).after more := by
  induction steps generalizing s with
  | nil => rfl
  | cons step steps ih => rw [List.cons_append, after_cons, after_cons, ih]

theorem after_append_singleton (s : Session σ) (steps : List Step) (step : Step) :
    s.after (steps ++ [step]) = ((s.after steps).perform step).2 := by
  rw [after_append, after_cons, after_nil]

theorem run_append (s : Session σ) (steps more : List Step) :
    s.run (steps ++ more) = s.run steps ++ (s.after steps).run more := by
  induction steps generalizing s with
  | nil => rfl
  | cons step steps ih =>
      rw [List.cons_append, run, run, ih, after_cons, List.cons_append]

/-- A run records, with each step, what the step does to the session after the steps before it. -/
theorem getElem?_run (s : Session σ) (steps : List Step) (k : Nat) :
    (s.run steps)[k]? = steps[k]?.map fun step => (s.after (steps.take k)).perform step := by
  induction steps generalizing s k with
  | nil => rfl
  | cons step steps ih =>
      cases k with
      | zero => rfl
      | succ k =>
          rw [run, List.getElem?_cons_succ, ih, List.getElem?_cons_succ, List.take_succ_cons,
            after_cons]

/-- Step `k` of a run ends where the first `k + 1` steps end. -/
theorem getElem?_run_of_lt (s : Session σ) {steps : List Step} {k : Nat} (hk : k < steps.length) :
    (s.run steps)[k]? = some ((s.after (steps.take k)).perform steps[k]) ∧
      ((s.after (steps.take k)).perform steps[k]).2 = s.after (steps.take (k + 1)) := by
  have hstep : steps[k]? = some steps[k] := List.getElem?_eq_getElem hk
  refine ⟨?_, ?_⟩
  · rw [getElem?_run, hstep, Option.map_some]
  · rw [List.take_add_one, hstep, Option.toList_some, after_append_singleton]

/-! ### The account of some steps -/

/-- The roll of the last accepted text of some steps, if there is one. -/
def lastRoll? (policy : Policy) (steps : List Step) : Option Roll :=
  (steps.filterMap (Step.roll? policy)).getLast?

/-- The last total that is told among some answers, if one is told. -/
def lastTotal? (answers : List (Except Rejection Answer)) : Option Amount :=
  (answers.filterMap fun answer => answer.toOption.bind Answer.total?).getLast?

/-- What the steps `steps`, begun in `s`, tell of the session `now` after them. -/
structure Accounts (s : Session σ) (steps : List Step) (now : Session σ) : Prop where
  /-- The settings never change. -/
  settings : now.settings = s.settings
  /-- The roll is the one of the last accepted text. -/
  roll : now.roll = (lastRoll? s.settings.policy steps).getD s.roll
  /-- Without a performance there is no outcome. -/
  absent : (∀ step ∈ steps, ¬ step.performs s.settings.policy) → now.outcome = none
  /-- The outcome is the one of the last performance, from the roll and the source of that time. -/
  outcome : ∀ before step later, steps = before ++ step :: later →
    step.performs s.settings.policy → (∀ x ∈ later, ¬ x.performs s.settings.policy) →
    now.outcome = some
      (((lastRoll? s.settings.policy (before ++ [step])).getD s.roll).perform
        (s.after before).source).1
  /-- The views are absent together, or all of one outcome. -/
  views : (now.outcome = none ∧ now.total = none ∧ now.totalRange = none ∧ now.faceRange = none) ∨
    ∃ o, now.outcome = some o ∧ now.total = some o.total ∧ now.totalRange = some o.totalRange ∧
      now.faceRange = some o.faceRange
  /-- The total is the last one told. -/
  total : now.total = lastTotal? ((s.run steps).map Prod.fst)

theorem settings_after (s : Session σ) (steps : List Step) :
    (s.after steps).settings = s.settings := by
  induction steps generalizing s with
  | nil => rfl
  | cons step steps ih => rw [after_cons, ih, settings_perform]

theorem lastRoll?_append_singleton (policy : Policy) (steps : List Step) (step : Step) :
    lastRoll? policy (steps ++ [step]) = (step.roll? policy).or (lastRoll? policy steps) := by
  rw [lastRoll?, List.filterMap_append, List.getLast?_append]
  cases h : step.roll? policy <;> simp [lastRoll?, h]

theorem roll_after (s : Session σ) (steps : List Step) :
    (s.after steps).roll = (lastRoll? s.settings.policy steps).getD s.roll := by
  induction steps using List.reverseRecOn with
  | nil => rfl
  | append_singleton steps step ih =>
      rw [after_append_singleton, roll_perform, settings_after, ih, lastRoll?_append_singleton]
      cases step.roll? s.settings.policy <;> rfl

/-- Steps that perform nothing leave the outcome. -/
theorem outcome_after_of_not_performs {s : Session σ} {steps : List Step}
    (h : ∀ step ∈ steps, ¬ step.performs s.settings.policy) :
    (s.after steps).outcome = s.outcome := by
  induction steps generalizing s with
  | nil => rfl
  | cons step steps ih =>
      rw [after_cons, ih, outcome_perform, if_neg (h step (by simp))]
      intro x hx
      rw [settings_perform]
      exact h x (by simp [hx])

theorem outcome_after {s : Session σ} {before later : List Step} {step : Step}
    (hstep : step.performs s.settings.policy)
    (hlater : ∀ x ∈ later, ¬ x.performs s.settings.policy) :
    (s.after (before ++ step :: later)).outcome = some
      (((lastRoll? s.settings.policy (before ++ [step])).getD s.roll).perform
        (s.after before).source).1 := by
  have hlater' : ∀ x ∈ later, ¬ x.performs (s.after (before ++ [step])).settings.policy := by
    rwa [settings_after]
  -- what is performed is the roll of the last text up to `step`, the text of `step` included
  rw [List.append_cons, after_append, outcome_after_of_not_performs hlater',
    after_append_singleton, outcome_perform, settings_after, if_pos hstep, Step.outcomeOn,
    settings_after, roll_after, lastRoll?_append_singleton]
  cases step.roll? s.settings.policy <;> rfl

theorem lastTotal?_append_singleton (answers : List (Except Rejection Answer))
    (answer : Except Rejection Answer) : lastTotal? (answers ++ [answer]) =
      (answer.toOption.bind Answer.total?).or (lastTotal? answers) := by
  rw [lastTotal?, List.filterMap_append, List.getLast?_append]
  cases h : answer.toOption.bind Answer.total? <;> simp [lastTotal?, h]

theorem total_after {s : Session σ} (h : s.outcome = none) (steps : List Step) :
    (s.after steps).total = lastTotal? ((s.run steps).map Prod.fst) := by
  induction steps using List.reverseRecOn with
  | nil => rw [after_nil, total, h]; rfl
  | append_singleton steps step ih =>
      rw [run_append, List.map_append]
      show _ = lastTotal? (_ ++ [((s.after steps).perform step).1])
      rw [lastTotal?_append_singleton, total?_perform, ← ih, after_append_singleton, total,
        outcome_perform, total]
      split <;> rfl

theorem accounts_after {s : Session σ} (h : s.outcome = none) (steps : List Step) :
    Accounts s steps (s.after steps) where
  settings := settings_after s steps
  roll := roll_after s steps
  absent hsteps := (outcome_after_of_not_performs hsteps).trans h
  outcome before step later hsteps hstep hlater := by
    rw [hsteps]
    exact outcome_after hstep hlater
  views := views_of_outcome _
  total := total_after h steps

/-- **The account.**  Of a session without an outcome, each step of a run leaves what the steps so
far account for.  And a session that begins with a text has the roll and the outcome of one that
begins without and reads the text. -/
theorem run_accounts (s : Session σ) (h : s.outcome = none) (steps : List Step) :
    (∀ k < steps.length, ∃ entry, (s.run steps)[k]? = some entry ∧
      Accounts s (steps.take (k + 1)) entry.2) ∧
    ∀ (text : String) (unseeded unseeded' : Generator),
      (ofText (some text) unseeded).roll =
        ((ofSettings .standard unseeded').perform (.read text)).2.roll ∧
      (ofText (some text) unseeded).outcome =
        ((ofSettings .standard unseeded').perform (.read text)).2.outcome := by
  refine ⟨fun k hk => ?_, fun text unseeded unseeded' => ⟨rfl, rfl⟩⟩
  obtain ⟨hentry, hnow⟩ := getElem?_run_of_lt s hk
  refine ⟨_, hentry, ?_⟩
  rw [hnow]
  exact accounts_after h _

/-- After a roll is performed, another is read, a text is rejected and a die is drawn. -/
theorem run_accounts_strict :
    (start .strict (Script.ofFaces [4, 17])).outcome = none ∧
      ∃ entry, ((start .strict (Script.ofFaces [4, 17])).run
          [.total (some "2d20"), .read "3x1d4", .total (some "hello"), .die 20])[3]? = some entry ∧
        Accounts (start .strict (Script.ofFaces [4, 17]))
          [.total (some "2d20"), .read "3x1d4", .total (some "hello"), .die 20] entry.2 :=
  ⟨rfl, (run_accounts _ rfl _).1 3 (by decide)⟩

example : ((start .strict (Script.ofFaces [4, 17])).after
    [.total (some "2d20"), .read "3x1d4", .total (some "hello"), .die 20]).total = some 21 := by
  decide

end TabletopDice.Session
