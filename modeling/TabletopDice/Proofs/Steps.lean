import TabletopDice.Session

/-!
# Sessions — one step

A step that gives a text first makes the roll of that text the current one, and then acts on the
current roll: it answers the roll, or performs it, or draws a die.  Only the first part can be
rejected, and then there is no second one (`perform_eq`).

Each part of a session changes in one way only.  The settings stay, the roll changes where a text is
accepted (`roll_perform`), and the outcome where a roll is performed (`outcome_perform`).
-/

namespace TabletopDice.Session

/-! ### What a step asks for -/

/-- The text that a step gives to read, if it gives one. -/
def Step.text? : Step → Option String
  | .read text => some text
  | .total text? | .outcome text? => text?
  | .die _ => none

/-- The reading of the text of a step under a policy. -/
def Step.reading? (policy : Policy) (step : Step) : Option (Except Rejection Interpretation) :=
  step.text?.map (interpretUnder policy)

/-- The roll that a step reads, where it gives a text and the text is accepted. -/
def Step.roll? (policy : Policy) (step : Step) : Option Roll :=
  match step.reading? policy with
  | some (.ok i) => some i.roll
  | _ => none

/-- The rejection of a step, where it gives a text and the text is rejected. -/
def Step.rejection? (policy : Policy) (step : Step) : Option Rejection :=
  match step.reading? policy with
  | some (.error rejection) => some rejection
  | _ => none

/-- Whether a step performs a roll, if it is not rejected. -/
def Step.asksToPerform : Step → Bool
  | .total _ | .outcome _ => true
  | .read _ | .die _ => false

/-- Whether a step performs a roll under a policy. -/
def Step.performs (policy : Policy) (step : Step) : Bool :=
  step.asksToPerform && (step.rejection? policy).isNone

variable {σ : Type} [FaceSource σ]

/-- What a step does once its text is read. -/
def Step.act (step : Step) (s : Session σ) : Answer × Session σ :=
  match step with
  | .read _ => (.roll s.roll, s)
  | .total _ => (.total s.performRoll.1.total, s.performRoll.2)
  | .outcome _ => (.outcome s.performRoll.1, s.performRoll.2)
  | .die sides => (.face (s.drawDie sides).1, (s.drawDie sides).2)

theorem Step.settings_act (step : Step) (s : Session σ) :
    (step.act s).2.settings = s.settings := by
  cases step <;> rfl

theorem Step.roll_act (step : Step) (s : Session σ) : (step.act s).2.roll = s.roll := by
  cases step <;> rfl

theorem Step.outcome_act (step : Step) (s : Session σ) : (step.act s).2.outcome =
    if step.asksToPerform then some (s.roll.perform s.source).1 else s.outcome := by
  cases step <;> rfl

theorem Step.roll?_of_rejection {policy : Policy} {step : Step} {rejection : Rejection}
    (h : step.rejection? policy = some rejection) : step.roll? policy = none := by
  rw [rejection?] at h
  rw [roll?]
  split at h
  · rename_i hreading
    rw [hreading]
  · cases h

/-- The session in which a step acts: the roll that it reads, if it reads one, is current. -/
def Step.enter (step : Step) (s : Session σ) : Session σ :=
  { s with roll := (step.roll? s.settings.policy).getD s.roll }

/-- **One step.**  Either it is rejected and nothing changes, or its roll, if it reads one, becomes
the current one and it acts. -/
theorem perform_eq (step : Step) (s : Session σ) : s.perform step =
    match step.rejection? s.settings.policy with
    | some rejection => (.error rejection, s)
    | none => (.ok (step.act (step.enter s)).1, (step.act (step.enter s)).2) := by
  have hread : ∀ text, s.read text = match interpretUnder s.settings.policy text with
      | .ok i => .ok { s with roll := i.roll }
      | .error rejection => .error rejection := fun text => by
    rw [read]
    cases interpretUnder s.settings.policy text <;> rfl
  cases step with
  | read text =>
      simp only [perform, attempt, hread, Step.enter, Step.roll?, Step.rejection?, Step.reading?,
        Step.text?, Option.map_some]
      cases interpretUnder s.settings.policy text <;> rfl
  | total text? | outcome text? =>
      cases text? with
      | none => rfl
      | some text =>
          simp only [perform, attempt, readOr, hread, Step.enter, Step.roll?, Step.rejection?,
            Step.reading?, Step.text?, Option.map_some]
          cases interpretUnder s.settings.policy text <;> rfl
  | die sides => rfl

/-! ### What a step changes -/

theorem perform_of_rejection {step : Step} {s : Session σ} {rejection : Rejection}
    (h : step.rejection? s.settings.policy = some rejection) :
    s.perform step = (.error rejection, s) := by
  rw [perform_eq, h]

theorem perform_of_accepted {step : Step} {s : Session σ}
    (h : step.rejection? s.settings.policy = none) :
    s.perform step = (.ok (step.act (step.enter s)).1, (step.act (step.enter s)).2) := by
  rw [perform_eq, h]

theorem settings_perform (step : Step) (s : Session σ) :
    (s.perform step).2.settings = s.settings := by
  cases hr : step.rejection? s.settings.policy with
  | some rejection => rw [perform_of_rejection hr]
  | none => rw [perform_of_accepted hr, Step.settings_act, Step.enter]

/-- The roll changes to the one that is read, and only where one is read. -/
theorem roll_perform (step : Step) (s : Session σ) :
    (s.perform step).2.roll = (step.roll? s.settings.policy).getD s.roll := by
  cases hr : step.rejection? s.settings.policy with
  | some rejection => rw [perform_of_rejection hr, Step.roll?_of_rejection hr, Option.getD_none]
  | none => rw [perform_of_accepted hr, Step.roll_act, Step.enter]

/-- The outcome of a step that performs a roll. -/
def Step.outcomeOn (step : Step) (s : Session σ) : Outcome :=
  (((step.roll? s.settings.policy).getD s.roll).perform s.source).1

/-- The outcome changes to the one of the roll that is performed, and only where one is. -/
theorem outcome_perform (step : Step) (s : Session σ) : (s.perform step).2.outcome =
    if step.performs s.settings.policy then some (step.outcomeOn s) else s.outcome := by
  cases hr : step.rejection? s.settings.policy with
  | some rejection => simp [perform_of_rejection hr, Step.performs, hr]
  | none =>
      simp only [perform_of_accepted hr, Step.outcome_act, Step.performs, hr, Option.isNone_none,
        Bool.and_true]
      rfl

/-! ### What a step answers -/

/-- The total that an answer tells, if it tells one. -/
def Answer.total? : Answer → Option Amount
  | .total t => some t
  | .outcome o => some o.total
  | .roll _ | .face _ => none

/-- A step tells a total where it performs a roll, and then the total of its outcome. -/
theorem total?_perform (step : Step) (s : Session σ) :
    (s.perform step).1.toOption.bind Answer.total? =
      if step.performs s.settings.policy then some (step.outcomeOn s).total else none := by
  cases hr : step.rejection? s.settings.policy with
  | some rejection =>
      simp [perform_of_rejection hr, Step.performs, hr, Except.toOption]
  | none =>
      simp only [perform_of_accepted hr, Step.performs, hr, Option.isNone_none, Bool.and_true]
      cases step <;> rfl

end TabletopDice.Session
