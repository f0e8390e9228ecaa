import TabletopDice.Proofs.DieLetter
import TabletopDice.Proofs.History

/-!
# Sessions — what the strict policy changes

Two sessions that differ in their policy alone take the same steps alike, up to a text that holds
no expression: the strict one rejects it, before anything is drawn or replaced, and the lenient one
takes the standard roll.  A text holds an expression if and only if it has a `d`
(`interpret?_eq_none_iff`), so the rejected steps can be told from their texts
(`Step.isReadable`).

**The strict policy only leaves out steps** (`strict_run_omits`).  A strict run rejects the steps
that are not readable and stays as it was; what remains of it is the lenient run of the readable
steps, answer by answer and session by session.  A lenient run rejects nothing.

A single step is the same under both policies when it is readable (`perform_under_of_readable`); the
run follows by induction on its steps, from any session.
-/

namespace TabletopDice

/-! ### Texts with an expression -/

/-- Whether a text has a `d`, of either case. -/
def hasDie (text : String) : Bool := 'd' ∈ text.toList || 'D' ∈ text.toList

theorem hasDie_eq_false {text : String} :
    hasDie text = false ↔ 'd' ∉ text.toList ∧ 'D' ∉ text.toList := by
  rw [hasDie, Bool.or_eq_false_iff, decide_eq_false_iff_not, decide_eq_false_iff_not]

theorem interpret?_eq_none_iff {text : String} : interpret? text = none ↔ hasDie text = false := by
  rw [interpret?, Option.map_eq_none_iff, Expression.find?_eq_none_iff_forall,
    Expression.forall_not_isDie_iff, hasDie_eq_false]

/-- A text with an expression has one reading, whatever the policy is. -/
theorem interpretUnder_of_hasDie {text : String} (h : hasDie text) (policy : Policy) :
    interpretUnder policy text = .ok (interpret text) := by
  cases policy with
  | lenient => rfl
  | strict =>
      rw [interpretUnder, interpret]
      cases hi : interpret? text with
      | some i => rfl
      | none =>
          rw [interpret?_eq_none_iff.mp hi] at h
          cases h

theorem interpretUnder_strict_of_not_hasDie {text : String} (h : hasDie text = false) :
    interpretUnder .strict text = .error (.noExpression text) := by
  rw [interpretUnder, interpret?_eq_none_iff.mpr h]

namespace Session

variable {σ : Type}

/-! ### Steps with a readable text -/

/-- Whether a step can be taken under every policy: it gives no text, or one with a `d`. -/
def Step.isReadable (step : Step) : Bool := step.text?.all hasDie

theorem Step.rejection?_of_readable {step : Step} (h : step.isReadable) (policy : Policy) :
    step.rejection? policy = none := by
  rw [rejection?, reading?]
  cases ht : step.text? with
  | none => rfl
  | some text =>
      rw [isReadable, ht, Option.all_some] at h
      rw [Option.map_some, interpretUnder_of_hasDie h]

theorem Step.roll?_of_readable {step : Step} (h : step.isReadable) (policy policy' : Policy) :
    step.roll? policy = step.roll? policy' := by
  rw [roll?, roll?, reading?, reading?]
  cases ht : step.text? with
  | none => rfl
  | some text =>
      rw [isReadable, ht, Option.all_some] at h
      rw [Option.map_some, Option.map_some, interpretUnder_of_hasDie h, interpretUnder_of_hasDie h]

theorem Step.rejection?_lenient (step : Step) : step.rejection? .lenient = none := by
  rw [rejection?, reading?]
  cases step.text? with
  | none => rfl
  | some text => rfl

theorem Step.rejection?_strict (step : Step) : step.rejection? .strict =
    (step.text?.filter fun text => !hasDie text).map .noExpression := by
  rw [rejection?, reading?]
  cases step.text? with
  | none => rfl
  | some text =>
      rw [Option.map_some, Option.filter_some]
      cases ht : hasDie text with
      | true => rw [interpretUnder_of_hasDie ht]; rfl
      | false => rw [interpretUnder_strict_of_not_hasDie ht]; rfl

/-- The strict policy rejects the texts without a `d`, and names them. -/
theorem Step.rejection?_strict_iff {step : Step} {rejection : Rejection} :
    step.rejection? .strict = some rejection ↔ ∃ text, step.text? = some text ∧
      'd' ∉ text.toList ∧ 'D' ∉ text.toList ∧ rejection = .noExpression text := by
  rw [rejection?_strict, Option.map_eq_some_iff]
  constructor
  · rintro ⟨text, htext, rfl⟩
    obtain ⟨ht, hno⟩ := Option.filter_eq_some_iff.mp htext
    rw [Bool.not_eq_true', hasDie_eq_false] at hno
    exact ⟨text, ht, hno.1, hno.2, rfl⟩
  · rintro ⟨text, ht, hd, hD, rfl⟩
    refine ⟨text, Option.filter_eq_some_iff.mpr ⟨ht, ?_⟩, rfl⟩
    rw [Bool.not_eq_true', hasDie_eq_false]
    exact ⟨hd, hD⟩

/-! ### One step under two policies -/

/-- A session with another policy. -/
def under (policy : Policy) (s : Session σ) : Session σ :=
  { s with settings := { s.settings with policy := policy } }

@[simp] theorem policy_under (policy : Policy) (s : Session σ) :
    (s.under policy).settings.policy = policy := rfl

@[simp] theorem under_under (policy policy' : Policy) (s : Session σ) :
    (s.under policy).under policy' = s.under policy' := rfl

theorem under_self {policy : Policy} {s : Session σ} (h : s.settings.policy = policy) :
    s.under policy = s := by
  subst h
  rfl

variable [FaceSource σ]

theorem Step.act_under (step : Step) (policy : Policy) (s : Session σ) :
    step.act (s.under policy) = ((step.act s).1, (step.act s).2.under policy) := by
  cases step <;> rfl

/-- A step keeps the policy. -/
theorem snd_perform_under (step : Step) (policy : Policy) (s : Session σ) :
    ((s.under policy).perform step).2.under policy = ((s.under policy).perform step).2 :=
  under_self (by rw [settings_perform, policy_under])

/-- A readable step does the same under every policy. -/
theorem perform_under_of_readable {step : Step} (h : step.isReadable) (policy policy' : Policy)
    (s : Session σ) : (s.under policy).perform step =
      (((s.under policy').perform step).1, ((s.under policy').perform step).2.under policy) := by
  have henter : ∀ policy, step.enter (s.under policy) =
      ({ s with roll := (step.roll? .lenient).getD s.roll } : Session σ).under policy := by
    intro policy
    rw [Step.enter, policy_under, Step.roll?_of_readable h policy .lenient]
    rfl
  rw [perform_of_accepted (Step.rejection?_of_readable h _),
    perform_of_accepted (Step.rejection?_of_readable h _), henter, henter, Step.act_under,
    Step.act_under, under_under]

/-- A strict session rejects a step that is not readable, and stays as it was. -/
theorem perform_strict_of_not_readable {step : Step} (h : step.isReadable = false)
    (s : Session σ) : ∃ rejection,
      (s.under .strict).perform step = (.error rejection, s.under .strict) := by
  cases ht : step.text? with
  | none => rw [Step.isReadable, ht] at h; cases h
  | some text =>
      rw [Step.isReadable, ht, Option.all_some, hasDie_eq_false] at h
      have hr : step.rejection? .strict = some (.noExpression text) :=
        Step.rejection?_strict_iff.mpr ⟨text, ht, h.1, h.2, rfl⟩
      exact ⟨_, perform_of_rejection hr⟩

/-- What a step answers is an error where the step has a rejection. -/
theorem fst_perform_eq_error_iff {step : Step} {s : Session σ} {rejection : Rejection} :
    (s.perform step).1 = .error rejection ↔
      step.rejection? s.settings.policy = some rejection := by
  cases hr : step.rejection? s.settings.policy with
  | none =>
      rw [perform_of_accepted hr]
      exact ⟨fun h => (nomatch h), fun h => (nomatch h)⟩
  | some r =>
      rw [perform_of_rejection hr]
      exact ⟨fun h => by cases h; rfl, fun h => by cases h; rfl⟩

theorem snd_perform_of_error {step : Step} {s : Session σ} {rejection : Rejection}
    (h : (s.perform step).1 = .error rejection) : (s.perform step).2 = s := by
  rw [perform_of_rejection (fst_perform_eq_error_iff.mp h)]

/-! ### Runs -/

/-- What a lenient session answers is no error. -/
theorem exists_answer_of_lenient {s : Session σ} (hs : s.settings.policy = .lenient)
    (step : Step) : ∃ answer, (s.perform step).1 = .ok answer := by
  have hr : step.rejection? s.settings.policy = none := by rw [hs, Step.rejection?_lenient]
  rw [perform_of_accepted hr]
  exact ⟨_, rfl⟩

theorem run_ok_of_lenient {s : Session σ} (hs : s.settings.policy = .lenient)
    (steps : List Step) : ∀ entry ∈ s.run steps, ∃ answer, entry.1 = .ok answer := by
  induction steps generalizing s with
  | nil => intro entry h; cases h
  | cons step steps ih =>
      intro entry h
      rcases List.mem_cons.mp h with rfl | h
      · exact exists_answer_of_lenient hs step
      · have hs' : (s.perform step).2.settings.policy = .lenient := by rw [settings_perform, hs]
        exact ih hs' entry h

/-- A recorded step of a run, as it stands in the run under another policy. -/
def entryUnder (policy : Policy) (entry : Except Rejection Answer × Session σ) :
    Except Rejection Answer × Session σ :=
  (entry.1, entry.2.under policy)

/-- What a strict run accepts is the lenient run of the readable steps. -/
theorem accepted_run_strict (s : Session σ) (steps : List Step) :
    (((s.under .strict).run steps).filter (·.1.isOk)).map (entryUnder .lenient) =
      (s.under .lenient).run (steps.filter Step.isReadable) := by
  induction steps generalizing s with
  | nil => rfl
  | cons step steps ih =>
      rw [run]
      cases hr : step.isReadable with
      | true =>
          obtain ⟨answer, hanswer⟩ := exists_answer_of_lenient (s := s.under .lenient) rfl step
          rw [perform_under_of_readable hr .strict .lenient,
            List.filter_cons_of_pos (by rw [hanswer]; rfl), List.map_cons, ih,
            snd_perform_under, List.filter_cons_of_pos hr, run, entryUnder, under_under,
            snd_perform_under]
      | false =>
          obtain ⟨rejection, hperform⟩ := perform_strict_of_not_readable hr s
          rw [hperform, List.filter_cons_of_neg (by simp [Except.isOk, Except.toBool]), ih,
            List.filter_cons_of_neg (by simp [hr])]

theorem after_strict (s : Session σ) (steps : List Step) :
    ((s.under .strict).after steps).under .lenient =
      (s.under .lenient).after (steps.filter Step.isReadable) := by
  induction steps generalizing s with
  | nil => rfl
  | cons step steps ih =>
      rw [after_cons]
      cases hr : step.isReadable with
      | true =>
          rw [perform_under_of_readable hr .strict .lenient, ih, snd_perform_under,
            List.filter_cons_of_pos hr, after_cons]
      | false =>
          obtain ⟨rejection, hperform⟩ := perform_strict_of_not_readable hr s
          rw [hperform, ih, List.filter_cons_of_neg (by simp [hr])]

/-- **The strict policy only leaves out steps.**  Of two sessions that differ in their policy alone,
the strict one rejects those steps that give a text without a `d`, names that text, and stays as it
was; the other steps of its run answer and lead to what they do in the lenient run without the
rejected ones, and both runs end alike.  The lenient one rejects no step at all. -/
theorem strict_run_omits (s : Session σ) (steps : List Step) :
    (∀ k step, steps[k]? = some step → ∃ entry, ((s.under .strict).run steps)[k]? = some entry ∧
      ∀ rejection, (entry.1 = .error rejection ↔ ∃ text, step.text? = some text ∧
          'd' ∉ text.toList ∧ 'D' ∉ text.toList ∧ rejection = .noExpression text) ∧
        (entry.1 = .error rejection → entry.2 = (s.under .strict).after (steps.take k))) ∧
    (((s.under .strict).run steps).filter (·.1.isOk)).map (entryUnder .lenient) =
      (s.under .lenient).run (steps.filter Step.isReadable) ∧
    ((s.under .strict).after steps).under .lenient =
      (s.under .lenient).after (steps.filter Step.isReadable) ∧
    ∀ entry ∈ (s.under .lenient).run steps, ∃ answer, entry.1 = .ok answer := by
  refine ⟨fun k step hstep => ?_, accepted_run_strict s steps, after_strict s steps,
    run_ok_of_lenient rfl steps⟩
  refine ⟨((s.under .strict).after (steps.take k)).perform step, ?_, fun rejection => ⟨?_, ?_⟩⟩
  · rw [getElem?_run, hstep, Option.map_some]
  · rw [fst_perform_eq_error_iff, settings_after, policy_under, Step.rejection?_strict_iff]
  · intro h
    exact snd_perform_of_error h

/-- The rejected reading leaves the roll and the script for the die after it. -/
example : ((((start .standard (Script.ofFaces [4, 17])).under .strict).run
    [.read "3d4", .outcome (some "hello"), .die 20]).map fun entry => entry.1) =
      [.ok (.roll (interpret "3d4").roll), .error (.noExpression "hello"), .ok (.face 4)] := by
  decide

end Session

end TabletopDice
