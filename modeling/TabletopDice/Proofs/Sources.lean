import TabletopDice.Proofs.History
import TabletopDice.Proofs.Requests

/-!
# Sessions — what a run asks of its source

A session asks its source for one die after the other: for all dice of a roll where it performs one,
and for a single die where it is asked for one.  So the source is always at a state that draws lead
to from the state at the beginning (`reaches_after`), and what every draw keeps, a run keeps
(`FaceSource.Reaches.keeps`).

A session over a recorder runs as the session over the recorded source does, and the record is what
can be told of the dice from the run itself: the faces in the outcomes and the single faces, in the
order of the steps (`shown`, `after_recording`).  How many they are is told by the steps alone
(`length_shown`): `performed` lists the rolls that steps perform.
-/

namespace TabletopDice

/-! ### States that draws lead to -/

namespace FaceSource

variable {σ : Type} [FaceSource σ]

/-- The states that dice of any kind lead to from `s`. -/
inductive Reaches (s : σ) : σ → Prop where
  | refl : Reaches s s
  | draw {t : σ} (sides : UInt32) : Reaches s t → Reaches s (FaceSource.draw sides t).2

/-- What every draw keeps holds of all states that draws lead to. -/
theorem Reaches.keeps {Inv : σ → Prop} (hdraw : ∀ sides s, Inv s → Inv (FaceSource.draw sides s).2)
    {s t : σ} (h : Reaches s t) (hs : Inv s) : Inv t := by
  induction h with
  | refl => exact hs
  | draw sides _ ih => exact hdraw sides _ ih

theorem Reaches.trans {s t u : σ} (hst : Reaches s t) (htu : Reaches t u) : Reaches s u :=
  htu.keeps (fun sides _ h => h.draw sides) hst

theorem reaches_drawMany (sides : UInt32) (n : Nat) (s : σ) :
    Reaches s (drawMany sides n s).2 := by
  induction n generalizing s with
  | zero => exact .refl
  | succ n ih =>
      rw [drawMany_succ]
      exact (Reaches.refl.draw sides).trans (ih _)

end FaceSource

open FaceSource

theorem Roll.reaches_perform {σ : Type} [FaceSource σ] (r : Roll) (s : σ) :
    Reaches s (r.perform s).2 := by
  rw [snd_perform, drawGroups_snd]
  exact reaches_drawMany _ _ s

namespace Session

/-! ### The rolls that steps perform -/

/-- The rolls that steps perform, in their order, where `roll` is the current one at first. -/
def performed (policy : Policy) (roll : Roll) : List Step → List Roll
  | [] => []
  | step :: steps =>
    let roll := (step.roll? policy).getD roll
    if step.performs policy then roll :: performed policy roll steps
    else performed policy roll steps

theorem performed_cons (policy : Policy) (roll : Roll) (step : Step) (steps : List Step) :
    performed policy roll (step :: steps) =
      (if step.performs policy then [(step.roll? policy).getD roll] else []) ++
        performed policy ((step.roll? policy).getD roll) steps := by
  rw [performed]
  split <;> rfl

/-- The current roll after a step and more steps. -/
theorem lastRoll?_cons_getD (policy : Policy) (roll : Roll) (step : Step) (steps : List Step) :
    (lastRoll? policy (step :: steps)).getD roll =
      (lastRoll? policy steps).getD ((step.roll? policy).getD roll) := by
  rw [lastRoll?, lastRoll?, List.filterMap_cons]
  cases step.roll? policy with
  | none => rfl
  | some r =>
      dsimp only
      rw [List.getLast?_cons, Option.getD_some, Option.getD_some]

theorem performed_append (policy : Policy) (roll : Roll) (steps more : List Step) :
    performed policy roll (steps ++ more) = performed policy roll steps ++
      performed policy ((lastRoll? policy steps).getD roll) more := by
  induction steps generalizing roll with
  | nil => rfl
  | cons step steps ih =>
      rw [List.cons_append, performed_cons, performed_cons, ih, lastRoll?_cons_getD,
        List.append_assoc]

variable {σ : Type}

/-! ### The dice of a step -/

/-- The dice that a step shows, with their sides, in order: those of the outcome after it, or the
single one that it answers. -/
def Step.dice (step : Step) (entry : Except Rejection Answer × Session σ) :
    List (UInt32 × UInt32) :=
  match step, entry.1 with
  | .die sides, .ok (.face face) => [(sides, face)]
  | .total _, .ok _ | .outcome _, .ok _ =>
    (entry.2.outcome.toList.flatMap fun o => o.groups.flatMap Group.faces).map fun face =>
      (entry.2.roll.sides.word, face)
  | _, _ => []

theorem Step.dice_of_error (step : Step) (rejection : Rejection) (s : Session σ) :
    step.dice (.error rejection, s) = [] := by
  cases step <;> rfl

variable [FaceSource σ]

/-! ### The source of a run -/

theorem Step.reaches_act (step : Step) (s : Session σ) :
    Reaches s.source (step.act s).2.source := by
  cases step with
  | read text => exact .refl
  | total text? => exact s.roll.reaches_perform s.source
  | outcome text? => exact s.roll.reaches_perform s.source
  | die sides => exact Reaches.refl.draw sides

theorem reaches_after (s : Session σ) (steps : List Step) :
    Reaches s.source (s.after steps).source := by
  induction steps generalizing s with
  | nil => exact .refl
  | cons step steps ih =>
      rw [after_cons]
      refine Reaches.trans ?_ (ih _)
      cases hr : step.rejection? s.settings.policy with
      | some rejection => rw [perform_of_rejection hr]; exact .refl
      | none => rw [perform_of_accepted hr]; exact step.reaches_act (step.enter s)

/-! ### The dice of a run -/

/-- The dice that a run shows, in order. -/
def shown (s : Session σ) (steps : List Step) : List (UInt32 × UInt32) :=
  (List.zipWith Step.dice steps (s.run steps)).flatten

theorem shown_cons (s : Session σ) (step : Step) (steps : List Step) :
    s.shown (step :: steps) =
      step.dice (s.perform step) ++ (s.perform step).2.shown steps := rfl

/-- A session over a recorder of its source, which has some dice on record. -/
def recording (s : Session σ) (dice : List (UInt32 × UInt32)) : Session (Recorder σ) :=
  ⟨s.settings, ⟨s.source, dice⟩, s.roll, s.outcome⟩

theorem Step.act_recording (step : Step) (s : Session σ) (dice : List (UInt32 × UInt32)) :
    step.act (s.recording dice) =
      ((step.act s).1, (step.act s).2.recording
        (dice ++ step.dice (.ok (step.act s).1, (step.act s).2))) := by
  have hperform := s.roll.perform_recorder ⟨s.source, dice⟩
  cases step with
  | read text => simp [act, recording, Step.dice]
  | total text? | outcome text? =>
      simp only [act, performRoll, recording, hperform, Step.dice, Option.toList_some,
        List.flatMap_singleton]
  | die sides => rfl

/-- A session over a recorder answers as the session itself, and has on record what is shown. -/
theorem perform_recording (step : Step) (s : Session σ) (dice : List (UInt32 × UInt32)) :
    (s.recording dice).perform step =
      ((s.perform step).1, (s.perform step).2.recording (dice ++ step.dice (s.perform step))) := by
  cases hr : step.rejection? s.settings.policy with
  | some rejection =>
      rw [perform_of_rejection hr, perform_of_rejection (s := s.recording dice) hr,
        Step.dice_of_error, List.append_nil]
  | none =>
      have henter : step.enter (s.recording dice) = (step.enter s).recording dice := rfl
      rw [perform_of_accepted hr, perform_of_accepted (s := s.recording dice) hr, henter,
        Step.act_recording]

theorem after_recording (s : Session σ) (dice : List (UInt32 × UInt32)) (steps : List Step) :
    (s.recording dice).after steps = (s.after steps).recording (dice ++ s.shown steps) := by
  induction steps generalizing s dice with
  | nil => rw [shown, List.zipWith_nil_left, List.flatten_nil, List.append_nil]; rfl
  | cons step steps ih =>
      rw [after_cons, perform_recording, ih, after_cons, shown_cons, List.append_assoc]

/-- Whether a step asks for a single die. -/
def Step.isDie : Step → Bool
  | .die _ => true
  | .read _ | .total _ | .outcome _ => false

/-- The dice of a step: one for a single die, and all dice of the roll where one is performed. -/
theorem Step.length_dice (step : Step) (s : Session σ) :
    (step.dice (s.perform step)).length = (if step.isDie then 1 else 0) +
      if step.performs s.settings.policy
      then ((step.roll? s.settings.policy).getD s.roll).repeats.toNat *
        ((step.roll? s.settings.policy).getD s.roll).dice.toNat
      else 0 := by
  cases hr : step.rejection? s.settings.policy with
  | some rejection =>
      have hdie : step.isDie = false := by
        cases step with
        | die sides => cases hr
        | read text | total text? | outcome text? => rfl
      rw [perform_of_rejection hr, dice_of_error, hdie, performs, hr]
      simp
  | none =>
      rw [perform_of_accepted hr, performs, hr]
      cases step with
      | read text => rfl
      | die sides => rfl
      | total text? | outcome text? =>
          simp only [act, performRoll, Step.dice, Option.toList_some, List.flatMap_singleton,
            List.length_map, Roll.length_flatMap_faces, isDie, asksToPerform, Bool.true_and,
            Option.isNone_none, if_true, Bool.false_eq_true, if_false, Nat.zero_add]
          rfl

/-- A run shows its single dice and the dice of the rolls that it performs. -/
theorem length_shown (s : Session σ) (steps : List Step) :
    (s.shown steps).length = steps.countP Step.isDie +
      ((performed s.settings.policy s.roll steps).map fun r =>
        r.repeats.toNat * r.dice.toNat).sum := by
  induction steps generalizing s with
  | nil => rfl
  | cons step steps ih =>
      rw [shown_cons, List.length_append, Step.length_dice, ih, settings_perform, roll_perform,
        performed_cons, List.countP_cons, List.map_append, List.sum_append]
      by_cases hp : step.performs s.settings.policy
      · rw [if_pos hp, if_pos hp, List.map_singleton, List.sum_singleton]
        omega
      · rw [if_neg hp, if_neg hp, List.map_nil, List.sum_nil]
        omega

end Session

end TabletopDice
