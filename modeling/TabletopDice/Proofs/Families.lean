import Mathlib.Logic.Equiv.Basic
import TabletopDice.Faces.Generator

/-!
# Generators — families whose members do not disturb each other

A step of a family moves one member on, and a fork puts a new member at the end
(`perform_of_member`).  No other member is touched.  So what a member shows in a run depends on its
own steps alone (`shownBy_eq`), and two steps on different members may be taken in either order,
with one exception: members are numbered as they come, so two forks in the other order number their
new members the other way round.

Numbers of members mean nothing else.  A run over a family that is numbered anew, with the steps
numbered alike, gives the same answers, numbered alike (`Renumbers.run`).  A renumbering moves none
of the numbers that are still to come, and so it lasts for the whole run.

**Members do not disturb each other** (`run_exchange`): wherever two neighbouring steps act on
different members that are both there, they can be exchanged; and a fork moves its own member on by
exactly eight words, which become the key of the new member.
-/

namespace TabletopDice.Generator

/-! ### Words -/

/-- Takes the next word. -/
def next (g : Generator) : UInt32 × Generator := (g.peek 0, g.advance 1)

/-- Takes the next `n` words, one after the other. -/
def take : Nat → Generator → List UInt32 × Generator
  | 0, g => ([], g)
  | n + 1, g => (g.next.1 :: (take n g.next.2).1, (take n g.next.2).2)

theorem peek_advance (g : Generator) (m n : Nat) : (g.advance m).peek n = g.peek (m + n) := by
  rw [peek, peek, advance, Nat.add_assoc]

theorem advance_advance (g : Generator) (m n : Nat) :
    (g.advance m).advance n = g.advance (m + n) := by
  rw [advance, advance, advance, Nat.add_assoc]

/-- The words that are taken are the next ones, and the position moves past them. -/
theorem take_eq (n : Nat) (g : Generator) :
    g.take n = (List.ofFn fun i : Fin n => g.peek i, g.advance n) := by
  induction n generalizing g with
  | zero => rfl
  | succ n ih =>
      rw [take, ih, next, advance_advance, Nat.add_comm 1 n, List.ofFn_succ]
      simp only [peek_advance, Nat.add_comm 1]
      rfl

/-- **A fork.**  The new generator is at the beginning of the keystream whose key are the next eight
words, and the old one is where it is after taking these words. -/
theorem fork_eq_take (g : Generator) :
    g.fork.1.key.toList = (g.take 8).1 ∧ g.fork.1.position = 0 ∧ g.fork.2 = (g.take 8).2 := by
  rw [take_eq]
  exact ⟨Vector.toList_ofFn, rfl, rfl⟩

/-- The faces that a generator shows in these steps when it is alone.  Where it is to fork, it skips
eight words. -/
def showsAlone (g : Generator) : List Family.Step → List UInt32
  | [] => []
  | .draw _ sides :: steps => (g.draw sides).1 :: (g.draw sides).2.showsAlone steps
  | .fork _ :: steps => (g.take 8).2.showsAlone steps

namespace Family

variable {family family' : Family} {step a b : Step} {g : Generator}

/-! ### One step -/

/-- The number of the member that a step acts on. -/
def Step.index : Step → Nat
  | .draw index _ | .fork index => index

/-- What a step on the member `g` of a family of `n` answers. -/
def Step.answer (n : Nat) (g : Generator) : Step → Answer
  | .draw _ sides => .face (g.draw sides).1
  | .fork _ => .member n

/-- The member `g` after a step on it. -/
def Step.moved (g : Generator) : Step → Generator
  | .draw _ sides => (g.draw sides).2
  | .fork _ => (g.take 8).2

/-- The members that a step on the member `g` adds. -/
def Step.added (g : Generator) : Step → List Generator
  | .draw _ _ => []
  | .fork _ => [g.fork.1]

/-- **One step.**  The member that it acts on moves, and what is added comes last. -/
theorem perform_of_member (h : family[step.index]? = some g) :
    family.perform step = (some (step.answer family.length g),
      family.set step.index (step.moved g) ++ step.added g) := by
  cases step with
  | draw index sides =>
      rw [Step.index] at h
      rw [perform, h]
      exact Prod.ext rfl (List.append_nil _).symm
  | fork index =>
      rw [Step.index] at h
      rw [perform, h, Step.moved, ← (fork_eq_take g).2.2]
      rfl

theorem perform_of_no_member (h : family[step.index]? = none) :
    family.perform step = (none, family) := by
  cases step with
  | draw index sides => rw [Step.index] at h; rw [perform, h]
  | fork index => rw [Step.index] at h; rw [perform, h]

/-- A step leaves the other members where they are. -/
theorem getElem?_perform_of_ne {i : Nat} (h : family[i]? = some g) (hi : step.index ≠ i) :
    (family.perform step).2[i]? = some g := by
  cases hstep : family[step.index]? with
  | none => rw [perform_of_no_member hstep]; exact h
  | some g' =>
      have hlt : i < family.length := (List.getElem?_eq_some_iff.mp h).1
      rw [perform_of_member hstep, List.getElem?_append_left (by rwa [List.length_set]),
        List.getElem?_set_ne hi, h]

/-- A step moves the member that it acts on. -/
theorem getElem?_perform_self (h : family[step.index]? = some g) :
    (family.perform step).2[step.index]? = some (step.moved g) := by
  have hlt : step.index < family.length := (List.getElem?_eq_some_iff.mp h).1
  rw [perform_of_member h, List.getElem?_append_left (by rwa [List.length_set]),
    List.getElem?_set_self hlt]

/-! ### Runs -/

theorem run_cons (family : Family) (step : Step) (steps : List Step) :
    family.run (step :: steps) = ((family.perform step).1 :: ((family.perform step).2.run steps).1,
      ((family.perform step).2.run steps).2) := rfl

theorem run_append (family : Family) (steps more : List Step) :
    family.run (steps ++ more) = ((family.run steps).1 ++ ((family.run steps).2.run more).1,
      ((family.run steps).2.run more).2) := by
  induction steps generalizing family with
  | nil => rfl
  | cons step steps ih => rw [List.cons_append, run_cons, ih, run_cons]; rfl

/-! ### One member alone -/

/-- The face that an answer tells, if it tells one. -/
def Answer.face? : Answer → Option UInt32
  | .face f => some f
  | .member _ => none

/-- The faces that member `i` shows in a run. -/
def shownBy (family : Family) (i : Nat) (steps : List Step) : List UInt32 :=
  (steps.zip (family.run steps).1).filterMap fun entry =>
    if entry.1.index = i then entry.2.bind Answer.face? else none

theorem shownBy_cons (family : Family) (i : Nat) (step : Step) (steps : List Step) :
    family.shownBy i (step :: steps) =
      (if step.index = i then (family.perform step).1.bind Answer.face? else none).toList ++
        (family.perform step).2.shownBy i steps := by
  rw [shownBy, run_cons, List.zip_cons_cons, List.filterMap_cons]
  split
  · rename_i hnone
    rw [hnone]
    rfl
  · rename_i face hface
    rw [hface]
    rfl

theorem showsAlone_cons (g : Generator) (n : Nat) (step : Step) (steps : List Step) :
    g.showsAlone (step :: steps) =
      (step.answer n g).face?.toList ++ (step.moved g).showsAlone steps := by
  cases step <;> rfl

/-- **One member alone.**  What a member shows in a run it shows alone, in its own steps. -/
theorem shownBy_eq {i : Nat} (h : family[i]? = some g) (steps : List Step) :
    family.shownBy i steps = g.showsAlone (steps.filter fun step => step.index = i) := by
  induction steps generalizing family g with
  | nil => rfl
  | cons step steps ih =>
      rw [shownBy_cons]
      by_cases hi : step.index = i
      · subst hi
        rw [if_pos rfl, List.filter_cons_of_pos (by simp), ih (getElem?_perform_self h),
          perform_of_member h, showsAlone_cons]
        rfl
      · rw [if_neg hi, List.filter_cons_of_neg (by simpa using hi),
          ih (getElem?_perform_of_ne h hi)]
        rfl

/-! ### Other numbers for the members -/

/-- The step on the member with the new number. -/
def Step.renamed (ρ : Equiv.Perm Nat) : Step → Step
  | .draw index sides => .draw (ρ index) sides
  | .fork index => .fork (ρ index)

/-- The answer with the new number. -/
def Answer.renamed (ρ : Equiv.Perm Nat) : Answer → Answer
  | .face f => .face f
  | .member index => .member (ρ index)

/-- `family'` has the members of `family` with new numbers, and the members that are still to come
keep their numbers. -/
structure Renumbers (ρ : Equiv.Perm Nat) (family family' : Family) : Prop where
  length : family'.length = family.length
  member : ∀ k, family'[ρ k]? = family[k]?
  later : ∀ k, family.length ≤ k → ρ k = k

theorem Step.index_renamed (ρ : Equiv.Perm Nat) (step : Step) :
    (step.renamed ρ).index = ρ step.index := by
  cases step <;> rfl

theorem Renumbers.refl (family : Family) : Renumbers (Equiv.refl Nat) family family :=
  ⟨rfl, fun _ => rfl, fun _ _ => rfl⟩

/-- A renumbering keeps apart the members that are there and those to come. -/
theorem Renumbers.lt_iff {ρ : Equiv.Perm Nat} (h : Renumbers ρ family family') (k : Nat) :
    ρ k < family.length ↔ k < family.length := by
  rw [← Nat.not_le, ← Nat.not_le, ← h.length, ← List.getElem?_eq_none_iff, h.member,
    List.getElem?_eq_none_iff, h.length]

/-- The member that moves may have another number. -/
theorem Renumbers.set {ρ : Equiv.Perm Nat} (h : Renumbers ρ family family') (i : Nat)
    (g : Generator) : Renumbers ρ (family.set i g) (family'.set (ρ i) g) where
  length := by rw [List.length_set, List.length_set, h.length]
  member k := by
    simp only [List.getElem?_set, h.member, h.length, h.lt_iff, ρ.injective.eq_iff]
  later k hk := h.later k (by rwa [List.length_set] at hk)

/-- New members come last under both numberings. -/
theorem Renumbers.append {ρ : Equiv.Perm Nat} (h : Renumbers ρ family family')
    (new : List Generator) : Renumbers ρ (family ++ new) (family' ++ new) where
  length := by rw [List.length_append, List.length_append, h.length]
  member k := by
    by_cases hk : k < family.length
    · rw [List.getElem?_append_left (by rwa [h.length, h.lt_iff]), List.getElem?_append_left hk,
        h.member]
    · have hle := Nat.le_of_not_lt hk
      rw [h.later k hle, List.getElem?_append_right (by rwa [h.length]),
        List.getElem?_append_right hle, h.length]
  later k hk := h.later k (by rw [List.length_append] at hk; omega)

/-- A step on a member with a new number gives the same answer, numbered alike. -/
theorem Renumbers.perform {ρ : Equiv.Perm Nat} (h : Renumbers ρ family family') (step : Step) :
    (family'.perform (step.renamed ρ)).1 = (family.perform step).1.map (Answer.renamed ρ) ∧
      Renumbers ρ (family.perform step).2 (family'.perform (step.renamed ρ)).2 := by
  have hmember := h.member step.index
  rw [← Step.index_renamed] at hmember
  cases hg : family[step.index]? with
  | none =>
      rw [hg] at hmember
      rw [perform_of_no_member hg, perform_of_no_member hmember]
      exact ⟨rfl, h⟩
  | some g =>
      rw [hg] at hmember
      rw [perform_of_member hg, perform_of_member hmember, Step.index_renamed]
      have hmoved : (step.renamed ρ).moved g = step.moved g := by cases step <;> rfl
      have hadded : (step.renamed ρ).added g = step.added g := by cases step <;> rfl
      rw [hmoved, hadded, h.length]
      refine ⟨?_, (h.set _ _).append _⟩
      cases step with
      | draw index sides => rfl
      | fork index =>
          show some (Answer.member family.length) = some (.member (ρ family.length))
          rw [h.later _ (Nat.le_refl _)]

/-- **Numbers mean nothing.**  Steps on members with new numbers give the same answers, numbered
alike. -/
theorem Renumbers.run {ρ : Equiv.Perm Nat} (h : Renumbers ρ family family') (steps : List Step) :
    (family'.run (steps.map (Step.renamed ρ))).1 =
        (family.run steps).1.map (Option.map (Answer.renamed ρ)) ∧
      Renumbers ρ (family.run steps).2 (family'.run (steps.map (Step.renamed ρ))).2 := by
  induction steps generalizing family family' with
  | nil => exact ⟨rfl, h⟩
  | cons step steps ih =>
      obtain ⟨hanswer, hstep⟩ := h.perform step
      obtain ⟨hanswers, hsteps⟩ := ih hstep
      rw [List.map_cons, run_cons, run_cons, List.map_cons, hanswer, hanswers]
      exact ⟨rfl, hsteps⟩

/-! ### Two steps on different members -/

/-- The steps act on different members, and both are there. -/
structure Apart (family : Family) (a b : Step) : Prop where
  first : a.index < family.length
  second : b.index < family.length
  ne : a.index ≠ b.index

/-- The numbers of the members when two steps on a family of `n` are exchanged: the new members of
two forks change places. -/
def exchanged (n : Nat) : Step → Step → Equiv.Perm Nat
  | .fork _, .fork _ => Equiv.swap n (n + 1)
  | _, _ => Equiv.refl Nat

/-- Two new members in the other order. -/
theorem renumbers_swap (family : Family) (x y : Generator) :
    Renumbers (Equiv.swap family.length (family.length + 1)) (family ++ [x, y])
      (family ++ [y, x]) where
  length := by rw [List.length_append, List.length_append]; rfl
  member k := by
    rcases Nat.lt_trichotomy k family.length with hk | rfl | hk
    · rw [Equiv.swap_apply_of_ne_of_ne (Nat.ne_of_lt hk) (by omega),
        List.getElem?_append_left hk, List.getElem?_append_left hk]
    · rw [Equiv.swap_apply_left, List.getElem?_append_right (Nat.le_add_right ..),
        List.getElem?_append_right (Nat.le_refl _), Nat.add_sub_cancel_left, Nat.sub_self]
      rfl
    · by_cases hk' : k = family.length + 1
      · subst hk'
        rw [Equiv.swap_apply_right, List.getElem?_append_right (Nat.le_refl _),
          List.getElem?_append_right (Nat.le_add_right ..), Nat.add_sub_cancel_left, Nat.sub_self]
        rfl
      -- there is no such member in either family
      · rw [Equiv.swap_apply_of_ne_of_ne (by omega) hk',
          List.getElem?_eq_none (by simp; omega), List.getElem?_eq_none (by simp; omega)]
  later k hk := by
    rw [List.length_append, List.length_cons, List.length_singleton] at hk
    exact Equiv.swap_apply_of_ne_of_ne (by omega) (by omega)

/-- The members that two steps add, in either order. -/
theorem renumbers_exchanged (family : Family) (a b : Step) (g g' : Generator) :
    Renumbers (exchanged family.length a b) (family ++ a.added g ++ b.added g')
      (family ++ b.added g' ++ a.added g) := by
  cases a with
  | draw index sides =>
      rw [Step.added, List.append_nil, List.append_nil]
      exact .refl _
  | fork index =>
      cases b with
      | draw index' sides =>
          rw [Step.added, List.append_nil, List.append_nil]
          exact .refl _
      | fork index' =>
          rw [List.append_assoc, List.append_assoc]
          exact renumbers_swap family _ _

/-- What two steps answer, in either order. -/
theorem Step.answer_exchanged (n : Nat) (a b : Step) (g g' : Generator) :
    (a.answer n g).renamed (exchanged n a b) = a.answer (n + (b.added g').length) g ∧
      (b.answer (n + (a.added g).length) g').renamed (exchanged n a b) = b.answer n g' := by
  cases a with
  | draw index sides => cases b <;> exact ⟨rfl, rfl⟩
  | fork index =>
      cases b with
      | draw index' sides => exact ⟨rfl, rfl⟩
      | fork index' =>
          exact ⟨congrArg Answer.member (Equiv.swap_apply_left n (n + 1)),
            congrArg Answer.member (Equiv.swap_apply_right n (n + 1))⟩

/-- Two steps on different members that are both there: what they answer, and the family after
them. -/
theorem perform_perform (h : Apart family a b) {g' : Generator}
    (hg : family[a.index]? = some g) (hg' : family[b.index]? = some g') :
    (family.perform a).1 = some (a.answer family.length g) ∧
    ((family.perform a).2.perform b).1 =
      some (b.answer (family.length + (a.added g).length) g') ∧
    ((family.perform a).2.perform b).2 =
      (family.set a.index (a.moved g)).set b.index (b.moved g') ++ a.added g ++ b.added g' := by
  have hlater := getElem?_perform_of_ne hg' h.ne
  rw [perform_of_member hlater, perform_of_member hg, List.length_append, List.length_set,
    List.set_append_left _ _ (by rw [List.length_set]; exact h.second)]
  exact ⟨rfl, rfl, rfl⟩

/-- **Two steps exchanged.**  Each of them answers the same in either order, and so does every step
after them, up to the numbers of the members that two forks add. -/
theorem run_swapped (h : Apart family a b) (steps : List Step) : ∃ answer answer' answers,
    (family.run (a :: b :: steps)).1 = some answer :: some answer' :: answers ∧
    (family.run (b :: a :: steps.map (Step.renamed (exchanged family.length a b)))).1 =
      some (answer'.renamed (exchanged family.length a b)) ::
        some (answer.renamed (exchanged family.length a b)) ::
        answers.map (Option.map (Answer.renamed (exchanged family.length a b))) ∧
    Renumbers (exchanged family.length a b) (family.run (a :: b :: steps)).2
      (family.run (b :: a :: steps.map (Step.renamed (exchanged family.length a b)))).2 := by
  obtain ⟨g, hg⟩ : ∃ g, family[a.index]? = some g := ⟨_, List.getElem?_eq_getElem h.first⟩
  obtain ⟨g', hg'⟩ : ∃ g', family[b.index]? = some g' := ⟨_, List.getElem?_eq_getElem h.second⟩
  obtain ⟨hfirst, hsecond, hafter⟩ := perform_perform h hg hg'
  obtain ⟨hfirst', hsecond', hafter'⟩ := perform_perform ⟨h.second, h.first, h.ne.symm⟩ hg' hg
  obtain ⟨hanswer, hanswer'⟩ := Step.answer_exchanged family.length a b g g'
  -- the members that were there end up alike, and only those that are added differ in their order
  have hfamilies := renumbers_exchanged
    ((family.set a.index (a.moved g)).set b.index (b.moved g')) a b g g'
  rw [List.length_set, List.length_set, ← hafter, List.set_comm _ _ h.ne, ← hafter'] at hfamilies
  obtain ⟨hanswers, hend⟩ := hfamilies.run steps
  refine ⟨a.answer family.length g, b.answer (family.length + (a.added g).length) g',
    (((family.perform a).2.perform b).2.run steps).1, ?_, ?_, hend⟩
  · rw [run_cons, run_cons, hfirst, hsecond]
  · rw [run_cons, run_cons, hfirst', hsecond', hanswer, hanswer', hanswers]

/-- **Members do not disturb each other.**  Wherever two neighbouring steps of a run act on
different members that are both there, they can be exchanged: every step of the run answers the
same, up to the numbers of the two new members if both steps are forks.

What a member shows from any point of a run on depends on its own steps alone.  A fork takes the
next eight words of its member, whatever the position is, as the key of a new one, and so the member
shows what it would show after skipping them. -/
theorem run_exchange (family : Family) (before : List Step) :
    let now := (family.run before).2
    (∀ a b after, Apart now a b →
      let ρ := exchanged now.length a b
      (∃ answer answer' answers,
        (family.run (before ++ a :: b :: after)).1 =
          (family.run before).1 ++ some answer :: some answer' :: answers ∧
        (family.run (before ++ b :: a :: after.map (Step.renamed ρ))).1 =
          (family.run before).1 ++ some (answer'.renamed ρ) :: some (answer.renamed ρ) ::
            answers.map (Option.map (Answer.renamed ρ))) ∧
      Renumbers ρ (family.run (before ++ a :: b :: after)).2
        (family.run (before ++ b :: a :: after.map (Step.renamed ρ))).2) ∧
    ∀ i g, now[i]? = some g →
      (∀ steps, now.shownBy i steps = g.showsAlone (steps.filter fun step => step.index = i)) ∧
      (∃ new, now.perform (.fork i) =
          (some (.member now.length), now.set i (g.take 8).2 ++ [new]) ∧
        new.key.toList = (g.take 8).1 ∧ new.position = 0) ∧
      g.take 8 = (List.ofFn fun i : Fin 8 => g.key.word (g.position + i),
        ⟨g.key, g.position + 8⟩) := by
  intro now
  constructor
  · intro a b after h ρ
    obtain ⟨answer, answer', answers, hrun, hrun', hend⟩ := run_swapped h after
    rw [run_append, run_append, hrun, hrun']
    exact ⟨⟨answer, answer', answers, rfl, rfl⟩, hend⟩
  · intro i g hg
    have hparent : now[(Step.fork i).index]? = some g := hg
    obtain ⟨hkey, hposition, -⟩ := fork_eq_take g
    exact ⟨shownBy_eq hg, ⟨g.fork.1, perform_of_member hparent, hkey, hposition⟩, take_eq 8 g⟩

/-- Two forks are exchanged, after a fork that went on from one block into the next. -/
theorem run_exchange_forks :
    let start : Family := [(ofSeed 7).advance 12]
    let before : List Step := [.fork 0]
    let after : List Step := [.draw 2 20, .fork 3, .draw 0 20]
    let ρ := Equiv.swap 2 3
    Apart (start.run before).2 (.fork 0) (.fork 1) ∧
    (∃ answer answer' answers,
      (start.run (before ++ .fork 0 :: .fork 1 :: after)).1 =
        (start.run before).1 ++ some answer :: some answer' :: answers ∧
      (start.run (before ++ .fork 1 :: .fork 0 :: after.map (Step.renamed ρ))).1 =
        (start.run before).1 ++ some (answer'.renamed ρ) :: some (answer.renamed ρ) ::
          answers.map (Option.map (Answer.renamed ρ))) ∧
    (start.run before).2[0]? = some ((ofSeed 7).advance 20) ∧
    (start.run before).2.shownBy 0 [.fork 0, .draw 1 6, .draw 0 20] =
      (((ofSeed 7).advance 20).take 8).2.showsAlone [.draw 0 20] := by
  intro start before after ρ
  have happart : Apart (start.run before).2 (.fork 0) (.fork 1) :=
    ⟨by decide, by decide, by decide⟩
  have hmember : (start.run before).2[0]? = some ((ofSeed 7).advance 20) := rfl
  obtain ⟨hexchange, hmembers⟩ := run_exchange start before
  obtain ⟨hrun, -⟩ := hexchange (.fork 0) (.fork 1) after happart
  exact ⟨happart, hrun, hmember, (hmembers 0 _ hmember).1 _⟩

end Family

end TabletopDice.Generator
