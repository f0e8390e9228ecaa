import TabletopDice.Proofs.TotalRange

/-!
# Draws — what a performance asks of its source

A source sees requests for one die after the other and nothing of the roll they belong to.  A
`Recorder` writes down each request with its answer and is otherwise the source that it wraps
(`drawMany_recorder`), so what a performance asks for is what a recorder has on record after it.

**Every die is accounted for** (`perform_accounts_for_dice`).  A performance asks for as many dice
as its groups have together, each with the sides of its roll; it leaves the source where as many
direct draws leave it, and the groups of its outcome, laid end to end, are the faces shown, in their
order.
-/

namespace TabletopDice

open FaceSource

/-! ### Recorders -/

/-- A source that writes down what it is asked for and what it answers. -/
@[ext] structure Recorder (σ : Type) where
  source : σ
  /-- The sides of each die so far and the face that it showed, in order. -/
  dice : List (UInt32 × UInt32)

variable {σ : Type} [FaceSource σ]

instance : FaceSource (Recorder σ) where
  draw sides t :=
    ((draw sides t.source).1,
      ⟨(draw sides t.source).2, t.dice ++ [(sides, (draw sides t.source).1)]⟩)

theorem draw_recorder (sides : UInt32) (t : Recorder σ) : draw sides t =
    ((draw sides t.source).1,
      ⟨(draw sides t.source).2, t.dice ++ [(sides, (draw sides t.source).1)]⟩) := rfl

/-- A recorder answers as its source does, and has every answer on record. -/
theorem drawMany_recorder (sides : UInt32) (n : Nat) (t : Recorder σ) : drawMany sides n t =
    ((drawMany sides n t.source).1, ⟨(drawMany sides n t.source).2,
      t.dice ++ (drawMany sides n t.source).1.map fun face => (sides, face)⟩) := by
  induction n generalizing t with
  | zero => simp
  | succ n ih =>
      rw [drawMany_succ, draw_recorder, ih, drawMany_succ]
      simp only [List.map_cons, List.append_assoc, List.singleton_append]

theorem drawGroups_recorder (sides : UInt32) (dice n : Nat) (t : Recorder σ) :
    drawGroups sides dice n t =
      ((drawGroups sides dice n t.source).1, ⟨(drawGroups sides dice n t.source).2,
        t.dice ++ (drawGroups sides dice n t.source).1.flatten.map fun face => (sides, face)⟩) := by
  induction n generalizing t with
  | zero => simp
  | succ n ih =>
      rw [drawGroups_succ, drawMany_recorder, ih, drawGroups_succ]
      simp only [List.flatten_cons, List.map_append, List.append_assoc]

namespace Roll

/-! ### The outcome of a performance -/

theorem snd_perform (r : Roll) (s : σ) :
    (r.perform s).2 = (drawGroups r.sides.word r.dice.toNat r.repeats.toNat s).2 := rfl

theorem perform_recorder (r : Roll) (t : Recorder σ) : r.perform t =
    ((r.perform t.source).1, ⟨(r.perform t.source).2,
      t.dice ++ ((r.perform t.source).1.groups.flatMap Group.faces).map
        fun face => (r.sides.word, face)⟩) := by
  rw [flatMap_faces_perform, rolled]
  show (r.outcome (drawGroups _ _ _ t).1, (drawGroups _ _ _ t).2) = _
  rw [drawGroups_recorder]
  rfl

/-- Every group of an outcome has its full number of dice and the modifier of the roll. -/
theorem group_of_mem_perform {r : Roll} {s : σ} {g : Group} (h : g ∈ (r.perform s).1.groups) :
    g.faces.length = r.dice.toNat ∧ g.modifier = r.modifier := by
  rw [groups_perform] at h
  obtain ⟨faces, hf, rfl⟩ := List.mem_map.mp h
  exact ⟨length_of_mem_drawGroups hf, rfl⟩

/-- **Every die is accounted for.**  A performance asks its source for the dice of every repetition,
each with the sides of the roll, and leaves it where so many direct draws leave it.  Its outcome has
the groups of the roll, full and with its modifier; laid end to end they are the faces that the
source answered, in order; and the excerpt and the ranges are those of the roll. -/
theorem perform_accounts_for_dice (r : Roll) (s : σ) :
    -- what a recorder has on record, and that it does not change the outcome
    ((r.perform (⟨s, []⟩ : Recorder σ)).1 = (r.perform s).1 ∧
      (r.perform (⟨s, []⟩ : Recorder σ)).2.source = (r.perform s).2 ∧
      (r.perform (⟨s, []⟩ : Recorder σ)).2.dice.map Prod.fst =
        List.replicate (r.repeats.toNat * r.dice.toNat) r.sides.word ∧
      (r.perform (⟨s, []⟩ : Recorder σ)).2.dice.map Prod.snd =
        (r.perform s).1.groups.flatMap Group.faces) ∧
    -- the same dice, drawn directly
    (r.perform s).1.groups.flatMap Group.faces =
      (drawMany r.sides.word (r.repeats.toNat * r.dice.toNat) s).1 ∧
    (r.perform s).2 = (drawMany r.sides.word (r.repeats.toNat * r.dice.toNat) s).2 ∧
    -- the groups
    (r.perform s).1.groups.length = r.repeats.toNat ∧
    (∀ g ∈ (r.perform s).1.groups, g.faces.length = r.dice.toNat ∧ g.modifier = r.modifier) ∧
    -- what is taken over from the roll
    (r.perform s).1.excerpt = r.excerpt ∧ (r.perform s).1.totalRange = r.totalRange ∧
    (r.perform s).1.faceRange = r.faceRange := by
  refine ⟨?_, flatMap_faces_eq_drawMany r s, ?_, ?_, fun g hg => group_of_mem_perform hg, rfl, rfl,
    rfl⟩
  · rw [perform_recorder]
    refine ⟨rfl, rfl, ?_, ?_⟩
    · rw [List.nil_append, List.map_map, ← length_flatMap_faces r s]
      exact List.map_const'
    · rw [List.nil_append, List.map_map]
      exact List.map_id _
  · rw [snd_perform, drawGroups_snd]
  · rw [groups_perform, List.length_map, length_rolled]

end Roll

end TabletopDice
