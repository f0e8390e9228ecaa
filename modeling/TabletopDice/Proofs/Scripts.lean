import TabletopDice.Proofs.Sources

/-!
# Sessions — over a script

A script counts its dice, whoever asks for them.  Its position runs on through the groups of a roll,
from one roll to the next and through single dice, and a rejected step and the reading of a text do
not move it.

**One script for the whole run** (`shown_of_script`).  Die number `k` of a run, of whatever kind, is
the face that the script has at its place, and the script has moved on by the single dice and the
dice of all rolls that were performed.
-/

namespace TabletopDice

open FaceSource

namespace Script

/-- The face that a list prescribes for die number `k`, counting from 0: the list is repeated
endlessly, what does not fit the die is moved to its nearest face, and an empty list prescribes
1. -/
def prescribed (faces : List UInt32) (k : Nat) (sides : UInt32) : Nat :=
  if h : faces = [] then 1
  else
    max 1 (min (faces.get ⟨k % faces.length, Nat.mod_lt k (List.length_pos_iff.mpr h)⟩).toNat
      (max sides.toNat 1))

theorem toNat_fit (sides face : UInt32) :
    (fit sides face).toNat = max 1 (min face.toNat (max sides.toNat 1)) := by
  simp only [fit, toNat_max_word, toNat_min_word, UInt32.toNat_one]

theorem toNat_face (faces : List UInt32) (k : Nat) (sides : UInt32) :
    (face faces k sides).toNat = prescribed faces k sides := by
  rw [face, toNat_fit, prescribed]
  split
  · rename_i h
    rw [h, List.getElem?_nil, Option.getD_none, UInt32.toNat_one]
    omega
  · rename_i h
    have hlt : k % faces.length < faces.length := Nat.mod_lt k (List.length_pos_iff.mpr h)
    rw [List.getElem?_eq_getElem hlt, Option.getD_some]
    rfl

/-- What is on record of a script of the faces `listed` that began at position `first`. -/
structure Replays (listed : List UInt32) (first : Nat) (t : Recorder Script) : Prop where
  faces : t.source.faces = listed
  drawn : t.source.drawn = first + t.dice.length
  dice : ∀ k sides face, t.dice[k]? = some (sides, face) →
    face.toNat = prescribed listed (first + k) sides

theorem Replays.draw {listed : List UInt32} {first : Nat} {t : Recorder Script}
    (h : Replays listed first t) (sides : UInt32) :
    Replays listed first (FaceSource.draw sides t).2 where
  faces := h.faces
  drawn := by
    rw [draw_recorder, List.length_append, List.length_singleton]
    exact congrArg (· + 1) h.drawn
  dice k sides' face hk := by
    rw [draw_recorder] at hk
    rcases Nat.lt_trichotomy k t.dice.length with hlt | rfl | hgt
    · rw [List.getElem?_append_left hlt] at hk
      exact h.dice k sides' face hk
    -- the new die is the one at the position of the script
    · rw [List.getElem?_concat_length] at hk
      cases hk
      show (Script.face t.source.faces t.source.drawn sides).toNat = _
      rw [toNat_face, h.faces, h.drawn]
    · have hlength : (t.dice ++ [(sides, (FaceSource.draw sides t.source).1)]).length ≤ k := by
        rw [List.length_append, List.length_singleton]
        exact hgt
      rw [List.getElem?_eq_none hlength] at hk
      cases hk

end Script

namespace Session

/-- **One script for the whole run.**  Number all dice that a run shows, single ones and those in
outcomes, in the order in which its source is asked for them, and go on counting from the position
of the script.  Then die number `k`, if it has so many `sides`, shows the face that the script
prescribes; and the run moves the script on by its single dice and the dice of the rolls that it
performs. -/
theorem shown_of_script (s : Session Script) (steps : List Step) :
    -- the dice that are shown are those that the source is asked for
    ((s.recording []).after steps).source = ⟨(s.after steps).source, s.shown steps⟩ ∧
    (∀ k sides face, (s.shown steps)[k]? = some (sides, face) →
      face.toNat = Script.prescribed s.source.faces (s.source.drawn + k) sides) ∧
    (s.after steps).source.faces = s.source.faces ∧
    (s.after steps).source.drawn = s.source.drawn + (s.shown steps).length ∧
    (s.shown steps).length = steps.countP Step.isDie +
      ((performed s.settings.policy s.roll steps).map fun r =>
        r.repeats.toNat * r.dice.toNat).sum := by
  have hrecord : ((s.recording []).after steps).source =
      ⟨(s.after steps).source, s.shown steps⟩ := by
    rw [after_recording, List.nil_append]
    rfl
  have hreplays : Script.Replays s.source.faces s.source.drawn
      ⟨(s.after steps).source, s.shown steps⟩ := by
    rw [← hrecord]
    refine (reaches_after (s.recording []) steps).keeps (fun sides t h => h.draw sides) ?_
    exact ⟨rfl, rfl, fun k sides face h => by cases h⟩
  exact ⟨hrecord, hreplays.dice, hreplays.faces, hreplays.drawn, length_shown s steps⟩

/-- The script goes on from the roll of one text to a die without sides, past a rejected text, and
to the roll of another text. -/
example : (start .strict (Script.ofFaces [9, 2, 0])).shown
    [.total (some "2x2d6"), .die 0, .outcome (some "hello"), .read "3d4", .outcome none] =
      [(6, 6), (6, 2), (6, 1), (6, 6), (0, 1), (4, 1), (4, 4), (4, 2)] := by
  decide

end Session

end TabletopDice
