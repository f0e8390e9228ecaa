import TabletopDice.Document.Outcome
import TabletopDice.Document.Settings
import TabletopDice.Proofs.Json.Records

/-!
# Documents — reading back what is written

The documents of outcomes and settings are records of records, and each of their shapes is lawful:
labels differ, the values have lawful codecs, and only the modifier that adds nothing is left out,
which is also the modifier of a group without one.

**Nothing is lost** (`documents_read_back`).  Every outcome and all settings are what is read from
their documents: an excerpt and a modifier may hold any characters, and words and amounts reach to
the ends of their ranges.
-/

namespace TabletopDice.Document

open Json

/-! ### Outcomes -/

theorem lawful_rangeShape {α : Type} (name : String) {lower upper : String} (hne : lower ≠ upper)
    {x : Codec α} (hx : x.Lawful) : (rangeShape name lower upper x).Lawful where
  nodup_labels := by
    show [lower, upper].Nodup
    rw [List.nodup_cons, List.mem_singleton]
    exact ⟨hne, List.nodup_singleton upper⟩
  codec _ := hx
  omits _ _ h := nomatch h

theorem lawful_totalRange : totalRange.Lawful :=
  Shape.lawful_codecOf (lawful_rangeShape _ (by decide) lawful_amount) fun _ => rfl

theorem lawful_faceRange : faceRange.Lawful :=
  Shape.lawful_codecOf (lawful_rangeShape _ (by decide) lawful_word32) fun _ => rfl

theorem lawful_modifier : modifier.Lawful := lawful_text.map fun _ => rfl

theorem lawful_groupShape : groupShape.Lawful where
  nodup_labels := by decide
  codec := by
    intro (k : GroupKey)
    cases k with
    | faces => exact lawful_list lawful_word32
    | modifier => exact lawful_modifier
  omits := by
    intro (k : GroupKey) (v : k.Value) h
    cases k with
    | faces => cases h
    | modifier =>
        have hzero : v = Modifier.zero := of_decide_eq_true h
        rw [hzero]
        rfl

theorem lawful_group : group.Lawful := Shape.lawful_codecOf lawful_groupShape fun _ => rfl

theorem lawful_outcomeShape : outcomeShape.Lawful where
  nodup_labels := by decide
  codec := by
    intro (k : OutcomeKey)
    cases k with
    | total => exact lawful_amount
    | excerpt => exact lawful_optional lawful_text fun text h => (nomatch h)
    | groups => exact lawful_list lawful_group
    | totalRange => exact lawful_totalRange
    | faceRange => exact lawful_faceRange
  omits _ _ h := nomatch h

theorem lawful_outcome : outcome.Lawful := Shape.lawful_codecOf lawful_outcomeShape fun _ => rfl

/-! ### Settings -/

theorem mem_policies (p : Policy) : p ∈ [Policy.lenient, .strict] := by
  cases p <;> simp

theorem policyName_inj (p q : Policy) (h : policyName p = policyName q) : p = q := by
  cases p <;> cases q <;> first | rfl | exact absurd h (by decide)

theorem lawful_policy : policy.Lawful := lawful_choice mem_policies policyName_inj

theorem lawful_settingsShape : settingsShape.Lawful where
  nodup_labels := by decide
  codec := by
    intro (k : SettingsKey)
    cases k with
    | policy => exact lawful_policy
    | seed => exact lawful_optional lawful_word64 fun w => head?_natural_ne rfl w.toNat
  omits _ _ h := nomatch h

theorem lawful_settings : settings.Lawful := Shape.lawful_codecOf lawful_settingsShape fun _ => rfl

/-- **Nothing is lost.**  Every outcome, and all settings, are read back from their documents. -/
theorem documents_read_back : (∀ o : Outcome, outcome.decode (outcome.encode o) = .ok o) ∧
    ∀ s : Settings, settings.decode (settings.encode s) = .ok s :=
  ⟨lawful_outcome.decode_encode, lawful_settings.decode_encode⟩

end TabletopDice.Document
