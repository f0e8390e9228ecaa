import TabletopDice.Proofs.Documents
import TabletopDice.Proofs.Json.Understanding

/-!
# Documents — every way to present them

An outcome is written in one way, but it may be presented in many: its records as objects, with the
members in any order and any others among them, or as lists; with blanks between the tokens; with
any escapes in its strings; without the excerpt if there is none, and without the modifiers that add
nothing.  Of settings, each that is the standard one may be left out.

**Every presentation is understood** (`presentations_read`): what it presents is what is read, and
where a key comes twice in one of the records nothing is read.
-/

namespace TabletopDice.Document

open Json

/-! ### Outcomes -/

def amountForm : Form Amount := .written fun a => Text.integer a.toInt

def word32Form : Form UInt32 := .written fun w => Text.natural w.toNat

/-- The two ends of a range, with their labels. -/
def rangeForm {α : Type} (lower upper : String) (form : Form α) : Form (RangeKey → α) :=
  .record (fun | .lower => lower | .upper => upper) [.lower, .upper] (fun _ => form)
    fun _ _ => False

/-- The texts of ranges of totals. -/
def totalRangeForm : Form TotalRange :=
  (rangeForm "totalLowerBound" "totalUpperBound" amountForm).via totalRangeFields

/-- The texts of ranges of faces. -/
def faceRangeForm : Form FaceRange :=
  (rangeForm "dieLowerBound" "dieUpperBound" word32Form).via faceRangeFields

def groupLabel : GroupKey → String
  | .faces => "dice"
  | .modifier => "mod"

def groupForms : (k : GroupKey) → Form k.Value
  | .faces => .list word32Form
  | .modifier => .quoted Modifier.text

/-- A modifier may be left out if it adds nothing. -/
def groupMayOmit : (k : GroupKey) → k.Value → Prop
  | .faces, _ => False
  | .modifier, (m : Modifier) => m.text = "+0"

/-- The texts of groups. -/
def groupForm : Form Group :=
  (Form.record groupLabel [.faces, .modifier] groupForms groupMayOmit).via groupFields

def outcomeLabel : OutcomeKey → String
  | .total => "result"
  | .excerpt => "params"
  | .groups => "details"
  | .totalRange => "totalBounds"
  | .faceRange => "dieBounds"

def outcomeForms : (k : OutcomeKey) → Form k.Value
  | .total => amountForm
  | .excerpt => .optional (.quoted id)
  | .groups => .list groupForm
  | .totalRange => totalRangeForm
  | .faceRange => faceRangeForm

/-- An excerpt may be left out if there is none. -/
def outcomeMayOmit : (k : OutcomeKey) → k.Value → Prop
  | .excerpt, (excerpt : Option String) => excerpt = none
  | .total, _ | .groups, _ | .totalRange, _ | .faceRange, _ => False

/-- The texts of outcomes. -/
def outcomeForm : Form Outcome :=
  (Form.record outcomeLabel [.total, .excerpt, .groups, .totalRange, .faceRange] outcomeForms
    outcomeMayOmit).via outcomeFields

theorem understands_amount : Codec.amount.reader.Understands amountForm :=
  understands_written lawful_amount

theorem understands_word32 : Codec.word32.reader.Understands word32Form :=
  understands_written lawful_word32

theorem understands_rangeShape {α : Type} (name : String) {lower upper : String}
    (hne : lower ≠ upper) {x : Codec α} (hx : x.Lawful) {form : Form α}
    (h : x.reader.Understands form) :
    (rangeShape name lower upper x).reader.Understands (rangeForm lower upper form) :=
  understands_record (lawful_rangeShape name hne hx) (fun k => by cases k <;> rfl) rfl (fun _ => h)
    (fun _ _ => False.elim) fun _ _ _ homit k hk => (homit k hk).elim

theorem understands_totalRange : totalRange.reader.Understands totalRangeForm :=
  (understands_rangeShape _ (by decide) lawful_amount understands_amount).via fun _ => rfl

theorem understands_faceRange : faceRange.reader.Understands faceRangeForm :=
  (understands_rangeShape _ (by decide) lawful_word32 understands_word32).via fun _ => rfl

theorem understands_modifier : modifier.reader.Understands (.quoted Modifier.text) :=
  understands_text.via fun _ => rfl

theorem understands_group : group.reader.Understands groupForm := by
  -- what the shape has for a group without a modifier
  have hzero : ∀ m : Modifier, m.text = "+0" → some Modifier.zero = some m := by
    intro m hm
    exact congrArg some (Modifier.ext hm.symm)
  refine Reader.Understands.via
    (understands_record lawful_groupShape (fun k => ?_) rfl ?_ ?_ ?_) fun _ => rfl
  · cases k <;> rfl
  · intro (k : GroupKey)
    cases k with
    | faces => exact understands_list understands_word32
    | modifier => exact understands_modifier
  · intro (k : GroupKey) v homit
    cases k with
    | faces => exact homit.elim
    | modifier => exact hzero v homit
  · intro fields omitted _ homit (k : GroupKey) hk
    cases k with
    | faces => exact (homit _ hk).elim
    | modifier => exact hzero _ (homit _ hk)

theorem understands_outcome : outcome.reader.Understands outcomeForm := by
  refine Reader.Understands.via
    (understands_record lawful_outcomeShape (fun k => ?_) rfl ?_ ?_ ?_) fun _ => rfl
  · cases k <;> rfl
  · intro (k : OutcomeKey)
    cases k with
    | total => exact understands_amount
    | excerpt =>
        refine understands_optional understands_text ?_ fun h => nomatch h
        rintro cs text ⟨literal, -, rfl⟩ hhead
        cases hhead
    | groups => exact understands_list understands_group
    | totalRange => exact understands_totalRange
    | faceRange => exact understands_faceRange
  · intro (k : OutcomeKey) v homit
    cases k with
    | excerpt => exact congrArg some (Eq.symm homit)
    | total | groups | totalRange | faceRange => exact homit.elim
  -- a list that ends too early leaves out the range of faces
  · intro fields omitted hsuffix homit k hk
    have hlast : omitted.getLast (List.ne_nil_of_mem hk) = OutcomeKey.faceRange :=
      hsuffix.getLast _
    have hface := homit _ (List.getLast_mem (List.ne_nil_of_mem hk))
    rw [hlast] at hface
    exact False.elim hface

/-! ### Settings -/

def word64Form : Form UInt64 := .written fun w => Text.natural w.toNat

def settingsLabel : SettingsKey → String
  | .policy => "policy"
  | .seed => "seed"

/-- A policy is known by its name. -/
def policyForm : Form Policy := .quoted fun | .lenient => "Lenient" | .strict => "Strict"

def settingsForms : (k : SettingsKey) → Form k.Value
  | .policy => policyForm
  | .seed => .optional word64Form

/-- Everything may be left out that is as in the standard settings. -/
def settingsMayOmit : (k : SettingsKey) → k.Value → Prop
  | .policy, (policy : Policy) => policy = .lenient
  | .seed, (seed : Option UInt64) => seed = none

/-- The texts of settings. -/
def settingsForm : Form Settings :=
  (Form.record settingsLabel [.policy, .seed] settingsForms settingsMayOmit).via settingsFields

theorem understands_settings : settings.reader.Understands settingsForm := by
  have hstandard : ∀ (k : SettingsKey) (v : k.Value), settingsMayOmit k v →
      some k.standard = some v := by
    intro k v homit
    cases k <;> exact congrArg some (Eq.symm homit)
  refine Reader.Understands.via
    (understands_record lawful_settingsShape (fun k => ?_) rfl ?_ hstandard ?_) fun _ => rfl
  · cases k <;> rfl
  · intro (k : SettingsKey)
    cases k with
    | policy => exact understands_choice mem_policies policyName_inj
    | seed =>
        refine understands_optional (understands_written lawful_word64) ?_ fun h => nomatch h
        rintro cs w rfl
        exact head?_natural_ne rfl w.toNat
  · exact fun fields omitted _ homit k hk => hstandard k _ (homit k hk)

/-- **Every presentation is understood.**  What a text presents is what is read from it, for every
outcome and for all settings; and where a key comes twice in a record, reading stops at this key. -/
theorem presentations_read :
    (∀ (o : Outcome) (text : String), outcomeForm.Presents text o → outcome.decode text = .ok o) ∧
    (∀ text label : String, outcomeForm.Overwrites text label →
      outcome.decode text = .error (.misshapen (.repeated label))) ∧
    (∀ (s : Settings) (text : String), settingsForm.Presents text s →
      settings.decode text = .ok s) ∧
    ∀ text label : String, settingsForm.Overwrites text label →
      settings.decode text = .error (.misshapen (.repeated label)) :=
  ⟨fun _ _ h => understands_outcome.decode_eq_ok h,
    fun _ _ h => understands_outcome.decode_eq_error h,
    fun _ _ h => understands_settings.decode_eq_ok h,
    fun _ _ h => understands_settings.decode_eq_error h⟩

/-! ### Some presentations -/

/-- An outcome as a list of lists, with a group that ends before its modifier. -/
theorem presents_positional : outcomeForm.Presents " [3,null,[[[3]]],[1,6],[1,6]] "
    ⟨.clamp 3, none, [⟨[3], .zero⟩], ⟨.clamp 1, .clamp 6⟩, ⟨1, 6⟩⟩ := by
  have hfaces : (groupForms .faces).Says _ [3] :=
    ⟨[['3']], _, .cons rfl .nil, spaced_intercalate _, rfl⟩
  have homit : ∀ k ∈ [GroupKey.modifier], groupMayOmit k (groupFields ⟨[3], .zero⟩ k) :=
    List.forall_mem_singleton.mpr rfl
  have hgroup : groupForm.Says _ ⟨[3], .zero⟩ :=
    .list rfl (.cons hfaces .nil) homit (spaced_intercalate _)
  have hgroups : (outcomeForms .groups).Says _ [⟨[3], .zero⟩] :=
    ⟨[_], _, .cons hgroup .nil, spaced_intercalate _, rfl⟩
  have htotalRange : totalRangeForm.Says _ ⟨.clamp 1, .clamp 6⟩ :=
    .list (List.append_nil _).symm (.cons rfl (.cons rfl .nil)) (List.forall_mem_nil _)
      (spaced_intercalate _)
  have hfaceRange : faceRangeForm.Says _ ⟨1, 6⟩ :=
    .list (List.append_nil _).symm (.cons rfl (.cons rfl .nil)) (List.forall_mem_nil _)
      (spaced_intercalate _)
  have houtcome : outcomeForm.Says _
      ⟨.clamp 3, none, [⟨[3], .zero⟩], ⟨.clamp 1, .clamp 6⟩, ⟨1, 6⟩⟩ :=
    .list (List.append_nil _).symm
      (.cons rfl (.cons rfl (.cons hgroups (.cons htotalRange (.cons hfaceRange .nil)))))
      (List.forall_mem_nil _) (spaced_intercalate _)
  exact ⟨[' '], _, [' '], by simp [Blank], houtcome, by simp [Blank], by decide⟩

/-- An outcome that has its total twice. -/
theorem overwrites_total :
    outcomeForm.Overwrites "\x7b\"result\":3,\"result\":4,\"details\":[]\x7d" "result" := by
  have hmembers : List.Forall₂
      (Form.IsMember outcomeLabel (fun k => (outcomeForms k).Says)
        (outcomeFields ⟨.clamp 3, none, [], ⟨.clamp 1, .clamp 6⟩, ⟨1, 6⟩⟩))
      [_] [some OutcomeKey.total] := .cons (.known rfl (memberOf_writeString _ _)) .nil
  have hrepeats : outcomeForm.Repeats _ "result" :=
    .object hmembers (List.nodup_singleton _)
      (.key List.mem_cons_self (literalOf_escaped "result".toList)) (spaced_intercalate _)
  exact ⟨[], _, ":4,\"details\":[]\x7d".toList, blank_nil, hrepeats, by decide⟩

/-- Settings in another order, with a member that nobody asked for between them. -/
theorem presents_reordered :
    settingsForm.Presents "\x7b\"seed\":7,\"x\":[null,\x7b\x7d],\"policy\":\"Strict\"\x7d"
      ⟨.strict, some 7⟩ := by
  have hitems : ∀ item ∈ ["null".toList, "\x7b\x7d".toList], IsValue item :=
    List.forall_mem_cons.mpr ⟨.word (by decide), List.forall_mem_singleton.mpr
      (.object (List.forall_mem_nil IsValue) .nil (.nil blank_nil))⟩
  have hx : IsValue _ := .list hitems (spaced_intercalate _)
  have hother : ∀ k : SettingsKey, (settingsLabel k).toList ≠ "x".toList := by
    intro k
    cases k <;> decide
  have hmembers : List.Forall₂
      (Form.IsMember settingsLabel (fun k => (settingsForms k).Says)
        (settingsFields ⟨.strict, some 7⟩))
      [_, _, _] [some SettingsKey.seed, none, some SettingsKey.policy] :=
    .cons (.known rfl (memberOf_writeString _ _))
      (.cons (.other hother hx (memberOf_writeString _ _))
        (.cons (.known ⟨_, literalOf_escaped _, rfl⟩ (memberOf_writeString _ _)) .nil))
  have homit : ∀ k, some k ∉ [some SettingsKey.seed, none, some .policy] →
      settingsMayOmit k (settingsFields ⟨.strict, some 7⟩ k) := by
    intro k hk
    cases k <;> exact absurd (by decide) hk
  exact ⟨[], _, [], blank_nil, .object hmembers (by decide) homit (spaced_intercalate _),
    blank_nil, by decide⟩

/-- Settings that have no seed and then another one. -/
theorem overwrites_seed :
    settingsForm.Overwrites "\x7b\"seed\":null,\"seed\":7\x7d" "seed" := by
  have hmembers : List.Forall₂
      (Form.IsMember settingsLabel (fun k => (settingsForms k).Says) (settingsFields .standard))
      [_] [some SettingsKey.seed] := .cons (.known rfl (memberOf_writeString _ _)) .nil
  have hrepeats : settingsForm.Repeats _ "seed" :=
    .object hmembers (List.nodup_singleton _)
      (.key List.mem_cons_self (literalOf_escaped "seed".toList)) (spaced_intercalate _)
  exact ⟨[], _, ":7\x7d".toList, blank_nil, hrepeats, by decide⟩

theorem presentations_read_of_each_kind :
    outcome.decode " [3,null,[[[3]]],[1,6],[1,6]] " =
      .ok ⟨.clamp 3, none, [⟨[3], .zero⟩], ⟨.clamp 1, .clamp 6⟩, ⟨1, 6⟩⟩ ∧
    outcome.decode "\x7b\"result\":3,\"result\":4,\"details\":[]\x7d" =
      .error (.misshapen (.repeated "result")) ∧
    settings.decode "\x7b\"seed\":7,\"x\":[null,\x7b\x7d],\"policy\":\"Strict\"\x7d" =
      .ok ⟨.strict, some 7⟩ ∧
    settings.decode "\x7b\"seed\":null,\"seed\":7\x7d" =
      .error (.misshapen (.repeated "seed")) :=
  ⟨presentations_read.1 _ _ presents_positional, presentations_read.2.1 _ _ overwrites_total,
    presentations_read.2.2.1 _ _ presents_reordered, presentations_read.2.2.2 _ _ overwrites_seed⟩

end TabletopDice.Document
