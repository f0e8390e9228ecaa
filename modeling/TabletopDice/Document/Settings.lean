import TabletopDice.Json.Record
import TabletopDice.Settings

/-!
# Documents — settings

Settings may leave out any of their values; what is left out is as in `Settings.standard`.
Settings are kept in files, and what can go wrong with a file is not only its text (`LoadError`).
-/

namespace TabletopDice.Document

open Json (Codec Shape)

def policyName : Policy → String
  | .lenient => "Lenient"
  | .strict => "Strict"

/-- The documents of policies. -/
def policy : Codec Policy := .choice [.lenient, .strict] policyName

inductive SettingsKey where
  | policy
  | seed
deriving DecidableEq

abbrev SettingsKey.Value : SettingsKey → Type
  | .policy => Policy
  | .seed => Option UInt64

/-- The value of a key that is left out. -/
def SettingsKey.standard : (k : SettingsKey) → k.Value
  | .policy => Settings.standard.policy
  | .seed => Settings.standard.seed

def settingsShape : Shape where
  name := "EngineConfig"
  Key := SettingsKey
  decEq := inferInstance
  keys := [.policy, .seed]
  mem_keys k := by cases k <;> simp
  label
    | .policy => "policy"
    | .seed => "seed"
  Value := SettingsKey.Value
  codec
    | .policy => policy
    | .seed => .optional .word64
  whenMissing k := some k.standard
  whenCut k := some k.standard
  omits _ _ := false

def settingsFields (s : Settings) : settingsShape.Fields
  | .policy => s.policy
  | .seed => s.seed

/-- The documents of settings. -/
def settings : Codec Settings :=
  settingsShape.codecOf (fun f => ⟨f .policy, f .seed⟩) settingsFields

/-! ### Files -/

/-- What a path to a file leads to. -/
inductive File where
  | absent
  | directory
  /-- A file with this text. -/
  | text (content : String)
deriving DecidableEq

/-- Why settings cannot be loaded. -/
inductive LoadError where
  | absent
  /-- There is a directory instead. -/
  | directory
  /-- The text of the file cannot be read. -/
  | unreadable (fault : Json.Fault)
deriving DecidableEq

def LoadError.message : LoadError → String
  | .absent => "No such file or directory (os error 2)"
  | .directory => "Is a directory (os error 21)"
  | .unreadable fault => fault.message

/-- The settings in a file. -/
def loadSettings : File → Except LoadError Settings
  | .absent => .error .absent
  | .directory => .error .directory
  | .text content =>
    match settings.decode content with
    | .ok s => .ok s
    | .error fault => .error (.unreadable fault)

end TabletopDice.Document
