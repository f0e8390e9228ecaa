import TabletopDice.Faces.Generator
import TabletopDice.Performance
import TabletopDice.Settings

/-!
# Sessions — rolling again and again

A `Session` keeps its settings, its source of faces, the current roll and the outcome of the last
performance.  Reading a text replaces the roll, performing replaces the outcome, and neither touches
the other: after a new roll was read, the outcome is still that of an earlier one.

A strict session rejects a text without an expression, and a rejected step changes nothing
(`Session.perform` returns the session as it was): no face is drawn and nothing is replaced.
-/

namespace TabletopDice

/-- A running session over a source of faces. -/
@[ext] structure Session (σ : Type) where
  /-- The settings, which never change. -/
  settings : Settings
  source : σ
  /-- The current roll. -/
  roll : Roll
  /-- The outcome of the last performance, if there was one. -/
  outcome : Option Outcome
deriving DecidableEq

namespace Session

variable {σ : Type}

/-! ### Beginning -/

/-- A session over `source`, with the standard roll and no outcome. -/
def start (settings : Settings) (source : σ) : Session σ := ⟨settings, source, .standard, none⟩

/-- The generator of the settings; `unseeded` where they name no seed. -/
def generator (settings : Settings) (unseeded : Generator) : Generator :=
  (settings.seed.map Generator.ofSeed).getD unseeded

/-- A session over the generator of its settings. -/
def ofSettings (settings : Settings) (unseeded : Generator) : Session Generator :=
  start settings (generator settings unseeded)

/-- A lenient session, with the roll of `text?` if there is a text. -/
def ofText (text? : Option String) (unseeded : Generator) : Session Generator :=
  let session := ofSettings .standard unseeded
  match text? with
  | some text => { session with roll := (interpret text).roll }
  | none => session

/-! ### Views of the outcome -/

def total (s : Session σ) : Option Amount := s.outcome.map Outcome.total

def totalRange (s : Session σ) : Option TotalRange := s.outcome.map Outcome.totalRange

def faceRange (s : Session σ) : Option FaceRange := s.outcome.map Outcome.faceRange

/-! ### Steps -/

/-- Makes the roll of `text` the current one. -/
def read (text : String) (s : Session σ) : Except Rejection (Session σ) :=
  (interpretUnder s.settings.policy text).map fun i => { s with roll := i.roll }

/-- Makes the roll of `text?` the current one; without a text the current one stays. -/
def readOr (text? : Option String) (s : Session σ) : Except Rejection (Session σ) :=
  match text? with
  | some text => s.read text
  | none => .ok s

variable [FaceSource σ]

def performRoll (s : Session σ) : Outcome × Session σ :=
  let (outcome, source) := s.roll.perform s.source
  (outcome, { s with source := source, outcome := some outcome })

/-- Draws one die; the roll and the outcome stay. -/
def drawDie (sides : UInt32) (s : Session σ) : UInt32 × Session σ :=
  let (face, source) := FaceSource.draw sides s.source
  (face, { s with source := source })

/-- What can be asked of a session. -/
inductive Step where
  | read (text : String)
  /-- Perform the roll of a text, or the current one, for its total. -/
  | total (text? : Option String)
  /-- Perform the roll of a text, or the current one, for its outcome. -/
  | outcome (text? : Option String)
  | die (sides : UInt32)
deriving DecidableEq

/-- What a step answers. -/
inductive Answer where
  | roll (roll : Roll)
  | total (total : Amount)
  | outcome (outcome : Outcome)
  | face (face : UInt32)
deriving DecidableEq

/-- Takes a step that may be rejected. -/
def attempt (step : Step) (s : Session σ) : Except Rejection (Answer × Session σ) :=
  match step with
  | .read text => (s.read text).map fun s => (.roll s.roll, s)
  | .total text? => (s.readOr text?).map fun s =>
      let (o, s) := s.performRoll
      (.total o.total, s)
  | .outcome text? => (s.readOr text?).map fun s =>
      let (o, s) := s.performRoll
      (.outcome o, s)
  | .die sides =>
      let (face, s) := s.drawDie sides
      .ok (.face face, s)

/-- Takes a step.  A rejected step leaves the session as it was. -/
def perform (step : Step) (s : Session σ) : Except Rejection Answer × Session σ :=
  match s.attempt step with
  | .ok (answer, s) => (.ok answer, s)
  | .error rejection => (.error rejection, s)

/-- Takes steps in turn: every answer, with the session after its step. -/
def run (s : Session σ) : List Step → List (Except Rejection Answer × Session σ)
  | [] => []
  | step :: steps => s.perform step :: run (s.perform step).2 steps

end Session

end TabletopDice
