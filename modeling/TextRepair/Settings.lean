import TextRepair.Failure

/-!
# Settings

The settings of a whole installation: how edits are applied, how sessions run, how checks are run.
-/

namespace TextRepair

/-- How a check is run. -/
structure CheckSettings where
  /-- The file that a candidate is written to; a scratch file if none is given. -/
  target : Option String
  /-- The seconds that a check may take. -/
  seconds : Nat
  /-- The directory in which a check runs. -/
  workdir : Option String
  deriving Repr

/-- The settings used where none are given. -/
def CheckSettings.standard : CheckSettings where
  target := none
  seconds := 120
  workdir := none

instance : Inhabited CheckSettings := ⟨CheckSettings.standard⟩

/-- All settings. -/
structure Settings where
  apply : Options Float
  session : SessionConfig
  check : CheckSettings
  deriving Repr

namespace Settings

/-- The settings used where none are given. -/
def standard : Settings where
  apply := .standard
  session := .standard
  check := .standard

instance : Inhabited Settings := ⟨standard⟩

/-- Refuses settings by their first fault, section by section. -/
def validate (s : Settings) : Except Failure Unit := do
  s.apply.check.mapError .options
  s.session.check.mapError .session
  if s.check.seconds = 0 then .error (.settings "verifier.timeout_secs must be at least 1")

/-- The settings of a session, which applies edits as the whole installation does. -/
def forSession (s : Settings) : SessionConfig :=
  { s.session with apply := s.apply }

end Settings

end TextRepair
