import TextRepair.Decimal.Notation
import TextRepair.Options

/-!
# Settings of a session
-/

namespace TextRepair

/-- The bounds of a session and the settings of its collaborators. -/
structure SessionConfig where
  /-- The most cycles. -/
  maxCycles : Nat
  /-- The check command, handed to the verifier as it is. -/
  command : List String
  /-- How many of the proposed hypotheses of a cycle are kept. -/
  maxHypotheses : Option Nat
  /-- The lines shown on each side of the target. -/
  contextRadius : Nat
  apply : Options Float
  deriving Repr

/-- What makes the settings of a session invalid. -/
inductive SessionError where
  | zeroCycles
  | zeroHypotheses
  | options (e : OptionsError Float)
  deriving Repr

namespace SessionError

/-- What is wrong. -/
def reason : SessionError → String
  | zeroCycles => "max_cycles must be at least 1"
  | zeroHypotheses => "max_hypotheses_per_cycle must be at least 1 when set"
  | options e => e.message Decimal.plain

def message (e : SessionError) : String :=
  s!"invalid session config: {e.reason}"

end SessionError

namespace SessionConfig

/-- The settings used where none are given. -/
def standard : SessionConfig where
  maxCycles := 3
  command := []
  maxHypotheses := none
  contextRadius := 5
  apply := Options.standard

instance : Inhabited SessionConfig := ⟨standard⟩

/-- Refuses settings by their first fault. -/
def check (c : SessionConfig) : Except SessionError Unit := do
  if c.maxCycles = 0 then .error .zeroCycles
  if c.maxHypotheses = some 0 then .error .zeroHypotheses
  c.apply.check.mapError .options

end SessionConfig

end TextRepair
