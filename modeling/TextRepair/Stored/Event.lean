import TextRepair.Event
import TextRepair.Json

/-!
# Events as data

The fields of events in logs. Strategies, outcomes and errors stand there as texts.
-/

namespace TextRepair.Event

/-- The fields of an event besides its name and level. -/
def fields : Event → List (String × Json)
  | hunkMatched index c => [
      ("index", .nat index), ("strategy", .text c.strategy.name), ("confidence", .float c.confidence),
      ("start", .nat c.start), ("end", .nat c.stop), ("ambiguous", .bool c.isAmbiguous),
      ("fuzzy", .bool c.strategy.isFuzzy)]
  | hunkFailed index best => [
      ("index", .nat index), ("best_confidence", .float (best.getD 0.0))]
  | applyFinished total matched success => [
      ("total_hunks", .nat total), ("matched_hunks", .nat matched), ("success", .bool success)]
  | cycleStarted cycle target => [("cycle", .nat cycle), ("target", .text target)]
  | phaseEntered cycle phase => [("cycle", .nat cycle), ("state", .text phase.name)]
  | hypothesisRejected cycle hypothesis reason => [
      ("cycle", .nat cycle), ("hypothesis_id", .nat hypothesis), ("reason", .text reason)]
  | sessionFinished outcome cycles => [
      ("outcome", .text outcome.name), ("cycles_used", .nat cycles)]
  | recordingFailed e => [("error", .text e.message)]

def toJson (e : Event) : Json :=
  .object (("event", .text e.name) :: ("level", .text e.level.name) :: e.fields)

end TextRepair.Event
