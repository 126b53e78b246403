import TextRepair.Json.Printer
import TextRepair.Stored.Event
import TextRepair.Timestamp

/-!
# Log lines

Events as lines for a reader or as JSON, each with the time and its importance.
-/

namespace TextRepair.CommandLine

/-- A field of an event for a reader. -/
def logField : String × Json → String
  | (name, .text s) => s!"{name}={s}"
  | (name, j) => s!"{name}={j.compact}"

/-- An event as a line. -/
def logLine (asJson : Bool) (now : Timestamp) (e : Event) : String :=
  if asJson then
    (Json.object [
      ("timestamp", .text now.toText), ("level", .text e.level.name),
      ("fields", .object (("event", .text e.name) :: e.fields))]).compact
  else
    " ".intercalate (now.toText :: e.level.name :: logField ("event", .text e.name) ::
      e.fields.map logField)

/-- The lines of the events that are at least as important as a level. -/
def logLines (level : Level) (asJson : Bool) (now : Timestamp) (events : List Event) :
    List String :=
  (events.filter fun e => e.level.rank ≤ level.rank).map (logLine asJson now)

end TextRepair.CommandLine
