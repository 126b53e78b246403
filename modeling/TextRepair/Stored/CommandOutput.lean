import TextRepair.Check
import TextRepair.Json.Decode

/-!
# Stored output of commands
-/

namespace TextRepair.CommandOutput

def toJson (o : CommandOutput) : Json :=
  .object [
    ("exit_code", .option .int o.exitCode),
    ("stdout", .text o.stdout),
    ("stderr", .text o.stderr),
    ("duration_ms", .nat o.millis)]

open Decoder RecordReader in
def ofJson : Decoder CommandOutput := record do
  return {
    exitCode := ← nullable "exit_code" (signedWord UInt32.size)
    stdout := ← required "stdout" text
    stderr := ← required "stderr" text
    millis := ← required "duration_ms" (word UInt64.size) }

end TextRepair.CommandOutput
