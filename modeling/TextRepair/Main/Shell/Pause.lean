import TextRepair.Main.Shell.Options
import TextRepair.Main.Shell.Program
import TextRepair.Main.Shell.Real

/-!
# Waiting

The program that waits for the sum of some times.
-/

namespace TextRepair.Shell

namespace Pause

/-- The options. -/
def known : Options.Known where
  bare := []
  valued := []
  names := [⟨"help", "help", .bare⟩, ⟨"version", "version", .bare⟩]

/-- The seconds in a unit of time. -/
def unit? (cs : List Char) : Option Float :=
  match cs with
  | [] | ['s'] => some 1.0
  | ['m'] => some 60.0
  | ['h'] => some 3600.0
  | ['d'] => some 86400.0
  | _ => none

/-- The seconds that a time stands for. -/
def seconds? (text : String) : Option Float := do
  let front ← Real.read? text.toList
  let unit ← unit? front.rest
  if 0.0 ≤ front.value then some (front.value * unit) else none

/-- The microseconds in some seconds; a time that is too long to live through stands for any longer one. -/
def microsOf (seconds : Float) : Nat :=
  (if seconds < 1.0e12 then (seconds * 1.0e6).ceil.toUInt64 else 1000000000000000000).toNat

end Pause

/-- Waits. -/
def Program.sleep (args : List String) : Answered :=
  let r := Options.read Pause.known args
  match r.fault with
  | some reason => misused 1 "sleep" reason
  | none =>
    let refused := r.operands.filter fun text => (Pause.seconds? text).isNone
    let reasons := refused.map fun text => "sleep: invalid time interval " ++ Options.inQuotes text
    if !(r.options.isEmpty) then .ofStatus 0
    else if r.operands.isEmpty then misused 1 "sleep" "missing operand"
    else if !refused.isEmpty then
      failing 1 ("\n".intercalate (reasons ++ ["Try " ++ Options.inQuotes "sleep --help" ++
        " for more information."]))
    else
      let times := (r.operands.filterMap Pause.seconds?).map Pause.microsOf
      { Answered.ofStatus 0 with micros := times.foldl (· + ·) 0 }

end TextRepair.Shell
