import TextRepair.Text.Blank

/-!
# Diagnostics

A `Signature` is one diagnostic of a check: its severity, code, message and position. Its
`fingerprint` leaves the position out, because patches move lines.

* `Signature.first?` : the blocking diagnostic that comes first in the file.
* `judge` : what a candidate's diagnostics mean for the targeted one.
-/

namespace TextRepair

/-- How bad a diagnostic is, mildest first. -/
inductive Severity where
  | note
  | warning
  | error
  deriving DecidableEq, Repr, Inhabited

namespace Severity

/-- All severities. -/
def all : List Severity :=
  [note, warning, error]

/-- The name in stored data. -/
def name : Severity → String
  | note => "note"
  | warning => "warning"
  | error => "error"

end Severity

/-- One diagnostic. Lines and columns count from 1. -/
structure Signature where
  severity : Severity
  code : Option String
  message : String
  /-- The file as the tool names it. -/
  file : Option String
  line : Option Nat
  column : Option Nat
  deriving DecidableEq, Repr, Inhabited

/-- The position that stands for an unknown one: no line or column is beyond it. -/
def unknownPosition : Nat := UInt32.size - 1

namespace Signature

/-- An error without code and position. -/
def error (message : String) : Signature :=
  { severity := .error, code := none, message, file := none, line := none, column := none }

/-- Whether the diagnostic stands in the way. -/
def isBlocking (s : Signature) : Bool :=
  s.severity = .error

/-- The diagnostic without its place: code and message, differences in blanks aside. -/
def fingerprint (s : Signature) : String :=
  s.code.getD "" ++ "|" ++ Text.collapseBlanks s.message

/-- The line counted from 0. -/
def lineIndex? (s : Signature) : Option Nat :=
  s.line.map (· - 1)

/-- Code, position and message in one line. A column without a line is not shown. -/
def label (s : Signature) : String :=
  let code := match s.code with
    | some code => code ++ " "
    | none => ""
  let place := match s.line, s.column with
    | some l, some c => s!"at {l}:{c}: "
    | some l, none => s!"at line {l}: "
    | none, _ => ""
  code ++ place ++ s.message

/-- Whether `s` stands strictly before `t`: by line, then by column, unknown ones last. -/
def precedes (s t : Signature) : Bool :=
  let line (x : Signature) := x.line.getD unknownPosition
  let column (x : Signature) := x.column.getD unknownPosition
  line s < line t || (line s == line t && column s < column t)

/-- The first of a non-empty list of diagnostics that no other one precedes. -/
def earliest (s : Signature) (rest : List Signature) : Signature :=
  rest.foldl (fun best t => if t.precedes best then t else best) s

/-- The blocking diagnostics. -/
def blocking (signatures : List Signature) : List Signature :=
  signatures.filter isBlocking

/-- The blocking diagnostic that comes first in the file. -/
def first? (signatures : List Signature) : Option Signature :=
  match blocking signatures with
  | [] => none
  | s :: rest => some (earliest s rest)

/-- The number of blocking diagnostics with a fingerprint. -/
def copies (signatures : List Signature) (fingerprint : String) : Nat :=
  (blocking signatures).countP fun s => s.fingerprint = fingerprint

end Signature

/-- What a check says about a candidate. -/
inductive Verdict where
  /-- The target is gone and nothing new stands in the way. -/
  | fixed
  | targetPersists
  | newError (signature : Signature)
  deriving DecidableEq, Repr, Inhabited

namespace Verdict

/-- Whether the candidate is good. -/
def isFixed : Verdict → Bool
  | fixed => true
  | _ => false

/-- The reason for turning a candidate down. -/
def reason : Verdict → String
  | fixed => "fixed"
  | targetPersists => "target error persists"
  | newError signature => s!"introduced new error: {signature.label}"

end Verdict

/-- The first of the blocking diagnostics that, together with the earlier ones of its fingerprint,
outnumbers those in `baseline`; `seen` holds the earlier ones. -/
def firstNew? (baseline seen : List Signature) : List Signature → Option Signature
  | [] => none
  | s :: rest =>
    if Signature.copies baseline s.fingerprint < Signature.copies (s :: seen) s.fingerprint then some s
    else firstNew? baseline (s :: seen) rest

/-- Compares the diagnostics before and after a change as multisets of fingerprints. The target is
gone once it has fewer copies than before, and an error is new once it has more. -/
def judge (target : Signature) (baseline after : List Signature) : Verdict :=
  let copies := Signature.copies after target.fingerprint
  if max 1 (Signature.copies baseline target.fingerprint) ≤ copies then .targetPersists
  else
    match firstNew? baseline [] (Signature.blocking after) with
    | some s => .newError s
    | none => .fixed

end TextRepair
