import TextRepair.CompilerOutput
import TextRepair.Launcher
import TextRepair.Settings
import TextRepair.Text.Utf8

/-!
# Checks by command

A check writes the candidate to a file, runs a command in which a placeholder stands for the name of
that file, and reads the diagnostics from what the command prints. The candidate goes to the target
file of the settings, where it stays, or to a scratch file that is gone after the check.

* `substituteFile` : the command for a file.
* `CheckSettings.run` : one check, as a change of a file tree.
-/

namespace TextRepair

/-- The place for the name of the file in an argument. -/
def filePlaceholder : List Char :=
  "\x7bfile\x7d".toList

/-- A text with `value` in every place of `pattern`, after `skip` more characters are left out. -/
def replaceAll (pattern value : List Char) : (skip : Nat) → List Char → List Char
  | _, [] => []
  | skip + 1, _ :: cs => replaceAll pattern value skip cs
  | 0, c :: cs =>
    if pattern.isPrefixOf (c :: cs) then value ++ replaceAll pattern value (pattern.length - 1) cs
    else c :: replaceAll pattern value 0 cs

/-- A command for a file. -/
def substituteFile (command : List String) (file : String) : List String :=
  command.map fun arg => String.ofList (replaceAll filePlaceholder file.toList 0 arg.toList)

/-- What a command has printed. -/
structure CommandOutput where
  /-- None if the command was ended by a signal. -/
  exitCode : Option Int
  stdout : String
  stderr : String
  millis : Nat
  deriving DecidableEq, Repr, Inhabited

namespace CommandOutput

/-- What a finished program has printed, with unreadable bytes replaced. -/
def ofResult (r : ProgramResult) : CommandOutput where
  exitCode := r.exitCode
  stdout := Text.decodeLossy r.output.toList
  stderr := Text.decodeLossy r.messages.toList
  millis := r.millis

/-- The report of a check with this output. -/
def report (o : CommandOutput) : CheckReport where
  stdout := o.stdout
  stderr := o.stderr
  signatures := CompilerOutput.ofCommand o.stdout o.stderr o.exitCode
  exitCode := o.exitCode

end CommandOutput

/-- Why a check has no report. -/
inductive CheckError where
  | emptyCommand
  | spawn (program : String) (e : FileError)
  /-- The candidate could not be written. -/
  | staging (e : FileError)
  | timeout (seconds : Nat)
  deriving DecidableEq, Repr

namespace CheckError

def message : CheckError → String
  | emptyCommand => "compile command is empty"
  | spawn program e => s!"failed to spawn {program}: {e.message}"
  | staging e => s!"failed to write candidate document: {e.message}"
  | timeout seconds => s!"command timed out after {seconds}s"

/-- The error as the answer of a call. -/
def toCallError : CheckError → CallError
  | timeout seconds => .timeout "verify" seconds
  | e => .verification e.message

end CheckError

namespace CheckSettings

/-- The first scratch file that is not there yet. -/
def scratchName (tree : FileTree) : String :=
  let name (n : Nat) : String := s!"/tmp/patchmend-{n}"
  let isFree (n : Nat) : Bool := (tree.read [] (name n)).toOption.isNone
  name (((List.range tree.entries.length).find? isFree).getD tree.entries.length)

/-- The file that a candidate goes to. -/
def stagingName (s : CheckSettings) (tree : FileTree) : String :=
  s.target.getD (scratchName tree)

/-- The tree after a check. -/
def unstage (s : CheckSettings) (cwd : Path) (file : String) (tree : FileTree) : FileTree :=
  match s.target with
  | some _ => tree
  | none => (tree.remove cwd file).toOption.getD tree

/-- The directory in which a check runs. -/
def directory (s : CheckSettings) (cwd : Path) (tree : FileTree) : Except FileError Path :=
  match s.workdir with
  | some name => tree.resolve cwd name
  | none => .ok cwd

/-- Runs a command for as long as the settings allow. -/
def launch (s : CheckSettings) (launcher : Launcher) (cwd : Path) (tree : FileTree) :
    List String → Except CheckError CommandOutput × FileTree
  | [] => (.error .emptyCommand, tree)
  | program :: args =>
    match s.directory cwd tree with
    | .error e => (.error (.spawn program e), tree)
    | .ok directory =>
      match launcher tree directory program args (1000 * s.seconds) with
      | .ok r => (.ok (.ofResult r), r.tree)
      | .error (.spawn e) => (.error (.spawn program e), tree)
      | .error (.timeout tree) => (.error (.timeout s.seconds), tree)

/-- A check of a document by a command: its report, or why there is none, and the files after it. -/
def run (s : CheckSettings) (launcher : Launcher) (cwd : Path) (d : Document)
    (command : List String) : StateM FileTree (Except CheckError CheckReport) := fun tree =>
  let file := s.stagingName tree
  match tree.writeText cwd file d.toText with
  | .error e => (.error (.staging e), tree)
  | .ok staged =>
    let (answer, after) := s.launch launcher cwd staged (substituteFile command file)
    (answer.map CommandOutput.report, s.unstage cwd file after)

end CheckSettings

end TextRepair
