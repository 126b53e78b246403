import TextRepair.CommandLine.Log
import TextRepair.CommandLine.Request
import TextRepair.Session.Workshop
import TextRepair.Stored.SettingsFile

/-!
# Running a command line

Each task reads its files, does its work on a file tree, and leaves texts for the two streams. A task
that fails ends with one line about what it could not do, and with status 1.

* `applyTask`, `diagnoseTask`, `sessionTask` : the tasks.
* `run` : the arguments of a command line.
-/

namespace TextRepair.CommandLine

/-- The files and what has been written to the streams so far. -/
structure Desk where
  tree : FileTree
  stdout : String
  stderr : String
  /-- What was told about the progress. -/
  events : List Event

/-- Work at a desk, which may end early with a message. -/
abbrev Work (α : Type) := ExceptT String (StateM Desk) α

namespace Work

/-- Writes to the output. -/
def print (text : String) : Work Unit :=
  modify fun desk => { desk with stdout := desk.stdout ++ text }

/-- Writes a line to the stream of messages. -/
def say (line : String) : Work Unit :=
  modify fun desk => { desk with stderr := desk.stderr ++ line ++ "\n" }

/-- Tells events. -/
def tell (events : List Event) : Work Unit :=
  modify fun desk => { desk with events := desk.events ++ events }

/-- The value of a computation that may fail, with a message for its failure. -/
def expect {ε α : Type} (message : String) : Except ε α → Work α
  | .ok a => return a
  | .error _ => throw message

/-- The text of a file. -/
def read (h : Host) (message name : String) : Work String := do
  expect message ((← get).tree.readText h.cwd name)

/-- The document of a file. -/
def readDocument (h : Host) (file : String) : Work Document :=
  Document.parse <$> read h s!"Failed to read {file}" file

/-- Writes a document to a file. -/
def writeDocument (h : Host) (file : String) (d : Document) : Work Unit := do
  let tree ← expect s!"Failed to write {file}" ((← get).tree.writeText h.cwd file d.toText)
  modify fun desk => { desk with tree }

end Work

open Work

/-- The edit of a task. -/
def readEdit (h : Host) : EditSource → Work Edit
  | .diff file => do
    expect "Failed to parse diff" (Edit.ofText (← read h s!"Failed to read diff {file}" file))
  | .snippets before after => do
    let old ← read h s!"Failed to read {before}" before
    let new ← read h s!"Failed to read {after}" after
    return .snippets old new
  | .missing => throw "Provide --diff, or both --before and --after"

/-- Applies an edit to a file, and prints the result or writes it back. -/
def applyTask (h : Host) (settings : Settings) (file : String) (edit : Edit)
    (inPlace report : Bool) : Work Unit := do
  let d ← readDocument h file
  expect "Invalid apply options" settings.apply.check
  let outcome ← expect "Malformed edit" (settings.apply.applyEdit d edit)
  tell outcome.events
  if report then say (Json.listOf HunkReport.toJson outcome.reports).pretty
  if !outcome.success then
    outcome.failures.forM fun r => say r.describe
    throw s!"Patch did not apply to {file}"
  if inPlace then
    writeDocument h file outcome.document
    say s!"Patched {file} ({outcome.reports.length} hunk(s))"
  else print outcome.document.toText

/-- The check command: the given one, cut at blanks, or else the one of the settings. -/
def checkCommand (given : Option String) (configured : List String) : Work (List String) := do
  let command := match given with
    | some text => (Text.words text).map String.ofList
    | none => configured
  if command.isEmpty then throw "No check command: pass --command or set session.compile_command"
  return command

/-- The settings of checks: candidates go to the file itself unless the settings name another one. -/
def checkSettings (settings : Settings) (file : String) : CheckSettings :=
  { settings.check with target := some (settings.check.target.getD file) }

/-- Checks a file and shows the first error. -/
def diagnoseTask (h : Host) (settings : Settings) (file : String) (given : Option String) :
    Work Unit := do
  let d ← readDocument h file
  let command ← checkCommand given settings.session.command
  let check := h.check (checkSettings settings file)
  let desk ← get
  let (answer, tree) := diagnoseBy check command settings.session.contextRadius d [] desk.tree
  set { desk with tree }
  match ← expect "Diagnosis failed" answer with
  | none => print s!"No blocking errors in {file}\n"
  | some context =>
    print (context.render ++ "\n")
    if 1 < context.baseline.length then
      print s!"({context.baseline.length} diagnostics reported in total)\n"

/-- The summary of a cycle. -/
def cycleSummary (c : Cycle) : Json :=
  .object [
    ("index", .nat c.index),
    ("target", .option .text (c.target.map Signature.label)),
    ("outcome", c.outcome.toJson),
    ("hypotheses", .nat c.hypotheses.length),
    ("attempts", .nat c.trials.length)]

/-- The summary of a session. -/
def summary (r : SessionResult) : Json :=
  .object [
    ("session_id", .text r.sessionId),
    ("outcome", r.outcome.toJson),
    ("cycles_used", .nat r.cyclesUsed),
    ("cycles", .listOf cycleSummary r.history)]

/-- The script of a file. -/
def readScript (h : Host) (file : String) : Work Script := do
  let message := s!"Failed to load replay script {file}"
  let text ← read h message file
  match (Json.read? text).bind Script.ofJson.ofValue? with
  | some script => return script
  | none => throw message

/-- Runs a scripted session on a file, writes its final document back, and prints a summary. -/
def sessionTask (h : Host) (settings : Settings) (file : String) (given : Option String)
    (script : String) (maxCycles : Option Nat) (recordDir : Option String) : Work Unit := do
  let d ← readDocument h file
  let script ← readScript h script
  let command ← checkCommand given settings.session.command
  let config : SessionConfig := { settings.forSession with
    command, maxCycles := maxCycles.getD settings.session.maxCycles }
  let recorder := Workshop.recorder h (recordDir.map fun root => { cwd := h.cwd, root })
  let collaborators := Workshop.collaborators h (checkSettings settings file) config
  let session ← expect "Invalid session configuration"
    (runSession config collaborators recorder h.sessionId d)
  let desk ← get
  let ((result, events), w) := session { tree := desk.tree, replay := .ofScript script }
  set { desk with tree := w.tree }
  tell events
  writeDocument h file result.document
  print ((summary result).pretty ++ "\n")
  if !result.hasSucceeded then throw s!"Repair session ended: {result.outcome.name}"

/-- Does what a request asks for. -/
def perform (h : Host) (r : Request) : Work Unit := do
  let settings ← expect s!"Failed to load config {r.settings}"
    (Settings.load (← get).tree h.cwd r.settings)
  match r.task with
  | .apply file source inPlace report =>
    applyTask h settings file (← readEdit h source) inPlace report
  | .diagnose file command => diagnoseTask h settings file command
  | .session file command script maxCycles recordDir =>
    sessionTask h settings file command script maxCycles recordDir

/-- What a command line leaves. -/
structure Output where
  status : Nat
  stdout : String
  stderr : String
  /-- The lines about the progress that are important enough to be shown. -/
  log : List String
  tree : FileTree

/-- The version of the program. -/
def versionText : String := "0.3.1"

/-- How the program is called. -/
def usageText : String :=
  "Usage: patchmend [OPTIONS] <COMMAND>\n\n" ++
  "Commands:\n" ++
  "  apply     Apply an edit to a file\n" ++
  "  diagnose  Run a check command and show the first error\n" ++
  "  session   Run a repair session with a scripted advisor\n" ++
  "  help      Print this message\n\n" ++
  "Options:\n" ++
  "  -v, --verbose          Tell more about the progress\n" ++
  "      --json             Tell it as JSON\n" ++
  "  -c, --config <CONFIG>  Settings file\n" ++
  "  -h, --help             Print help\n" ++
  "  -V, --version          Print version\n"

/-- The output of a command line that asks for no work. -/
def Stop.output (tree : FileTree) : Stop → Output
  | .usage => { status := 2, stdout := "", stderr := usageText, log := [], tree }
  | .help => { status := 0, stdout := usageText, stderr := "", log := [], tree }
  | .version => { status := 0, stdout := s!"patchmend {versionText}\n", stderr := "", log := [], tree }

/-- Runs a command line on the files. The settings file may be named by the environment. -/
def run (h : Host) (environment : Option String) (args : List String) (tree : FileTree) : Output :=
  match Request.ofArgs environment args with
  | .error stop => stop.output tree
  | .ok request =>
    let (answer, desk) := (perform h request).run { tree, stdout := "", stderr := "", events := [] }
    let (status, ending) : Nat × String :=
      match answer with
      | .ok () => (0, "")
      | .error message => (1, s!"Error: {message}\n")
    { status
      stdout := desk.stdout
      stderr := desk.stderr ++ ending
      log := logLines (Level.ofVerbosity request.verbosity) request.json h.now desk.events
      tree := desk.tree }

end TextRepair.CommandLine
