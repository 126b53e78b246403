import TextRepair.CommandLine.Arguments

/-!
# Requests

What a command line asks for: an application of an edit, a diagnosis, or a session. `Request.ofArgs`
reads it from the arguments.
-/

namespace TextRepair.CommandLine

/-- Where the edit of an application comes from. -/
inductive EditSource where
  | diff (file : String)
  | snippets (before after : String)
  | missing
  deriving DecidableEq, Repr

/-- What to do. -/
inductive Task where
  | apply (file : String) (source : EditSource) (inPlace report : Bool)
  | diagnose (file : String) (command : Option String)
  | session (file : String) (command : Option String) (script : String) (maxCycles : Option Nat)
      (recordDir : Option String)
  deriving DecidableEq, Repr

/-- A task with the options that all tasks share. -/
structure Request where
  /-- How often more messages are asked for. -/
  verbosity : Nat
  /-- Whether messages are wanted as JSON. -/
  json : Bool
  /-- The settings file. -/
  settings : String
  task : Task
  deriving DecidableEq, Repr

namespace Request

/-- The options that all tasks share. -/
def sharedOptions : List OptionSpec :=
  [⟨"verbose", some 'v', .count⟩, ⟨"json", none, .flag⟩, ⟨"config", some 'c', .value isFileName⟩,
    ⟨"help", some 'h', .help⟩]

/-- The options before the name of a task. -/
def outerOptions : List OptionSpec :=
  ⟨"version", some 'V', .version⟩ :: sharedOptions

/-- The names of tasks, and that of the request for help. -/
def commands : List String :=
  ["apply", "diagnose", "session", "help"]

/-- The file that a task works on. -/
def fileOption : OptionSpec :=
  ⟨"file", some 'f', .value isFileName⟩

/-- An option whose value is the name of a file. -/
def fileNamed (name : String) : OptionSpec :=
  ⟨name, none, .value isFileName⟩

/-- The check command of a task. -/
def commandOption : OptionSpec :=
  ⟨"command", none, .value fun _ => true⟩

/-- The options of a task. -/
def optionsOf (command : String) : List OptionSpec :=
  sharedOptions ++
    if command = "apply" then
      [fileOption, fileNamed "diff", fileNamed "before", fileNamed "after",
        ⟨"in-place", none, .flag⟩, ⟨"report", none, .flag⟩]
    else if command = "diagnose" then [fileOption, commandOption]
    else
      [fileOption, commandOption, fileNamed "script",
        ⟨"max-cycles", none, .value fun s => (count? s).isSome⟩, fileNamed "record-dir"]

/-- The value of an option that must be given. -/
def needed (g : Given) (name : String) : Except Stop String :=
  match g.value? name with
  | some value => .ok value
  | none => .error .usage

/-- The source of an edit. Snippets come in pairs and exclude a diff. -/
def editSource (g : Given) : Except Stop EditSource :=
  match g.value? "diff", g.value? "before", g.value? "after" with
  | some file, none, none => .ok (.diff file)
  | none, some before, some after => .ok (.snippets before after)
  | none, none, none => .ok .missing
  | _, _, _ => .error .usage

/-- The task of a command with its options. -/
def taskOf (command : String) (g : Given) : Except Stop Task := do
  let file ← needed g "file"
  if command = "apply" then
    return .apply file (← editSource g) (g.has "in-place") (g.has "report")
  else if command = "diagnose" then return .diagnose file (g.value? "command")
  else
    return .session file (g.value? "command") (← needed g "script")
      ((g.value? "max-cycles").bind count?) (g.value? "record-dir")

/-- The settings file used where none is given. -/
def standardSettings : String := "patchmend.toml"

/-- The settings file: the one given last, else the one of the environment. An environment that gives
an empty name is refused wherever it could be used. -/
def settingsOf (environment : Option String) (outer inner : Given) : Except Stop String :=
  if environment = some "" && !(outer.has "config" && inner.has "config") then .error .usage
  else
    .ok ((inner.value? "config" <|> outer.value? "config" <|> environment).getD standardSettings)

/-- Whether help can be given about what follows the request for it. -/
def helpOn (topics : List String) : Stop :=
  match topics with
  | [] => .help
  | [topic] => if topic ∈ commands then .help else .usage
  | _ => .usage

/-- What the arguments ask for, with the settings file that the environment names. -/
def ofArgs (environment : Option String) (args : List String) : Except Stop Request := do
  let (outer, found) ← scan outerOptions commands [] none args
  match found with
  | none => .error .usage
  | some (command, rest) =>
    if command = "help" then .error (helpOn rest)
    let (inner, _) ← scan (optionsOf command) [] [] none rest
    let settings ← settingsOf environment outer inner
    return {
      verbosity := (if inner.has "verbose" then inner else outer).count "verbose"
      json := outer.has "json" || inner.has "json"
      settings
      task := ← taskOf command inner }

end Request

end TextRepair.CommandLine
