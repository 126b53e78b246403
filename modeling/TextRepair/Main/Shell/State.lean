import TextRepair.Main.Shell.Channel
import TextRepair.Main.Shell.Program
import TextRepair.Main.Shell.Syntax

/-!
# The state of a shell

What commands can see and change. An `Action` goes from state to state and may stop the commands that
stand around it.
-/

namespace TextRepair.Shell

/-- The number of the stream that commands read. -/
def inputStream : Nat := 0

/-- The number of the stream that commands write. -/
def outputStream : Nat := 1

/-- The number of the stream for messages. -/
def messageStream : Nat := 2

/-- A variable. -/
structure Variable where
  name : String
  /-- A variable without a value may still have marks. -/
  value : Option String
  /-- Whether programs see it. -/
  exported : Bool
  /-- Whether it keeps its value. -/
  constant : Bool
  deriving DecidableEq, Repr

/-- What a shell can be told to do or not to do besides running commands. -/
inductive Habit where
  /-- It ends when a command fails. -/
  | errexit
  /-- It takes wildcards for themselves. -/
  | noglob
  | ignoreeof
  | interactive
  | monitor
  /-- It reads commands and does not run them. -/
  | noexec
  | stdin
  /-- It shows commands before it runs them. -/
  | xtrace
  /-- It shows what it reads. -/
  | verbose
  | vi
  | emacs
  /-- It overwrites no files. -/
  | noclobber
  /-- Programs see all variables that are set. -/
  | allexport
  | notify
  /-- A variable that is not set is an error. -/
  | nounset
  | privileged
  | nolog
  | debug
  deriving DecidableEq, Repr

namespace Habit

/-- All habits with their names, and the letters of those that have one. -/
def all : List (Habit × String × Option Char) :=
  [(errexit, "errexit", some 'e'), (noglob, "noglob", some 'f'), (ignoreeof, "ignoreeof", some 'I'),
    (interactive, "interactive", some 'i'), (monitor, "monitor", some 'm'),
    (noexec, "noexec", some 'n'), (stdin, "stdin", some 's'), (xtrace, "xtrace", some 'x'),
    (verbose, "verbose", some 'v'), (vi, "vi", some 'V'), (emacs, "emacs", some 'E'),
    (noclobber, "noclobber", some 'C'), (allexport, "allexport", some 'a'),
    (notify, "notify", some 'b'), (nounset, "nounset", some 'u'), (privileged, "privileged", some 'p'),
    (nolog, "nolog", none), (debug, "debug", none)]

end Habit

/-- What a function changes for itself alone. -/
inductive Shadow where
  | variable (name : String) (before : Option Variable)
  | habits (before : List Habit)

/-- A command that is not waited for. -/
structure Job where
  /-- The number by which the system knows it. -/
  process : Nat
  /-- The number by which the shell knows it. -/
  number : Nat
  status : Nat
  /-- The time at which it ends. -/
  finish : Nat
  /-- Whether it has been waited for. -/
  isAwaited : Bool
  /-- The number of commands in its pipeline. -/
  commands : Nat
  deriving DecidableEq, Repr

/-- A place among arguments that are options. -/
structure LetterPlace where
  /-- The number of the next argument. -/
  argument : Nat
  /-- The place of the next letter in the argument before it, if it has more letters. -/
  letter : Option Nat
  deriving DecidableEq, Repr

/-- The place of the first argument. -/
def LetterPlace.first : LetterPlace := ⟨1, none⟩

/-- A shell under way. -/
structure State extends World where
  cwd : Path
  /-- The open streams and their channels. -/
  streams : List (Nat × Nat)
  /-- The name of the script and its arguments. -/
  parameters : List String
  bindings : List Variable
  functions : List (String × Command)
  aliases : List (String × String)
  /-- The commands for the end of the shell and for signals. -/
  traps : List (String × String)
  habits : List Habit
  status : Nat
  /-- The line of the command under way. -/
  line : Nat
  /-- What the command under way is read from, if it is no command text of its own, as messages name it. -/
  context : Option String
  /-- The loops around the command under way. -/
  loops : Nat
  /-- The functions around the command under way. -/
  depth : Nat
  /-- The variables to put back when the function under way ends; none outside of functions. -/
  shadowed : Option (List Shadow)
  /-- The last job comes first. -/
  jobs : List Job
  /-- The number of the last job started. -/
  lastProcess : Option Nat
  /-- The job that this shell is, 0 for none. -/
  job : Nat
  /-- The status of the last commands whose output went into the command under way. -/
  captured : Nat
  /-- The place of the next option among the arguments. -/
  letterPlace : LetterPlace
  /-- The rights that new files do not get. -/
  mask : Nat
  /-- The programs whose places are known. -/
  hashed : List String

/-- Why the commands that come next are not run. -/
inductive Stop where
  /-- The shell ends with its status. -/
  | exits
  /-- The same after an error, which only ends the command under way if that says so. -/
  | fails
  /-- The shell is ended by a signal. -/
  | killed (signal : Nat)
  /-- The time is up. -/
  | late
  | breaks (levels : Nat)
  | continues (levels : Nat)
  | returns
  deriving DecidableEq, Repr

/-- A step of a shell. What has happened before a stop stays. -/
abbrev Action := ExceptT Stop (StateM State)

/-- The number by which a shell knows itself. -/
def ownNumber : Nat := 4242

/-- The signal for a writer whom nobody reads. -/
def pipeSignal : Nat := 13

namespace State

/-- The name of the shell in its messages. -/
def name (s : State) : String :=
  s.parameters.headD "sh"

/-- What the messages of the shell start with. -/
def speaker (s : State) : String :=
  let context := (s.context.map (· ++ ": ")).getD ""
  s!"{s.name}: {s.line}: {context}"

/-- Whether the shell has a habit. -/
def has (s : State) (h : Habit) : Bool :=
  s.habits.contains h

/-- The channel of a numbered stream; none if it is closed. -/
def channel? (s : State) (n : Nat) : Option Nat :=
  (s.streams.find? (·.1 = n)).map Prod.snd

/-- Opens a numbered stream, or closes it. -/
def setStream (s : State) (n : Nat) (channel : Option Nat) : State :=
  let others := s.streams.filter (·.1 ≠ n)
  { s with streams := (channel.map fun channel => (n, channel)).toList ++ others }

/-- Opens a stream on a new channel. -/
def openChannel (s : State) (n : Nat) (c : Channel) : State :=
  let (channel, w) := s.newChannel c
  { s with toWorld := w }.setStream n (some channel)

/-- What is left to read of a stream, none if it cannot be read, and when its end is known. -/
def unreadOf (s : State) (n : Nat) : Option String × Nat :=
  match s.channel? n with
  | some channel => s.toWorld.unread channel
  | none => (none, 0)

/-- Leaves a text to read in a stream. -/
def leave (s : State) (n : Nat) (rest : String) : State :=
  match s.channel? n with
  | some channel => { s with toWorld := s.toWorld.setUnread channel rest }
  | none => s

/-- The open file of a stream. -/
def fileOf? (s : State) (n : Nat) : Option Path :=
  match (s.channel? n).bind (s.channels[·]?) with
  | some (.file p _ _) => some p
  | _ => none

/-- The variables that programs see. -/
def environment (s : State) : List (String × String) :=
  s.bindings.filterMap fun v => if v.exported then v.value.map fun value => (v.name, value) else none

/-- What programs see. -/
def setting (s : State) : Setting where
  tree := s.tree
  cwd := s.cwd
  input := (s.unreadOf inputStream).1
  inputFile := s.fileOf? inputStream
  outputFile := s.fileOf? outputStream
  environment := s.environment
  speaker := s.speaker

/-- A variable by its name. -/
def binding? (s : State) (name : String) : Option Variable :=
  s.bindings.find? (·.name = name)

/-- The value of a variable. -/
def value? (s : State) (name : String) : Option String :=
  (s.binding? name).bind Variable.value

/-- The blanks and other characters that separate fields. -/
def separators (s : State) : List Char :=
  match s.value? "IFS" with
  | some text => text.toList
  | none => [' ', '\t', '\n']

/-- The letters of the habits. -/
def habitLetters (s : State) : String :=
  String.ofList (Habit.all.reverse.filterMap fun (h, _, letter) => if s.has h then letter else none)

/-- The value of a parameter, none if it is not set. -/
def parameter? (s : State) (name : String) : Option String :=
  let args := s.parameters.drop 1
  if name = "?" then some (toString s.status)
  else if name = "#" then some (toString args.length)
  else if name = "$" then some (toString ownNumber)
  else if name = "!" then s.lastProcess.map toString
  else if name = "-" then some s.habitLetters
  else if name = "@" then if args.isEmpty then none else some (" ".intercalate args)
  else if name = "*" then
    let between := match s.separators with | [] => "" | c :: _ => String.singleton c
    if args.isEmpty then none else some (between.intercalate args)
  else
    match Text.natOfDigits? name.toList with
    | some n => s.parameters[n]?
    | none => s.value? name

/-- Sets a variable and keeps whether programs see it. -/
def assign (s : State) (name value : String) : State :=
  let exported := (s.binding? name).any Variable.exported || s.has .allexport
  let s :=
    if name = "OPTIND" then
      { s with letterPlace := ⟨max 1 ((Text.natOfDigits? value.toList).getD 1), none⟩ }
    else s
  let s := if name = "PATH" then { s with hashed := [] } else s
  { s with bindings := ⟨name, some value, exported, false⟩ :: s.bindings.filter (·.name ≠ name) }

/-- Puts a variable back as it was before. -/
def putBack (s : State) (name : String) (before : Option Variable) : State :=
  { s with bindings := before.toList ++ s.bindings.filter (·.name ≠ name) }

end State

/-- Puts back what a function has changed for itself. -/
def Shadow.restore (s : State) : Shadow → State
  | .variable name before => s.putBack name before
  | .habits before => { s with habits := before }

namespace Action

/-- The microseconds that a command of the shell takes. -/
def commandTime : Nat := 5

/-- The microseconds until a shell that starts another one goes on. -/
def forkTime : Nat := 60

/-- The microseconds until a new shell begins. -/
def birthTime : Nat := 150

/-- The microseconds that a program takes to start and to end. -/
def programTime : Nat := 700

/-- Waits until a time. -/
def waitUntil (time : Nat) : Action Unit := do
  modify fun s => { s with now := max s.now time }
  let s ← get
  if s.limit ≤ s.now then throw .late

/-- The time that something takes. -/
def spend (micros : Nat) : Action Unit := do
  waitUntil ((← get).now + micros)

/-- Ends a command with a status. -/
def finish (status : Nat) : Action Unit :=
  modify fun s => { s with status }

/-- Writes to a stream; what is wrong if that fails. A writer whom nobody reads is ended. -/
def tryWrite (n : Nat) (text : String) : Action (Option WriteError) := do
  if text.isEmpty then return none
  let s ← get
  let result := match s.channel? n with
    | some channel => s.toWorld.write s.job channel text
    | none => .error .closed
  match result with
  | .ok w =>
    set { s with toWorld := w }
    return none
  | .error .stuck => throw (.killed pipeSignal)
  | .error e => return some e

/-- Writes a message to the stream for them. -/
def message (text : String) : Action Unit := do
  let _ ← tryWrite messageStream text

/-- Writes a message of the shell. -/
def say (text : String) : Action Unit := do
  message ((← get).speaker ++ text ++ "\n")

/-- Ends a command with a status and a message. -/
def fail (status : Nat) (text : String) : Action Unit := do
  say text
  finish status

/-- Ends the shell with a message. -/
def abort {α : Type} (text : String) : Action α := do
  fail 2 text
  throw .fails

/-- Writes the output of a command of the shell, which fails if it cannot be written. -/
def print (command text : String) : Action Unit := do
  if (← tryWrite outputStream text).isSome then fail 1 s!"{command}: {command}: I/O error"

/-- Waits for the end of the input, if there is any. -/
def awaitInput : Action Unit := do
  waitUntil ((← get).unreadOf inputStream).2

/-- Takes over what a command of the shell has answered. -/
def takeOwn (command : String) (a : Answered) : Action Unit := do
  finish a.status
  a.written.forM fun
    | .message text => message text
    | .output text => print command text

/-- Takes over what a program has left; `fault` is what it says and its status if it cannot write. -/
def takeProgram (fault : WriteError → String × Nat) (a : Answered) : Action Unit := do
  spend (programTime + a.micros)
  if a.rest.isSome then awaitInput
  finish a.status
  let errors ← a.written.filterMapM fun
    | .message text => do
      message text
      return none
    | .output text => tryWrite outputStream text
  if let e :: _ := errors then
    let (text, status) := fault e
    message text
    finish status
  if let some rest := a.rest then modify fun s => s.leave inputStream rest

/-- Sets a variable, unless it keeps its value, which is an error that starts with `start`. -/
def assign (start name value : String) : Action Unit := do
  if ((← get).binding? name).any Variable.constant then abort s!"{start}{name}: is read only"
  else modify fun s => s.assign name value

/-- Runs an action and puts something back afterwards, however it ends. -/
def restoring {α β : Type} (part : State → β) (back : β → State → State) (x : Action α) : Action α :=
  fun s =>
    let (result, after) := x s
    (result, back (part s) after)

/-- Runs an action whose messages name a context. -/
def within (context : Option String) (x : Action Unit) : Action Unit :=
  restoring State.context (fun context s => { s with context }) do
    modify fun s => { s with context }
    x

/-- Runs an action that an error of its own ends with its status. -/
def surviving (x : Action Unit) : Action Unit :=
  tryCatch x fun
    | .fails => return
    | other => throw other

/-- Runs an action in a shell of its own, of which only the world and the status stay. A stop of the
inner shell does not stop the outer one, except for the end of the time and a signal that somebody has
sent. -/
def isolated (x : Action Unit) : Action Unit := fun s =>
  let start := s.now + birthTime
  let (result, inner) := x { s with traps := [], jobs := [], now := start }
  let after := { s with toWorld := inner.toWorld, status := inner.status }
  match result with
  | .error (.killed n) =>
    if n = pipeSignal then (.ok (), { after with status := 128 + n }) else (.error (.killed n), after)
  | .error .late => (.error .late, after)
  | _ => (.ok (), after)

/-- Runs the body of a loop once; whether the loop goes on. -/
def inLoop (body : Action Unit) : Action Bool :=
  tryCatch (do body; return true) fun
    | .breaks n => if n ≤ 1 then return false else throw (.breaks (n - 1))
    | .continues n => if n ≤ 1 then return true else throw (.continues (n - 1))
    | other => throw other

/-- Repeats a round of a loop while it goes on, at most `most` times. -/
def rounds (round : Action Bool) : (most : Nat) → Action Unit
  | 0 => throw .late
  | most + 1 => do
    spend commandTime
    if ← round then rounds round most

/-- Repeats a round of a loop while it goes on, as long as there is time. -/
def forever (round : Action Bool) : Action Unit := do
  let s ← get
  rounds round ((s.limit - s.now) / commandTime + 1)

/-- Runs a round for each of some values while the loop goes on. -/
def forEach {α : Type} (round : α → Action Bool) : List α → Action Unit
  | [] => return
  | a :: rest => do
    spend commandTime
    if ← round a then forEach round rest

end Action

end TextRepair.Shell
