import TextRepair.Main.Shell.Builtin.Habits

/-!
# Signals and jobs

The commands for what is done at signals, and for commands that are not waited for.
-/

namespace TextRepair.Shell.Builtin

/-! ## Signals -/

/-- The signals by their names and numbers. The first one stands for the end of the shell. -/
def signals : List (String × Nat) :=
  let low := ["EXIT", "HUP", "INT", "QUIT", "ILL", "TRAP", "ABRT", "BUS", "FPE", "KILL", "USR1", "SEGV",
    "USR2", "PIPE", "ALRM", "TERM", "16", "CHLD", "CONT", "STOP", "TSTP", "TTIN", "TTOU", "URG", "XCPU",
    "XFSZ", "VTALRM", "PROF", "WINCH", "IO", "PWR", "SYS", "32", "33", "RTMIN"]
  let after := (List.range 15).map fun n => s!"RTMIN+{n + 1}"
  let before := (List.range 14).map fun n => s!"RTMAX-{14 - n}"
  (low ++ after ++ before ++ ["RTMAX"]).zipIdx

/-- A signal by its name or its number. -/
def signal? (text : String) : Option (String × Nat) :=
  match Text.natOfDigits? text.toList with
  | some n => signals.find? (·.2 = n)
  | none => signals.find? (·.1 = text.map Char.toUpper)

/-- What is said of a command that a signal has ended. -/
def signalText (signal : Nat) : String :=
  let texts : List (Nat × String) :=
    [(1, "Hangup"), (3, "Quit"), (4, "Illegal instruction"), (5, "Trace/breakpoint trap"),
      (6, "Aborted"), (7, "Bus error"), (8, "Floating point exception"), (9, "Killed"),
      (10, "User defined signal 1"), (11, "Segmentation fault"), (12, "User defined signal 2"),
      (14, "Alarm clock"), (15, "Terminated"), (16, "Stack fault"), (24, "CPU time limit exceeded"),
      (25, "File size limit exceeded"), (26, "Virtual timer expired"), (27, "Profiling timer expired"),
      (29, "I/O possible"), (30, "Power failure"), (31, "Bad system call")]
  match texts.find? (·.1 = signal) with
  | some (_, text) => text
  | none => ""

/-- The message about a command that a signal has ended. -/
def signalMessage (signal : Nat) : String :=
  let text := signalText signal
  if text.isEmpty then "" else text ++ "\n"

/-- Sets what is done at some signals, up to the first one that is unknown. -/
def setTraps (action : Option String) : List String → Action Unit
  | [] => Action.finish 0
  | text :: names => do
    match signal? text with
    | some (name, _) =>
      modify fun s =>
        { s with traps := (action.map fun a => (name, a)).toList ++ s.traps.filter (·.1 ≠ name) }
      setTraps action names
    | none =>
      Action.message s!"trap: {text}: bad trap\n"
      Action.finish 1

/-- Sets what is done at the end of the shell or at a signal. -/
def trap (args : List String) : Action Unit := do
  let isOption := args.head?.any fun arg => arg.startsWith "-" && arg ≠ "-" && arg ≠ "--"
  if isOption then
    Action.abort ("trap: Illegal option " ++ String.ofList ((args.headD "").toList.take 2))
  match if args.head? = some "--" then args.drop 1 else args with
  | [] =>
    let s ← get
    let line (name : String) : Option String :=
      (s.traps.find? (·.1 = name)).map fun t => s!"trap -- {Quoting.readable t.2} {name}\n"
    Action.finish 0
    Action.print "trap" (String.join (signals.filterMap fun (name, _) => line name))
  | [name] => setTraps none [name]
  | "-" :: names => setTraps none names
  | action :: names =>
    if (Text.natOfDigits? action.toList).isSome then setTraps none (action :: names)
    else setTraps (some action) names

/-! ## Jobs -/

/-- The job of a number of the system, or of its own after a percent sign. -/
def job? (s : State) (text : String) : Option Job :=
  match text.toList with
  | ['%'] | ['%', '%'] | ['%', '+'] => s.jobs.head?
  | ['%', '-'] => s.jobs[1]?
  | '%' :: ds => (Text.natOfDigits? ds).bind fun n => s.jobs.find? (·.number = n)
  | ds => (Text.natOfDigits? ds).bind fun n => s.jobs.find? (·.process = n)

/-- Changes a job. -/
def setJob (j : Job) : Action Unit :=
  modify fun s => { s with jobs := s.jobs.map fun k => if k.process = j.process then j else k }

/-- A new job, in place of one that has ended and has been waited for. -/
def addJob (process status finish commands : Nat) : Action Unit :=
  modify fun s =>
    let kept (number : Nat) : Bool :=
      s.jobs.any fun j => j.number = number && !(j.isAwaited && j.finish ≤ s.now)
    let number := ((List.range (s.jobs.length + 1)).map (· + 1)).find? fun n => !kept n
    let number := number.getD 1
    let j : Job := ⟨process, number, status, finish, false, commands⟩
    { s with jobs := j :: s.jobs.filter (·.number ≠ number), lastProcess := some process }

/-- What is told of a job. -/
def jobState (now : Nat) (j : Job) : String :=
  if now < j.finish then "Running"
  else if 128 < j.status && !(signalText (j.status - 128)).isEmpty then signalText (j.status - 128)
  else if j.status = 0 then "Done"
  else s!"Done({j.status})"

/-- Tells the jobs; those that have ended are forgotten. -/
def tellJobs (args : List String) : Action Unit := do
  let s ← get
  let mark (place : Nat) : String := if place = 0 then "+" else if place = 1 then "-" else " "
  let line (place : Nat) (j : Job) : String :=
    let start := s!"[{j.number}] {mark place} {jobState s.now j}"
    let pipes := String.join (List.replicate (j.commands - 1) " | ")
    start ++ String.ofList (List.replicate (33 - start.length) ' ') ++ pipes ++ "\n"
  if args.contains "-p" then
    Action.print "jobs" (String.join (s.jobs.map fun j => toString j.process ++ "\n"))
  else
    Action.print "jobs" (String.join (s.jobs.zipIdx.map fun (j, place) => line place j))
    modify fun s => { s with jobs := s.jobs.filter fun j => s.now < j.finish }
  Action.finish 0

/-- Waits for jobs, all of them if none is given. The status is that of the last one given. -/
def wait (args : List String) : Action Unit := do
  Action.finish 0
  let args := if args.head? = some "--" then args.drop 1 else args
  if args.isEmpty then
    let s ← get
    modify fun s => { s with jobs := s.jobs.map fun j => { j with isAwaited := true } }
    Action.waitUntil ((s.jobs.map Job.finish).foldl max 0)
  args.forM fun text => do
    match job? (← get) text with
    | some j =>
      Action.waitUntil j.finish
      if !j.isAwaited && 128 < j.status then Action.message (signalMessage (j.status - 128))
      setJob { j with isAwaited := true }
      Action.finish j.status
    | none =>
      if text.startsWith "%" then Action.fail 2 s!"wait: No such job: {text}"
      else if (Text.natOfDigits? text.toList).isNone then
        Action.fail 2 s!"wait: Illegal number: {text}"
      else Action.finish 127

/-! ## Sending signals -/

/-- What a command for signals asks for. -/
inductive Sending where
  | list (status : Option String)
  | send (signal : String × Nat) (targets : List String)
  /-- It is used in a wrong way. -/
  | wrong (reason : String)

/-- How the command for signals is used. -/
def sendingUsage : String :=
  "Usage: kill [-s sigspec | -signum | -sigspec] [pid | job]... or\nkill -l [exitstatus]"

/-- What the arguments of the command for signals ask for. -/
def sendingOf (args : List String) : Sending :=
  let send (signal : String × Nat) (targets : List String) : Sending :=
    if targets.isEmpty then .wrong sendingUsage else .send signal targets
  let named (text : String) (targets : List String) : Sending :=
    match signal? text with
    | some signal => send signal targets
    | none => .wrong s!"invalid signal number or name: {text}"
  match args with
  | [] => .wrong sendingUsage
  | arg :: rest =>
    match arg.toList with
    | '-' :: letters =>
      match signal? (String.ofList letters) with
      | some signal => send signal rest
      | none =>
        match letters, rest with
        | ['-'], targets => send ("TERM", 15) targets
        | ['l'], status => .list status.head?
        | ['s'], [] => .wrong "No arg for -s option"
        | ['s'], text :: targets => named text targets
        | 's' :: text, targets => named (String.ofList text) targets
        | [], _ => .wrong "Illegal number: -"
        | c :: _, _ => .wrong s!"Illegal option -{c}"
    | _ => send ("TERM", 15) args

/-- Tells the signals, or the one in a status. -/
def tellSignals (status : Option String) : Action Unit := do
  Action.finish 0
  match status with
  | none => Action.print "kill" ("0\n" ++ String.join ((signals.drop 1).map fun (name, _) => name ++ "\n"))
  | some text =>
    match Text.natOfDigits? text.toList with
    | none => Action.fail 2 s!"kill: Illegal number: {text}"
    | some n =>
      let n := if 128 < n then n - 128 else n
      match signals.find? fun signal => signal.2 = n && n ≠ 0 with
      | some (name, _) => Action.print "kill" (name ++ "\n")
      | none => Action.fail 2 s!"kill: invalid signal number or exit status: {text}"

/-- Signals after which a program goes on. -/
def isHarmless (signal : Nat) : Bool :=
  [0, 17, 18, 23, 28].contains signal

/-- Signals that stop a program for good. -/
def isStopping (signal : Nat) : Bool :=
  [19, 20, 21, 22].contains signal

/-- Sends a signal to a job, which ends if it is still running. -/
def strike (signal : Nat) (j : Job) : Action Unit := do
  let s ← get
  if s.now < j.finish && !isHarmless signal then
    setJob { j with status := 128 + signal, finish := s.now }
    modify fun s => { s with buffers := s.buffers.map (·.withoutLate j.process s.now) }

/-- Sends a signal to all targets but the shell itself; whether that is among them. -/
def sendSignal (signal : Nat) : List String → Action Bool
  | [] => return false
  | text :: rest => do
    let s ← get
    let fail (status : Nat) (reason : String) : Action Unit :=
      Action.within (some "kill") <| Action.fail status reason
    if text.startsWith "%" then
      if (job? s text).isNone then
        fail 2 s!"No such job: {text}"
        return false
      else
        fail 1 "No such process\n"
        sendSignal signal rest
    else
      match Text.natOfDigits? text.toList with
      | none =>
        fail 2 s!"Illegal number: {text}"
        return false
      | some n =>
        if n = ownNumber || n = 0 then
          let _ ← sendSignal signal rest
          return true
        else
          match s.jobs.find? fun j => j.process = n && !j.isAwaited with
          | some j => strike signal j
          | none => fail 1 "No such process\n"
          sendSignal signal rest

end TextRepair.Shell.Builtin
