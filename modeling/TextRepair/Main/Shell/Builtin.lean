import TextRepair.Main.Shell.Builtin.Signals
import TextRepair.Main.Shell.Builtin.Variables
import TextRepair.Main.Shell.Catalog

/-!
# Commands of the shell itself

The commands that change the shell, without those that run other commands. `Builtin.run?` finds them by
their names.
-/

namespace TextRepair.Shell.Builtin

/-- The commands whose errors end the shell. -/
def specials : List String :=
  [":", ".", "break", "continue", "eval", "exec", "exit", "export", "local", "readonly", "return",
    "set", "shift", "times", "trap", "unset"]

/-- The other commands of the shell. -/
def regulars : List String :=
  ["[", "alias", "bg", "cd", "command", "echo", "false", "fg", "getopts", "hash", "jobs", "kill",
    "printf", "pwd", "read", "test", "true", "type", "ulimit", "umask", "unalias", "wait"]

/-! ## Control -/

/-- The greatest number that an argument may be. -/
def greatest : Nat := UInt32.size / 2 - 1

/-- The number in an argument, which is an error of the command if it is none. -/
def number (command arg : String) (least : Nat) : Action Nat := do
  match (Text.natOfDigits? arg.toList).filter fun n => least ≤ n && n ≤ greatest with
  | some n => return n
  | none => Action.abort s!"{command}: Illegal number: {arg}"

/-- Ends the shell, or with `returns` a function or a script. -/
def leave (command : String) (stop : Stop) (args : List String) : Action Unit := do
  if let arg :: _ := args then
    let n ← number command arg 0
    Action.finish (if stop = .exits then n % 256 else n)
  throw stop

/-- Leaves loops or goes on with their next round. -/
def leaveLoops (command : String) (stop : Nat → Stop) (args : List String) : Action Unit := do
  let n ← match args with
    | arg :: _ => number command arg 1
    | [] => pure 1
  let s ← get
  Action.finish 0
  if 0 < s.loops then throw (stop (min n s.loops))

/-- Drops arguments of the shell. -/
def shift (args : List String) : Action Unit := do
  let n ← match args with
    | arg :: _ => number "shift" arg 0
    | [] => pure 1
  let s ← get
  if s.parameters.length - 1 < n then Action.abort "shift: can't shift that many"
  else
    set { s with
      parameters := s.parameters.take 1 ++ s.parameters.drop (n + 1), letterPlace := .first, status := 0 }

/-! ## Directories -/

/-- Goes to another directory. -/
def changeDirectory (args : List String) : Action Unit := do
  let s ← get
  match unknownOption? ['L', 'P'] (if args.head? = some "-" then [] else args) with
  | some c => Action.fail 2 s!"cd: Illegal option -{c}"
  | none =>
    let target := (if args.head? = some "-" then args else (optionsOf args).2).head?
    let value (name : String) : String := (s.value? name).getD ""
    let name :=
      match target with
      | some "-" => value "OLDPWD"
      | some name => name
      | none => value "HOME"
    let isThere (p : Path) : Bool := match s.tree.node? p with | some .directory => true | _ => false
    let found :=
      if name.isEmpty then some s.cwd else ((s.setting.resolve name).toOption.filter isThere)
    match found with
    | none => Action.fail 2 s!"cd: can't cd to {name}"
    | some p =>
      let put (name value : String) : Action Unit :=
        modify fun s =>
          let others := s.bindings.filter (·.name ≠ name)
          { s with bindings := ⟨name, some value, true, false⟩ :: others }
      Action.finish 0
      if !name.isEmpty then
        put "OLDPWD" (Setting.nameOf s.cwd)
        put "PWD" (Setting.nameOf p)
        modify fun s => { s with cwd := p }
      if target = some "-" then Action.print "cd" (Setting.nameOf p ++ "\n")

/-- Tells the directory under way. -/
def tellDirectory (args : List String) : Action Unit := do
  match unknownOption? ['L', 'P'] args with
  | some c => Action.fail 2 s!"pwd: Illegal option -{c}"
  | none =>
    Action.finish 0
    Action.print "pwd" (Setting.nameOf (← get).cwd ++ "\n")

/-! ## Names of commands -/

/-- The place of a name in a table with a number of rows. -/
def row (rows : Nat) (name : String) : Nat :=
  let numbers := name.toList.map Char.toNat
  (16 * numbers.headD 0 + numbers.foldl (· + ·) 0) % rows

/-- Names in the order of a table with a number of rows, those in one row in their own order. -/
def tabled {α : Type} (rows : Nat) (name : α → String) (xs : List α) : List α :=
  xs.mergeSort fun a b => decide (row rows (name a) ≤ row rows (name b))

/-- A short name with its text as a command that sets it. -/
def aliasLine (a : String × String) : String :=
  a.1 ++ "=" ++ Quoting.readable a.2

/-- Gives short names to texts, or tells them. -/
def setAliases (args : List String) : Action Unit := do
  Action.finish 0
  if args.isEmpty then
    let all := tabled 39 Prod.fst (← get).aliases
    Action.print "alias" (String.join (all.map fun a => aliasLine a ++ "\n"))
  args.forM fun arg => do
    let cs := arg.toList
    let name := String.ofList (cs.take 1 ++ (cs.drop 1).takeWhile (· ≠ '='))
    let isThere := (← get).aliases.any (·.1 = name)
    match (cs.drop 1).dropWhile (· ≠ '=') with
    | _ :: text =>
      let a := (name, String.ofList text)
      modify fun s =>
        { s with aliases :=
            if isThere then s.aliases.map fun b => if b.1 = name then a else b else s.aliases ++ [a] }
    | [] =>
      match (← get).aliases.find? (·.1 = name) with
      | some a => Action.print "alias" (aliasLine a ++ "\n")
      | none =>
        Action.message s!"alias: {name} not found\n"
        Action.finish 1

/-- Drops short names. -/
def unsetAliases (args : List String) : Action Unit := do
  match unknownOption? ['a'] args with
  | some c => Action.fail 2 s!"unalias: Illegal option -{c}"
  | none =>
    let (letters, names) := optionsOf args
    Action.finish 0
    if letters.contains 'a' then modify fun s => { s with aliases := [] }
    else
      names.forM fun name => do
        if (← get).aliases.any (·.1 = name) then
          modify fun s => { s with aliases := s.aliases.filter (·.1 ≠ name) }
        else
          Action.message s!"unalias: {name} not found\n"
          Action.finish 1

/-- The places in which programs are looked for. -/
def places (s : State) : String :=
  (s.value? "PATH").getD ""

/-- Remembers the place of a program. -/
def remember (name : String) : Action Unit :=
  modify fun s =>
    if s.hashed.contains name || name.contains '/' then s else { s with hashed := s.hashed ++ [name] }

/-- Looks for programs and remembers their places, or tells those that are remembered. -/
def hash (args : List String) : Action Unit := do
  match unknownOption? ['r'] args with
  | some c => Action.fail 2 s!"hash: Illegal option -{c}"
  | none =>
    let (letters, names) := optionsOf args
    Action.finish 0
    let s ← get
    if letters.contains 'r' then modify fun s => { s with hashed := [] }
    else if names.isEmpty then
      let ways := (tabled 31 id s.hashed).filterMap (Program.way? (places s))
      Action.print "hash" (String.join (ways.map (· ++ "\n")))
    names.forM fun name => do
      if specials.contains name || regulars.contains name || s.functions.any (·.1 = name) then return
      else if (Program.way? (places s) name).isSome then remember name
      else Action.fail 1 s!"hash: {name}: not found"

/-- What a name stands for as a command. -/
inductive Meaning where
  | keyword
  | short (text : String)
  | special
  | function
  | regular
  | program (way : String) (isRemembered : Bool)
  | nothing

/-- What a name stands for as a command. -/
def meaning (s : State) (name : String) : Meaning :=
  let keywords := ["!", "case", "do", "done", "elif", "else", "esac", "fi", "for", "if", "in", "then",
    "until", "while", "\x7b", "\x7d"]
  if keywords.contains name then .keyword
  else
    match s.aliases.find? (·.1 = name) with
    | some (_, text) => .short text
    | none =>
      if specials.contains name then .special
      else if s.functions.any (·.1 = name) then .function
      else if regulars.contains name then .regular
      else if name.contains '/' then
        if (Program.atWay? name).isSome then .program name false else .nothing
      else
        match Program.way? (places s) name with
        | some way => .program way (s.hashed.contains name)
        | none => .nothing

/-- Tells what names stand for. -/
def type (names : List String) : Action Unit := do
  Action.finish 0
  names.forM fun name => do
    let tell (text : String) : Action Unit := Action.print "type" (name ++ text ++ "\n")
    match meaning (← get) name with
    | .keyword => tell " is a shell keyword"
    | .short text => tell s!" is an alias for {text}"
    | .special => tell " is a special shell builtin"
    | .function => tell " is a shell function"
    | .regular => tell " is a shell builtin"
    | .program way isRemembered =>
      remember name
      tell (" is" ++ (if isRemembered then " a tracked alias for " else " ") ++ way)
    | .nothing =>
      tell ": not found"
      Action.finish 127

/-- Tells in short what names stand for. -/
def locate (names : List String) : Action Unit := do
  Action.finish 0
  names.forM fun name => do
    let tell (text : String) : Action Unit := Action.print "command" (text ++ "\n")
    match meaning (← get) name with
    | .short text => tell s!"alias {aliasLine (name, text)}"
    | .program way _ =>
      remember name
      tell way
    | .nothing => Action.finish 127
    | _ => tell name

/-! ## Rights of new files -/

/-- The rights that some letters stand for. -/
def rights (old : Nat) (letters : List Char) : Option Nat :=
  letters.foldlM (fun n c =>
    match c with
    | 'r' => some (n ||| 4)
    | 'w' => some (n ||| 2)
    | 'x' => some (n ||| 1)
    | 'X' => if old &&& 73 = 0 then some n else some (n ||| 1)
    | 's' | 't' => some n
    | 'u' => some (n ||| (old / 64 &&& 7))
    | 'g' => some (n ||| (old / 8 &&& 7))
    | 'o' => some (n ||| (old &&& 7))
    | _ => none) 0

/-- The rights after a change in letters. -/
def changedRights? (old : Nat) (clause : List Char) : Option Nat := do
  let isWho (c : Char) : Bool := ['u', 'g', 'o', 'a'].contains c
  let who := clause.takeWhile isWho
  let who := if who.isEmpty || who.contains 'a' then ['u', 'g', 'o'] else who
  match clause.dropWhile isWho with
  | operator :: letters =>
    let given ← rights old letters
    let spread (n : Nat) : Nat :=
      (if who.contains 'u' then 64 * n else 0) + (if who.contains 'g' then 8 * n else 0) +
        if who.contains 'o' then n else 0
    let all := spread 7
    if operator = '+' then return old ||| spread given
    else if operator = '-' then return old &&& (511 - spread given)
    else if operator = '=' then return (old &&& (511 - all)) ||| spread given
    else none
  | [] => none

/-- The rights that new files do not get, as four octal digits. -/
def octalMask (mask : Nat) : String :=
  let ds := Nat.toDigits 8 mask
  String.ofList (List.replicate (4 - ds.length) '0' ++ ds)

/-- The rights that new files get, in letters. -/
def letterMask (mask : Nat) : String :=
  let letters (n : Nat) : String :=
    (if n &&& 4 = 0 then "r" else "") ++ (if n &&& 2 = 0 then "w" else "") ++
      if n &&& 1 = 0 then "x" else ""
  s!"u={letters (mask / 64)},g={letters (mask / 8)},o={letters mask}"

/-- Sets or tells the rights that new files do not get. -/
def setMask (args : List String) : Action Unit := do
  let s ← get
  match unknownOption? ['S'] args with
  | some c => Action.fail 2 s!"umask: Illegal option -{c}"
  | none =>
    let (letters, operands) := optionsOf args
    Action.finish 0
    match operands with
    | [] =>
      Action.print "umask" ((if letters.contains 'S' then letterMask s.mask else octalMask s.mask) ++ "\n")
    | text :: _ =>
      let isOctal (c : Char) : Bool := '0' ≤ c && c ≤ '7'
      if text.toList.head?.any Char.isDigit then
        if text.all isOctal then
          let n := text.toList.foldl (fun n (c : Char) => 8 * n + (c.toNat - '0'.toNat)) 0
          set { s with mask := n % 512, status := 0 }
        else Action.fail 2 s!"umask: Illegal number: {text}"
      else
        match (text.splitOn ",").foldlM (fun n clause => changedRights? n clause.toList) (511 - s.mask) with
        | some n => set { s with mask := 511 - n, status := 0 }
        | none => Action.fail 2 s!"umask: Illegal mode: {text}"

/-! ## All of them -/

/-- Tells how much of something programs may use. -/
def tellLimit (args : List String) : Action Unit := do
  match unknownOption? "HStfdscmlpnvwr".toList args with
  | some c => Action.fail 2 s!"ulimit: Illegal option -{c}"
  | none =>
    let (letters, operands) := optionsOf args
    let kind := (letters.filter fun c => c ≠ 'H' && c ≠ 'S').getLastD 'f'
    Action.finish 0
    if operands.isEmpty then
      Action.print "ulimit" (if kind = 'c' then "0\n" else if kind = 's' then "8192\n" else "unlimited\n")

/-- Brings a job to the front or to the background, which only a shell for people can. -/
def noControl (command : String) (args : List String) : Action Unit := do
  let s ← get
  match args with
  | text :: _ =>
    if (job? s text).isNone then Action.fail 2 s!"{command}: No such job: {text}"
    else Action.fail 2 s!"{command}: job {text} not created under job control"
  | [] =>
    if s.jobs.isEmpty then Action.fail 2 s!"{command}: No current job"
    else Action.fail 2 s!"{command}: job (null) not created under job control"

/-- A command of the shell that runs no other commands; none if there is no such command. -/
def run? (name : String) (args : List String) : Option (Action Unit) :=
  let taking (answer : Setting → Answered) : Option (Action Unit) := some do
    Action.takeOwn name (answer (← get).setting)
  if name = ":" || name = "true" then some (Action.finish 0)
  else if name = "false" then some (Action.finish 1)
  else if name = "echo" then taking fun _ => Program.echo args
  else if name = "printf" then taking fun s => Program.printf s args
  else if name = "test" then taking fun s => Program.test s "test" args
  else if name = "[" then taking fun s => Program.bracket s args
  else if name = "pwd" then some (tellDirectory args)
  else if name = "exit" then some (leave "exit" .exits args)
  else if name = "return" then some (leave "return" .returns args)
  else if name = "break" then some (leaveLoops "break" .breaks args)
  else if name = "continue" then some (leaveLoops "continue" .continues args)
  else if name = "shift" then some (shift args)
  else if name = "set" then some (setShell args)
  else if name = "export" then some (exportAll args)
  else if name = "readonly" then some (fixAll args)
  else if name = "local" then some (declareLocal args)
  else if name = "unset" then some (unset args)
  else if name = "trap" then some (trap args)
  else if name = "cd" then some (changeDirectory args)
  else if name = "read" then some (read args)
  else if name = "getopts" then some (nextOption args)
  else if name = "wait" then some (wait args)
  else if name = "jobs" then some (tellJobs args)
  else if name = "fg" || name = "bg" then some (noControl name args)
  else if name = "type" then some (type args)
  else if name = "alias" then some (setAliases args)
  else if name = "unalias" then some (unsetAliases args)
  else if name = "hash" then some (hash args)
  else if name = "umask" then some (setMask args)
  else if name = "times" then taking fun _ =>
    .ofOutput "0m0.000000s 0m0.000000s\n0m0.000000s 0m0.000000s\n"
  else if name = "ulimit" then some (tellLimit args)
  else none

end TextRepair.Shell.Builtin
