import TextRepair.Main.Shell.Quoting
import TextRepair.Main.Shell.State

/-!
# Habits of a shell

Options turn the habits of a shell on and off, when it starts and later on.
-/

namespace TextRepair.Shell.Builtin

/-- Turns a habit on or off. -/
def setHabit (h : Habit) (on : Bool) : Action Unit :=
  modify fun s =>
    let others := s.habits.filter (· ≠ h)
    { s with habits := if on then h :: others else others }

/-- Turns the habit of a letter on or off. -/
def setLetter (start : String) (on : Bool) (c : Char) : Action Unit := do
  match Habit.all.find? fun (_, _, letter) => letter = some c with
  | some (h, _, _) => setHabit h on
  | none => Action.abort s!"{start}Illegal option -{c}"

/-- Turns the habit of a name on or off. -/
def setName (start : String) (on : Bool) (name : String) : Action Unit := do
  match Habit.all.find? fun (_, known, _) => known = name with
  | some (h, _, _) => setHabit h on
  | none => Action.abort s!"{start}Illegal option -o {name}"

/-- Tells the habits, as a table or as commands. -/
def tellHabits (asTable : Bool) : Action Unit := do
  let s ← get
  let line (h : Habit) (name : String) : String :=
    if asTable then
      name ++ String.ofList (List.replicate (16 - name.length) ' ') ++ (if s.has h then "on" else "off")
    else (if s.has h then "set -o " else "set +o ") ++ name
  let lines := Habit.all.map fun (h, name, _) => line h name ++ "\n"
  Action.print "set" ((if asTable then "Current option settings\n" else "") ++ String.join lines)

/-- What options leave: the arguments after them, whether one of them announces a command, and whether two
dashes have ended them. -/
structure Options where
  rest : List String
  hasCommand : Bool
  isEnded : Bool

/-- Takes over the letters of an option; `rest` are the arguments after it. -/
def takeLetters (start : String) (on : Bool) (o : Options) : List Char → Action Options
  | [] => return o
  | 'c' :: cs => do
    if start.isEmpty then takeLetters start on { o with hasCommand := true } cs
    else
      setLetter start on 'c'
      takeLetters start on o cs
  | 'o' :: cs => do
    match o.rest with
    | [] => tellHabits on
    | name :: _ => setName start on name
    takeLetters start on { o with rest := o.rest.drop 1 } cs
  | c :: cs => do
    setLetter start on c
    takeLetters start on o cs

/-- Takes over options at the start of some arguments. Messages begin with `start`, which is empty for the
options of a new shell. -/
def takeOptions (start : String) : (fuel : Nat) → Options → Action Options
  | 0, o => return o
  | fuel + 1, o => do
    match o.rest with
    | [] => return o
    | arg :: rest =>
      match arg.toList with
      | ['-'] =>
        if !start.isEmpty then
          setHabit .xtrace false
          setHabit .verbose false
        return { o with rest }
      | ['-', '-'] => return { o with rest, isEnded := true }
      | '-' :: cs => takeOptions start fuel (← takeLetters start true { o with rest } cs)
      | '+' :: cs => takeOptions start fuel (← takeLetters start false { o with rest } cs)
      | _ => return o

/-- Gives the shell new arguments. -/
def setParameters (values : List String) : Action Unit :=
  modify fun s => { s with parameters := s.parameters.take 1 ++ values, letterPlace := .first }

/-- The variables that satisfy a condition, in order, as commands that set them. -/
def declarations (s : State) (start : String) (holds : Variable → Bool) : String :=
  let found := (s.bindings.filter holds).mergeSort fun v w => !decide (w.name < v.name)
  String.join <| found.map fun v =>
    let value := match v.value with | some text => "=" ++ Quoting.readable text | none => ""
    start ++ v.name ++ value ++ "\n"

/-- Turns habits on or off and gives the shell new arguments, or tells its variables. -/
def setShell (args : List String) : Action Unit := do
  Action.finish 0
  if args.isEmpty then
    Action.print "set" (declarations (← get) "" fun v => v.value.isSome)
  else
    let o ← takeOptions "set: " args.length ⟨args, false, false⟩
    if !o.rest.isEmpty || o.isEnded then setParameters o.rest

end TextRepair.Shell.Builtin
