import TextRepair.Main.Shell.Builtin.Habits
import TextRepair.Main.Shell.Words

/-!
# Commands for variables

The commands that mark, set and drop variables, among them those that read lines and options into
variables.
-/

namespace TextRepair.Shell.Builtin

/-- The letter of an option at the start of some arguments, if it is none of those known. -/
def unknownOption? (known : List Char) (args : List String) : Option Char :=
  match (args.headD "").toList with
  | '-' :: '-' :: [] => none
  | '-' :: cs => cs.find? fun c => !known.contains c
  | _ => none

/-- The options without values at the start of some arguments, and what follows them. -/
def optionsOf : List String → List Char × List String
  | [] => ([], [])
  | arg :: rest =>
    match arg.toList with
    | ['-', '-'] => ([], rest)
    | '-' :: c :: cs =>
      let (letters, rest) := optionsOf rest
      (c :: cs ++ letters, rest)
    | _ => ([], arg :: rest)

/-- The name of a variable in an argument and the value after an equals sign. -/
def declaration (command arg : String) : Action (String × Option String) := do
  let name := arg.toList.takeWhile (· ≠ '=')
  if !Words.isVariable name then Action.abort s!"{command}: {String.ofList name}: bad variable name"
  else
    return (String.ofList name,
      match arg.toList.dropWhile (· ≠ '=') with
      | _ :: value => some (String.ofList value)
      | [] => none)

/-- Marks variables, which may get values, or tells those that are marked. -/
def declare (command : String) (mark : Variable → Variable) (holds : Variable → Bool)
    (args : List String) : Action Unit := do
  Action.finish 0
  if let some c := unknownOption? ['p'] args then Action.abort s!"{command}: Illegal option -{c}"
  let (letters, names) := optionsOf args
  if letters.contains 'p' || names.isEmpty then
    Action.print command (declarations (← get) (command ++ " ") holds)
  else
    names.forM fun arg => do
      let (name, value) ← declaration command arg
      if let some value := value then Action.assign s!"{command}: " name value
      modify fun s =>
        let s :=
          if (s.binding? name).isSome then s
          else { s with bindings := ⟨name, none, false, false⟩ :: s.bindings }
        { s with bindings := s.bindings.map fun v => if v.name = name then mark v else v }

/-- Marks variables that programs see. -/
def exportAll : List String → Action Unit :=
  declare "export" (fun v => { v with exported := true }) Variable.exported

/-- Marks variables that keep their values. -/
def fixAll : List String → Action Unit :=
  declare "readonly" (fun v => { v with constant := true }) Variable.constant

/-- Makes variables that end with the function under way. -/
def declareLocal (args : List String) : Action Unit := do
  if (← get).shadowed.isNone then Action.abort "local: not in a function"
  args.forM fun arg => do
    if arg = "-" then
      modify fun s => { s with shadowed := s.shadowed.map (.habits s.habits :: ·) }
    else
      let (name, value) ← declaration "local" arg
      modify fun s => { s with shadowed := s.shadowed.map (.variable name (s.binding? name) :: ·) }
      if let some value := value then Action.assign "local: " name value
  Action.finish 0

/-- Drops variables or functions. -/
def unset (args : List String) : Action Unit := do
  if let some c := unknownOption? ['f', 'v'] args then Action.abort s!"unset: Illegal option -{c}"
  let (letters, names) := optionsOf args
  names.forM fun name => do
    if letters.contains 'f' then
      modify fun s => { s with functions := s.functions.filter (·.1 ≠ name) }
    else
      if !Words.isVariable name.toList then Action.abort s!"unset: {name}: bad variable name"
      if ((← get).binding? name).any Variable.constant then
        Action.abort s!"unset: {name}: is read only"
      modify fun s => { s with bindings := s.bindings.filter (·.name ≠ name) }
  Action.finish 0

/-! ## Lines -/

/-- The first line of some characters, whether it has an end, and what follows it. -/
def cutLine : List Char → List Char × Bool × List Char
  | [] => ([], false, [])
  | c :: cs =>
    if c = '\n' then ([], true, cs)
    else
      let (line, isEnded, rest) := cutLine cs
      (c :: line, isEnded, rest)

/-- A line with backslashes that quote the next character, and whether the line goes on. -/
def unquoted : List Char → List (Char × Bool) × Bool
  | [] => ([], false)
  | ['\\'] => ([], true)
  | '\\' :: c :: cs => let (more, isOpen) := unquoted cs; ((c, true) :: more, isOpen)
  | c :: cs => let (more, isOpen) := unquoted cs; ((c, false) :: more, isOpen)

/-- Shares a line out to `count` fields; the last one gets all that is left. -/
def shares (separators : List Char) : (count : Nat) → List (Char × Bool) → List String
  | 0, _ => []
  | count + 1, cs =>
    let separates (c : Char × Bool) : Bool := !c.2 && separators.contains c.1
    let isBlank (c : Char × Bool) : Bool := separates c && c.1 ∈ [' ', '\t', '\n']
    let cs := cs.dropWhile isBlank
    let field := cs.takeWhile (!separates ·)
    let rest := (cs.dropWhile (!separates ·)).dropWhile isBlank
    let rest := if rest.head?.any separates then (rest.drop 1).dropWhile isBlank else rest
    let text (cs : List (Char × Bool)) : String := String.ofList (cs.map Prod.fst)
    if count = 0 then
      if rest.isEmpty then [text field] else [text (cs.reverse.dropWhile isBlank).reverse]
    else text field :: shares separators count rest

/-- Reads the lines that belong together. -/
def logicalLine (raw : Bool) : (fuel : Nat) → List Char → List (Char × Bool) × Bool × List Char
  | 0, cs => ([], false, cs)
  | fuel + 1, cs =>
    let (line, isEnded, rest) := cutLine cs
    let line := line.filter (· ≠ '\x00')
    if raw then (line.map fun c => (c, false), isEnded, rest)
    else
      let (line, isOpen) := unquoted line
      if isOpen && isEnded then
        let (more, isEnded, rest) := logicalLine raw fuel rest
        (line ++ more, isEnded, rest)
      else (line, isEnded, rest)

/-- The options of the command that reads lines: whether backslashes quote nothing, the names after the
options, and what is wrong. -/
def readOptions : (fuel : Nat) → (raw : Bool) → List String → Except String (Bool × List String)
  | 0, raw, args => .ok (raw, args)
  | _, raw, [] => .ok (raw, [])
  | fuel + 1, raw, arg :: rest =>
    match arg.toList with
    | ['-', '-'] => .ok (raw, rest)
    | '-' :: c :: cs =>
      let letters := (c :: cs).takeWhile (· = 'r')
      match (c :: cs).dropWhile (· = 'r') with
      | [] => readOptions fuel true rest
      | 'p' :: prompt =>
        if !prompt.isEmpty then readOptions fuel (raw || !letters.isEmpty) rest
        else if rest.isEmpty then .error "No arg for -p option"
        else readOptions fuel (raw || !letters.isEmpty) (rest.drop 1)
      | c :: _ => .error s!"Illegal option -{c}"
    | _ => .ok (raw, arg :: rest)

/-- Reads a line of the input into variables. -/
def read (args : List String) : Action Unit := do
  match readOptions (args.length + 1) false args with
  | .error reason => Action.fail 2 ("read: " ++ reason)
  | .ok (raw, names) =>
    if names.isEmpty then Action.fail 2 "read: arg count"
    else
      let s ← get
      match s.unreadOf inputStream with
      | (none, _) =>
        names.forM fun name => Action.assign "read: " name ""
        Action.finish 1
      | (some text, ready) =>
        let (line, isEnded, rest) := logicalLine raw (text.length + 1) text.toList
        if !isEnded then Action.waitUntil ready
        modify fun s => s.leave inputStream (String.ofList rest)
        let values := shares s.separators names.length line
        (names.zip values).forM fun (name, value) => do
          if !Words.isVariable name.toList then Action.abort s!"read: {name}: bad variable name"
          Action.assign "read: " name value
        Action.finish (if isEnded then 0 else 1)

/-! ## Options -/

/-- An option that has been found among arguments. -/
structure Letter where
  /-- The letter, or a sign that it is unknown, that it lacks its value, or that there are no more. -/
  shown : Char
  value : Option String
  place : LetterPlace
  message : String
  isLast : Bool

/-- The next option among some arguments. The letters of an option with a value have a colon after them in
`known`; a colon in front of all makes faults silent. -/
def nextLetter (known : List Char) (args : List String) (place : LetterPlace) : Letter :=
  let isSilent := known.head? = some ':'
  let argument (n : Nat) : Option (List Char) := if n = 0 then none else args[n - 1]?.map String.toList
  let under : List Char :=
    match place.letter with
    | some letter => ((argument (place.argument - 1)).getD []).drop letter
    | none => []
  let finished (argument : Nat) : Letter := ⟨'?', none, ⟨argument, none⟩, "", true⟩
  /- The letters to read, and the number of the argument after theirs. -/
  let start : Except Nat (List Char × Nat) :=
    if !under.isEmpty then .ok (under, place.argument)
    else
      match argument place.argument with
      | some ['-', '-'] => .error (place.argument + 1)
      | some ('-' :: c :: cs) => .ok (c :: cs, place.argument + 1)
      | _ => .error place.argument
  match start with
  | .error n => finished n
  | .ok ([], n) => finished n
  | .ok (c :: cs, n) =>
    let length := ((argument (n - 1)).getD []).length
    let here : LetterPlace := ⟨n, some (length - cs.length)⟩
    let fault (shown : Char) (message : String) (place : LetterPlace) : Letter :=
      if isSilent then ⟨shown, some (String.singleton c), place, "", false⟩
      else ⟨'?', none, place, message ++ "\n", false⟩
    match (if isSilent then known.drop 1 else known).dropWhile (· ≠ c) with
    | [] => fault '?' s!"Illegal option -{c}" here
    | _ :: ':' :: _ =>
      if !cs.isEmpty then ⟨c, some (String.ofList cs), ⟨n, none⟩, "", false⟩
      else
        match argument n with
        | some value => ⟨c, some (String.ofList value), ⟨n + 1, none⟩, "", false⟩
        | none => fault ':' s!"No arg for -{c} option" ⟨n, none⟩
    | _ => ⟨c, some "", here, "", false⟩

/-- Reads the next option among arguments into a variable. -/
def nextOption (args : List String) : Action Unit := do
  match args with
  | known :: name :: given =>
    let s ← get
    let args := if given.isEmpty then s.parameters.drop 1 else given
    let place := if args.length + 1 < s.letterPlace.argument then .first else s.letterPlace
    let found := nextLetter known.toList args place
    Action.message found.message
    match found.value with
    | some value => Action.assign "getopts: " "OPTARG" value
    | none =>
      if !found.isLast then
        modify fun s => { s with bindings := s.bindings.filter (·.name ≠ "OPTARG") }
    Action.assign "getopts: " "OPTIND" (toString found.place.argument)
    modify fun s => { s with letterPlace := found.place }
    if !Words.isVariable name.toList then Action.abort s!"getopts: {name}: bad variable name"
    Action.assign "getopts: " name (String.singleton found.shown)
    Action.finish (if found.isLast then 1 else 0)
  | _ => Action.fail 2 "getopts: Usage: getopts optstring var [arg...]"

end TextRepair.Shell.Builtin
