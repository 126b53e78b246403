import TextRepair.Launcher
import TextRepair.Main.Shell.Builtin
import TextRepair.Main.Shell.Expansion
import TextRepair.Main.Shell.Reader

/-!
# Running commands

`Shell.execute` starts a program on a file tree, for at most a number of milliseconds. Commands of the
command language run step by step, and one that goes on for longer than the time it is given runs into its
time limit.
-/

namespace TextRepair.Shell

/-- The output of commands without its line feeds at the end. -/
def capturedText (text : String) : List Char :=
  Text.dropEndWhile (· = '\n') (text.toList.filter (· ≠ '\x00'))

/-! ## Redirections -/

/-- The message about a file that cannot be opened; `missing` says that it, or the way to it, is not
there. -/
def openMessage (verb missing name : String) (e : FileError) : String :=
  let reason :=
    match e with
    | .notFound | .notDirectory => missing
    | e => e.reason
  s!"cannot {verb} {name}: {reason}"

/-- The numbered stream that a name stands for. -/
def deviceStream? (name : String) : Option Nat :=
  if name = "/dev/stdin" || name = "/dev/fd/0" then some inputStream
  else if name = "/dev/stdout" || name = "/dev/fd/1" then some outputStream
  else if name = "/dev/stderr" || name = "/dev/fd/2" then some messageStream
  else none

/-- The channel to a device. -/
def device? (name : String) : Option Channel :=
  if name = "/dev/null" then some .nowhere
  else if name = "/dev/full" then some .full
  else none

/-- Ways to open a file. -/
inductive Opening where
  | read
  /-- For writing; what the file holds goes away unless `keeps`, and a file that is there is refused if
  `isNew`. -/
  | write (keeps isNew : Bool)
  | readWrite
  deriving DecidableEq, Repr

/-- Opens a stream on a file or a device. -/
def openFile (s : State) (n : Nat) (name : String) (how : Opening) : Except String State :=
  let (verb, missing) : String × String :=
    if how = .read then ("open", "No such file") else ("create", "Directory nonexistent")
  if name = "/dev/tty" then .error s!"cannot {verb} {name}: No such device or address"
  else if let some c := device? name then .ok (s.openChannel n c)
  else if let some channel := (deviceStream? name).bind s.channel? then .ok (s.setStream n (some channel))
  else
    let opened : Except FileError State := do
      let p ← s.setting.resolve name
      match how with
      | .read =>
        if let none := s.tree.node? p then throw .notFound
        return s.openChannel n (.file p 0 ⟨true, false, false⟩)
      | .write keeps isNew =>
        if isNew && (s.tree.readAt p matches .ok _) then throw .alreadyThere
        let content := if keeps then (s.tree.readAt p).toOption.getD .empty else .empty
        let s := { s with tree := ← s.tree.writeAt p content }
        return s.openChannel n (.file p 0 ⟨false, true, keeps⟩)
      | .readWrite =>
        let s := { s with tree := ← s.tree.writeAt p ((s.tree.readAt p).toOption.getD .empty) }
        return s.openChannel n (.file p 0 ⟨true, true, false⟩)
    opened.mapError fun e => openMessage verb missing name e

/-- A change of a numbered stream with its words expanded. -/
inductive Change where
  | open (name : String) (how : Opening)
  | text (content : String)
  | copy (other : Nat)
  | close
  /-- A text that cannot be expanded, which has been told. -/
  | refused

/-- What a redirection asks for. -/
def changeOf (capture : Enclosing → List Char → Action (List Char)) (t : Target) : Action Change := do
  match t with
  | .write w overwrites =>
    let name ← Expansion.text capture w
    return .open name (.write false (!overwrites && (← get).has .noclobber))
  | .append w => return .open (← Expansion.text capture w) (.write true false)
  | .read w => return .open (← Expansion.text capture w) .read
  | .readWrite w => return .open (← Expansion.text capture w) .readWrite
  | .document w =>
    tryCatch (return .text (← Expansion.text capture w)) fun
      | .fails => return .refused
      | other => throw other
  | .copy w =>
    match (← Expansion.text capture w).toList with
    | ['-'] => return .close
    | [c] =>
      if c.isDigit then return .copy (c.toNat - '0'.toNat)
      else Action.abort "Syntax error: Bad fd number"
    | _ => Action.abort "Syntax error: Bad fd number"

/-- A shell with a numbered stream changed, or why that fails if that is still to be told. -/
def changed (s : State) (n : Nat) : Change → Except (Option String) State
  | .open name how => (openFile s n name how).mapError some
  | .text content => .ok (s.openChannel n (.text content 0))
  | .close => .ok (s.setStream n none)
  | .copy other =>
    match s.channel? other with
    | some channel => .ok (s.setStream n (some channel))
    | none => .error (some s!"{other}: Bad file descriptor")
  | .refused => .error none

/-- Changes streams in order, up to the first one that fails; whether none does. -/
def changeAll : List (Nat × Change) → Action Bool
  | [] => return true
  | (n, change) :: rest => do
    match changed (← get) n change with
    | .ok s =>
      set s
      changeAll rest
    | .error reason =>
      if let some reason := reason then Action.say reason
      Action.finish 2
      return false

/-- Changes streams as redirections ask, after all their words are expanded; whether that succeeds. -/
def redirectAll (capture : Enclosing → List Char → Action (List Char)) (redirects : List Redirect) :
    Action Bool := do
  let changes ← redirects.mapM fun r => do return (r.stream, ← changeOf capture r.target)
  changeAll changes

/-- The streams that a command leads elsewhere. -/
def detached : Command → List Nat
  | .simple _ _ _ redirects | .group _ _ _ redirects => redirects.map Redirect.stream
  | _ => []

/-- The number of commands in a pipeline. -/
def pipelineLength : Command → Nat
  | .pipe _ d => pipelineLength d + 1
  | _ => 1

/-- Keeps the streams as they are, whatever an action does to its own. -/
def keepingStreams (x : Action Unit) : Action Unit :=
  Action.restoring State.streams (fun streams s => { s with streams }) x

/-! ## Surroundings of commands -/

/-- Runs an action that sets some variables for itself alone, and puts the old ones back. -/
def withVariables (names : List String) (x : Action Unit) : Action Unit :=
  let isPlaced := names.contains "PATH"
  Action.restoring (fun s => (names.map fun name => (name, s.binding? name), s.hashed))
    (fun (before, hashed) s =>
      let s := before.foldl (fun s v => s.putBack v.1 v.2) s
      if isPlaced then { s with hashed } else s) x

/-- Lets programs see a variable. -/
def expose (name : String) : Action Unit :=
  modify fun s =>
    { s with bindings := s.bindings.map fun v => if v.name = name then { v with exported := true } else v }

/-- The functions that may be under way one in the other. -/
def deepest : Nat := 1000

/-- Runs the body of a function with arguments and variables of its own. -/
def inFunction (args : List String) (body : Action Unit) : Action Unit :=
  Action.restoring (fun s => (s.parameters, s.loops, s.shadowed, s.letterPlace, s.depth))
    (fun (parameters, loops, shadowed, letterPlace, depth) s =>
      let s := (s.shadowed.getD []).foldl (fun s old => old.restore s) s
      { s with parameters, loops, shadowed, letterPlace, depth }) do
    let s ← get
    if deepest ≤ s.depth then Action.abort s!"Maximum function recursion depth ({deepest}) reached"
    set { s with
      parameters := s.parameters.take 1 ++ args, loops := 0, shadowed := some []
      letterPlace := .first, depth := s.depth + 1 }
    tryCatch body fun
      | .returns => return
      | other => throw other

/-- Runs an action with one more loop around it. -/
def withLoop (x : Action Unit) : Action Unit :=
  Action.restoring State.loops (fun loops s => { s with loops }) do
    modify fun s => { s with loops := s.loops + 1 }
    x

/-- Ends the shell after a command that failed, if that is its habit and nothing asks for the status. -/
def exitOnFailure (tested : Bool) : Action Unit := do
  let s ← get
  if !tested && s.has .errexit && s.status ≠ 0 then throw .exits

/-- The variables that every shell sets. -/
def ownVariables : List Variable :=
  [("IFS", " \t\n"), ("OPTIND", "1"), ("PPID", toString (ownNumber - 1)), ("PS1", "# "), ("PS2", "> "),
    ("PS4", "+ ")].map fun (name, value) => ⟨name, some value, false, false⟩

/-- The variables with which a shell starts that gets some others; it does not take over its separators. -/
def withOwn (given : List Variable) : List Variable :=
  let given := given.filter (·.name ≠ "IFS")
  given ++ ownVariables.filter fun v => given.all (·.name ≠ v.name)

/-- Runs a new shell, which sees the world and the exported variables. Where it replaces the old one, a
signal that ends it ends that too. -/
def inNewShell (replaces : Bool) (parameters : List String) (x : Action Unit) : Action Unit := fun s =>
  let inner : State := { s with
    parameters, habits := [], functions := [], aliases := [], traps := [], status := 0, line := 0
    context := none, loops := 0, depth := 0, letterPlace := .first, hashed := [], jobs := [], lastProcess := none
    bindings := withOwn <| (s.bindings.filter fun v => v.exported && v.value.isSome).map fun v =>
      { v with constant := false }
    shadowed := none, captured := 0
    now := s.now + Action.programTime }
  let (result, inner) := x inner
  let after := { s with toWorld := inner.toWorld, status := inner.status % 256 }
  match result with
  | .error .late => (.error .late, after)
  | .error (.killed n) =>
    if replaces then (.error (.killed n), after)
    else
      (do
        Action.message (Builtin.signalMessage n)
        Action.finish (128 + n) : Action Unit) after
  | _ => (.ok (), after)

/-- Says that a command is not there or cannot be started. -/
def refuse (name : String) : Action Unit := do
  let s ← get
  let isWay := name.contains '/'
  let isThere : Bool :=
    if isWay then (s.setting.node? name).isSome
    else
      ((Builtin.places s).splitOn ":").any fun place =>
        (s.setting.node? ((if place.isEmpty then "." else place) ++ "/" ++ name)).isSome
  if name.isEmpty then Action.fail 127 ": Permission denied"
  else if isThere then Action.fail (if isWay then 126 else 127) (name ++ ": Permission denied")
  else Action.fail 127 (name ++ ": not found")

/-- Ends the shell after a fault in a source. -/
def refuseSource {α : Type} (fault : SyntaxError) : Action α := do
  modify fun s => { s with line := fault.line }
  Action.abort s!"Syntax error: {fault.reason}"

/-- Runs the lines of a source one by one, up to the first fault, which ends the shell. -/
def eachLine (run : Command → Action Unit) : (lines : Nat) → List Placed → Action Unit
  | 0, _ => return
  | lines + 1, tokens => do
    match Reader.nextLine (← get).aliases tokens with
    | .finished => return
    | .fault fault => refuseSource fault
    | .commands c rest =>
      run c
      eachLine run lines rest

/-- The bytes that a pipe holds before whoever writes to it is stuck. -/
def pipeRoom : Nat := 262144

mutual

/-- Runs a command. With `tested` something asks for its status. -/
def run : (fuel : Nat) → (tested : Bool) → Command → Action Unit
  | 0, _, _ => throw .late
  | fuel + 1, tested, c => do
    if (← get).has .noexec then return
    match c with
    | .nothing => return
    | .sequence c d =>
      run fuel tested c
      run fuel tested d
    | .both c d =>
      run fuel true c
      if (← get).status = 0 then run fuel tested d
    | .either c d =>
      run fuel true c
      if (← get).status ≠ 0 then run fuel tested d
    | .negated c =>
      run fuel true c
      Action.finish (if (← get).status = 0 then 1 else 0)
    | .pipe c d =>
      let s ← get
      let (i, channel, w) := s.newBuffer (some pipeRoom)
      set { s with toWorld := w }
      Action.isolated do
        modify fun s => s.setStream outputStream (some channel)
        ending fuel (run fuel tested c)
      let between ← get
      let b := between.bufferAt i
      let isStuck := pipeRoom < b.size
      let ready := if isStuck then s.now else b.ready between.now
      let (source, w) := { between.toWorld with now := s.now + Action.forkTime }.newChannel
        (.text b.text ready)
      set { between with toWorld := w }
      Action.isolated do
        modify fun s => s.setStream inputStream (some source)
        ending fuel (run fuel tested d)
      Action.waitUntil (if isStuck then 0 else between.now)
      if isStuck && ((← get).toWorld.unread source).1 = some "" then throw .late
      exitOnFailure tested
    | .background c => runBeside fuel c
    | .branch test yes no =>
      run fuel true test
      if (← get).status = 0 then run fuel tested yes
      else if no matches .nothing then Action.finish 0
      else run fuel tested no
    | .loop whileTrue test body =>
      Action.finish 0
      withLoop <| Action.forever do
        let last := (← get).status
        Action.inLoop do
          run fuel true test
          if ((← get).status == 0) == whileTrue then run fuel tested body
          else
            Action.finish last
            throw (.breaks 1)
    | .each name words body =>
      let values ← Expansion.fields (capture fuel) words
      Action.finish 0
      withLoop <| Action.forEach (fun value => do
        Action.assign "" name value
        Action.inLoop (run fuel tested body)) values
    | .choice line subject cases =>
      modify fun s => { s with line }
      let text ← Expansion.text (capture fuel) subject
      choose fuel tested text.toList cases
    | .group line isolated body redirects =>
      modify fun s => { s with line }
      keepingStreams do
        if ← redirectAll (capture fuel) redirects then
          if isolated then Action.isolated (ending fuel (run fuel tested body))
          else run fuel tested body
      if isolated then exitOnFailure tested
    | .function name body =>
      modify fun s =>
        { s with functions := (name, body) :: s.functions.filter (·.1 ≠ name), status := 0 }
    | .simple line assignments words redirects =>
      modify fun s => { s with line, captured := 0 }
      let fields ← Expansion.fields (capture fuel) words
      let isSpecial := fields.head?.any Builtin.specials.contains
      let isLocal := !fields.isEmpty && !isSpecial
      let isExposed := isLocal || (fields.head? = some "exec" && 1 < fields.length)
      let streams := (← get).streams
      let assigned : Action Unit := do
        let values ← assignments.mapM fun (name, w) => do
          let value ← Expansion.text (capture fuel) w
          Action.assign "" name value
          if isExposed then expose name
          return (name, value)
        let status := (← get).captured
        if (← get).has .xtrace then
          keepingStreams do
            modify fun s => { s with streams }
            trace fuel values fields
        if fields.isEmpty then Action.finish status else invoke fuel tested fields
      let opened : Action Unit := do
        if ← redirectAll (capture fuel) redirects then
          if isLocal then withVariables (assignments.map Prod.fst) assigned else assigned
        else if isSpecial then throw .fails
      if fields = ["exec"] then opened else keepingStreams opened
      exitOnFailure tested

/-- Runs a command that is not waited for. It runs at once as far as its files go, and in its own time as
far as its output goes. -/
def runBeside : (fuel : Nat) → Command → Action Unit
  | 0, _ => throw .late
  | fuel + 1, c => do
    let s ← get
    let job := s.jobCount + 1
    let process := ownNumber + job
    let (source, w) := { s.toWorld with jobCount := job }.newChannel .nowhere
    set { s with toWorld := w, job := process }
    let isLate ← tryCatch
      (do
        Action.isolated do
          modify fun s => s.setStream inputStream (some source)
          ending fuel (run fuel true c)
        return false)
      fun
        | .late => return true
        | other => throw other
    let after ← get
    let finish := if isLate then s.limit else after.now
    let held := (s.streams.filter fun (n, _) => !(detached c).contains n).filterMap fun (_, channel) =>
      match s.channels[channel]? with
      | some (.buffer i) => some i
      | _ => none
    let hold (w : World) (i : Nat) : World :=
      { w with buffers := w.buffers.modify i fun b =>
          { b with writers := (process, finish) :: b.writers } }
    set { after with
      toWorld := { held.eraseDups.foldl hold after.toWorld with now := s.now + Action.forkTime }
      job := s.job, status := 0 }
    Builtin.addJob process after.status finish (pipelineLength c)

/-- Shows a command before it runs, in the messages of the shell. -/
def trace : (fuel : Nat) → (values : List (String × String)) → (words : List String) → Action Unit
  | 0, _, _ => throw .late
  | fuel + 1, values, words => do
    let s ← get
    let shown := values.map (fun v => v.1 ++ "=" ++ v.2) ++ words
    if shown.isEmpty then return
    let start ←
      match Words.ofDocument 1 ((s.value? "PS4").getD "").toList with
      | .ok w => Expansion.text (capture fuel) w
      | .error _ => pure ""
    Action.message (start ++ " ".intercalate shown ++ "\n")

/-- Runs the first command one of whose patterns accepts a text. -/
def choose : (fuel : Nat) → (tested : Bool) → List Char → List (List Word × Command) → Action Unit
  | 0, _, _, _ => throw .late
  | _, _, _, [] => Action.finish 0
  | fuel + 1, tested, text, (words, body) :: rest => do
    let isAccepted ← words.anyM fun w => do
      return (Wildcard.pattern (← Expansion.glyphs (capture fuel) w)).accepts text
    if isAccepted then
      if body matches .nothing then Action.finish 0 else run fuel tested body
    else choose fuel tested text rest

/-- The output of the commands that stand in a word. -/
def capture : (fuel : Nat) → Enclosing → List Char → Action (List Char)
  | 0, _, _ => throw .late
  | fuel + 1, enclosing, source => do
    let s ← get
    let c ←
      match Reader.inner s.aliases enclosing source with
      | .ok c => pure c
      | .error fault => refuseSource fault
    let (i, channel, w) := s.newBuffer none
    set { s with toWorld := w }
    Action.isolated do
      modify fun s => s.setStream outputStream (some channel)
      ending fuel (run fuel false c)
    let inner ← get
    let b := inner.bufferAt i
    Action.waitUntil (b.ready inner.now)
    modify fun after => { after with captured := inner.status, status := s.status }
    return capturedText b.text

/-- Runs the commands of a source up to its first fault, which ends the shell. -/
def runSource : (fuel : Nat) → (tested : Bool) → List Char → Action Unit
  | 0, _, _ => throw .late
  | fuel + 1, tested, source => do
    eachLine (run fuel tested) (8 * source.length + 8) (Tokens.ofSource 1 source)

/-- Runs an action and then what the shell does at its end. -/
def ending : (fuel : Nat) → Action Unit → Action Unit
  | 0, _ => throw .late
  | fuel + 1, x => do
    tryCatch x fun
      | .late => throw .late
      | .killed n => throw (.killed n)
      | _ => return
    let s ← get
    if let some (_, action) := s.traps.find? (·.1 = "EXIT") then
      set { s with traps := s.traps.filter (·.1 ≠ "EXIT") }
      let isLeft ← tryCatch
        (do
          runSource fuel false action.toList
          return false)
        fun
          | .exits | .fails => return true
          | other => throw other
      if !isLeft then Action.finish s.status

/-- Runs a command with its words expanded. -/
def invoke : (fuel : Nat) → (tested : Bool) → List String → Action Unit
  | 0, _, _ => throw .late
  | _, _, [] => return
  | fuel + 1, tested, name :: args => do
    Action.spend Action.commandTime
    let s ← get
    if name = "eval" then
      Action.finish 0
      Action.within (some "eval") <| runSource fuel tested (" ".intercalate args).toList
    else if name = "." then
      match args with
      | [] => Action.finish 0
      | file :: _ => script fuel file
    else if name = "exec" then
      if let program :: args := args then
        Action.within (some "exec") <| start fuel true program args
        throw .exits
      else Action.finish 0
    else
      match (s.functions.find? (·.1 = name)).filter fun _ => !Builtin.specials.contains name with
      | some (_, body) => inFunction args (run fuel tested body)
      | none => invokePlain fuel tested name args

/-- Runs the commands of a file in the shell itself. -/
def script : (fuel : Nat) → (file : String) → Action Unit
  | 0, _ => throw .late
  | fuel + 1, file => do
    let s ← get
    let refused (reason : String) : Action Unit := Action.within (some ".") <| Action.abort reason
    if !file.contains '/' then refused s!"{file}: not found"
    else
      match Program.content s.setting file with
      | .error e => refused (openMessage "open" "No such file" file e)
      | .ok source =>
        if Program.isInput file then
          Action.awaitInput
          modify fun s => s.leave inputStream ""
        Action.finish 0
        tryCatch (Action.within (some file) <| runSource fuel false source.toList) fun
          | .returns => return
          | other => throw other

/-- Runs a command that is no function. -/
def invokePlain : (fuel : Nat) → (tested : Bool) → (name : String) → List String → Action Unit
  | 0, _, _, _ => throw .late
  | fuel + 1, tested, name, args => do
    if name = "command" then
      let (letters, operands) := Builtin.optionsOf args
      match Builtin.unknownOption? ['p', 'v', 'V'] args, operands with
      | some c, _ => Action.within (some "command") <| Action.fail 2 s!"Illegal option -{c}"
      | none, [] => Action.finish 0
      | none, name :: args =>
        if letters.contains 'v' then Builtin.locate [name]
        else if letters.contains 'V' then Builtin.type [name]
        else
          let plain : Action Unit := Action.surviving <|
            if ["eval", ".", "exec"].contains name then invoke fuel tested (name :: args)
            else invokePlain fuel tested name args
          if !letters.contains 'p' then plain
          else withVariables ["PATH"] do
            Action.assign "" "PATH" Program.usualPlaces
            plain
    else if name = "kill" then kill fuel args
    else
      match Builtin.run? name args with
      | some action =>
        Action.within none <|
          if Builtin.specials.contains name then action else Action.surviving action
      | none => start fuel false name args

/-- Sends signals. One for the shell itself may end it. -/
def kill : (fuel : Nat) → List String → Action Unit
  | 0, _ => throw .late
  | fuel + 1, args => do
    match Builtin.sendingOf args with
    | .list status => Action.within none <| Builtin.tellSignals status
    | .wrong reason => Action.within (some "kill") <| Action.fail 2 reason
    | .send (name, n) targets =>
      Action.finish 0
      if ← Builtin.sendSignal n targets then
        match ((← get).traps.find? (·.1 = name)).filter fun _ => name ≠ "KILL" && name ≠ "STOP" with
        | some (_, action) =>
          if n ≠ 0 then
            let status := (← get).status
            runSource fuel false action.toList
            Action.finish status
        | none =>
          if Builtin.isHarmless n then return
          else throw (if Builtin.isStopping n then .late else .killed n)

/-- Starts a program, possibly in place of the shell. -/
def start : (fuel : Nat) → (replaces : Bool) → (name : String) → List String → Action Unit
  | 0, _, _, _ => throw .late
  | fuel + 1, replaces, name, args => do
    let s ← get
    match Program.called? (Builtin.places s) name with
    | none => refuse name
    | some "sh" => shell fuel replaces args
    | some program =>
      Builtin.remember name
      match Program.run? { s.setting with speaker := program ++ ": " } program args with
      | some answered => Action.takeProgram (Program.writeFault name program) answered
      | none => refuse name

/-- Runs a shell on a command text, on a script or on its input. -/
def shell : (fuel : Nat) → (replaces : Bool) → List String → Action Unit
  | 0, _, _ => throw .late
  | fuel + 1, replaces, args => do
    let s ← get
    inNewShell replaces ["sh"] <| ending fuel do
      let o ← Builtin.takeOptions "" args.length ⟨args, false, false⟩
      let go (parameters : List String) (source : List Char) : Action Unit := do
        modify fun s => { s with parameters }
        runSource fuel false source
      if o.hasCommand then
        match o.rest with
        | [] => Action.abort "-c requires an argument"
        | source :: parameters => go (if parameters.isEmpty then ["sh"] else parameters) source.toList
      else
        match o.rest, (← get).has .stdin with
        | name :: parameters, false =>
          match openFile s 0 name .read with
          | .ok inner =>
            Builtin.setHabit .stdin false
            go (name :: parameters) (((inner.unreadOf 0).1.getD "").toList)
          | .error reason => Action.abort reason
        | parameters, _ =>
          Action.awaitInput
          modify fun s => s.leave inputStream ""
          go ("sh" :: parameters) (((s.unreadOf inputStream).1.getD "").toList)

end

/-! ## Starting programs -/

/-- The steps that a command may take one inside the other. -/
def stepLimit : Nat := 20000

/-- Why a program that is not known cannot be started. -/
def spawnError (tree : FileTree) (cwd : Path) (program : String) : FileError :=
  if program.contains '/' then
    match (tree.resolve cwd program).bind tree.readAt with
    | .ok _ | .error .isDirectory => .denied
    | .error e => e
  else .notFound

/-- The state in which a program starts: nothing to read, one buffer for its output and one for its
messages. -/
def initialState (tree : FileTree) (cwd : Path) (millis : Nat) : State where
  tree := tree
  channels := #[.nowhere, .buffer 0, .buffer 1]
  buffers := #[default, default]
  now := 0
  limit := 1000 * millis
  jobCount := 0
  cwd := cwd
  streams := [(inputStream, 0), (outputStream, 1), (messageStream, 2)]
  parameters := ["sh"]
  bindings := withOwn
    [⟨"PWD", some (Setting.nameOf cwd), true, false⟩, ⟨"PATH", some Program.usualPlaces, true, false⟩]
  functions := []
  aliases := []
  traps := []
  habits := []
  status := 0
  line := 0
  context := none
  loops := 0
  depth := 0
  shadowed := none
  jobs := []
  lastProcess := none
  job := 0
  captured := 0
  letterPlace := .first
  mask := 18
  hashed := []

/-- Waits until nobody can write to the output any more. -/
def awaitWriters : Action Unit := do
  let s ← get
  Action.waitUntil ((s.bufferAt 1).ready ((s.bufferAt 0).ready s.now))

/-- Runs a program of the command language or one of the known programs. -/
def execute : Launcher := fun tree cwd program args millis =>
  if (program :: args).any (·.contains '\x00') then .error (.spawn .zeroByte)
  else
    match tree.node? cwd with
    | none => .error (.spawn .notFound)
    | some (.file _) => .error (.spawn .notDirectory)
    | some .directory =>
      let s := initialState tree cwd millis
      let name := Bytes.ofName program
      if (Program.called? Program.usualPlaces name).isNone then
        .error (.spawn (spawnError tree cwd program))
      else
        let started := start stepLimit true name (args.map Bytes.ofName)
        let (result, s) := started.run.run s
        let (waited, s) := awaitWriters.run.run s
        if result matches .error .late || waited matches .error .late then .error (.timeout s.tree)
        else .ok {
          tree := s.tree
          output := Bytes.toContent (s.bufferAt 0).text
          messages := Bytes.toContent (s.bufferAt 1).text
          exitCode := if result matches .error (.killed _) then none else some s.status
          millis := s.now / 1000 }

end TextRepair.Shell
