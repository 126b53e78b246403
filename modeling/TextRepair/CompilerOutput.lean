import TextRepair.Session.Replay
import TextRepair.Text.CharClass
import TextRepair.Text.Lines

/-!
# Compiler and interpreter output

Each line of output has one meaning, the first that fits (`OutputLine.ofChars`). A scan through the
lines puts headers together with their locations and exceptions with their frames (`scan`). The
following shapes are known:

    error[E0425]: cannot find value x in this scope
      --> src/main.rs:3:20
    main.c:3:5: error: 'x' undeclared
    src/app.ts(3,5): error TS2304: Cannot find name 'foo'.
      File "main.py", line 3, in <module>
    NameError: name 'totl' is not defined
-/

namespace TextRepair

/-- What a line of output means. -/
inductive OutputLine where
  /-- The place of the header before it. -/
  | location (file : String) (line column : Nat)
  /-- A diagnostic with its place. -/
  | finding (signature : Signature)
  /-- A diagnostic whose place may follow. -/
  | header (signature : Signature)
  /-- A footer that counts what was reported before. -/
  | summary
  /-- A frame of a traceback. -/
  | frame (file : String) (line : Nat)
  /-- An exception after a traceback. -/
  | exception (name message : String)
  | other
  deriving DecidableEq, Repr

namespace OutputLine

/-- A line or column number; 0 if it has other digits than the ASCII ones or is too large. -/
def number (cs : List Char) : Nat :=
  (Text.natBelow? UInt32.size cs).getD 0

/-- What follows a given start, if the text starts so. -/
def after? (start : String) (cs : List Char) : Option (List Char) :=
  Diff.after? start.toList cs

/-- The first of some starts that fits, and what follows it. -/
def oneOf? (starts : List String) (cs : List Char) : Option (String × List Char) :=
  starts.findSome? fun start => (after? start cs).map fun rest => (start, rest)

/-- The severity that a word stands for. -/
def severityOf (word : String) : Severity :=
  if word = "error" || word = "fatal error" then .error
  else if word = "warning" then .warning
  else .note

/-- A code in square brackets, if there is one, and what follows. -/
def bracketed (cs : List Char) : Option (List Char) × List Char :=
  match cs with
  | '[' :: rest =>
    let code := rest.takeWhile Text.isAsciiWord
    match rest.dropWhile Text.isAsciiWord with
    | ']' :: rest => if code.isEmpty then (none, cs) else (some code, rest)
    | _ => (none, cs)
  | _ => (none, cs)

/-- A non-empty text after a colon and a space. -/
def message? (cs : List Char) : Option (List Char) :=
  match cs with
  | ':' :: ' ' :: rest => if rest.isEmpty then none else some rest
  | _ => none

/-- One of some severities, possibly a code in brackets, and a message. -/
def report? (severities : List String) (cs : List Char) : Option Signature := do
  let (word, rest) ← oneOf? severities cs
  let (code, rest) := bracketed rest
  let message ← message? rest
  return { severity := severityOf word, code := code.map String.ofList,
           message := String.ofList message, file := none, line := none, column := none }

/-- A text cut at its last character that satisfies `p`: what is before and what is after it. -/
def cutLast? (p : Char → Bool) (cs : List Char) : Option (List Char × List Char) :=
  let back := cs.reverse
  match back.dropWhile (fun c => !p c) with
  | [] => none
  | _ :: before => some (before.reverse, (back.takeWhile (fun c => !p c)).reverse)

/-- A non-empty run of digits. -/
def isNumber (cs : List Char) : Bool :=
  !cs.isEmpty && cs.all Text.isDigit

/-- An arrow with file, line and column. -/
def location? (cs : List Char) : Option OutputLine := do
  let rest ← after? "--> " (cs.dropWhile Text.isBlank)
  let (before, column) ← cutLast? (· = ':') rest
  let (file, line) ← cutLast? (· = ':') before
  if isNumber column && isNumber line && !file.isEmpty then
    some (.location (String.ofList file) (number line) (number column))
  else none

/-- The shortest non-empty start after which `read?` accepts the rest; `before` is its reversed part
already passed. -/
def splitShortest? {α : Type} (read? : List Char → Option α) (before : List Char) :
    List Char → Option (List Char × α)
  | [] => none
  | c :: cs =>
    match read? cs with
    | some a => some ((c :: before).reverse, a)
    | none => splitShortest? read? (c :: before) cs

/-- The same for a text that must not start with a blank. -/
def afterFile? {α : Type} (read? : List Char → Option α) (cs : List Char) :
    Option (List Char × α) :=
  match cs with
  | [] => none
  | c :: _ => if Text.isBlank c then none else splitShortest? read? [] cs

/-- Line, possibly column, severity and message, separated by colons. -/
def located? (cs : List Char) : Option Signature := do
  let rest ← after? ":" cs
  let (line, rest) ← Diff.digits? rest
  let rest ← after? ":" rest
  let (column, rest) := match Diff.digits? rest with
    | some (column, ':' :: rest) => (some column, rest)
    | _ => (none, rest)
  let rest ← after? " " rest
  let s ← report? ["fatal error", "error", "warning", "note"] rest
  return { s with line := some (number line), column := column.map number }

/-- Line and column in parentheses, severity, code and message. -/
def parenthesised? (cs : List Char) : Option Signature := do
  let rest ← after? "(" cs
  let (line, rest) ← Diff.digits? rest
  let rest ← after? "," rest
  let (column, rest) ← Diff.digits? rest
  let rest ← after? "): " rest
  let (word, rest) ← oneOf? ["error", "warning"] rest
  let rest ← after? " TS" rest
  let (code, rest) ← Diff.digits? rest
  let message ← message? rest
  return {
    severity := severityOf word
    code := some (String.ofList ('T' :: 'S' :: code))
    message := String.ofList message
    file := none
    line := some (number line)
    column := some (number column) }

/-- A diagnostic that starts with its file. -/
def finding? (cs : List Char) : Option OutputLine :=
  ((afterFile? located? cs) <|> (afterFile? parenthesised? cs)).map fun (file, s) =>
    .finding { s with file := some (String.ofList file) }

/-- Whether a message only counts what was reported before. -/
def isSummary (message : List Char) : Bool :=
  "aborting due to".toList.isPrefixOf message || "could not compile".toList.isPrefixOf message ||
    (occursIn "generated".toList message && occursIn "warning".toList message)

/-- A diagnostic at the start of a line. -/
def header? (cs : List Char) : Option OutputLine :=
  (report? ["error", "warning"] cs).map fun s =>
    if isSummary s.message.toList then .summary else .header s

/-- The last place at which a quoted name is closed and a line number follows; `before` is the
reversed part already passed. -/
def closeName? (before : List Char) : List Char → Option (List Char × List Char)
  | [] => none
  | c :: cs =>
    match closeName? (c :: before) cs with
    | some found => some found
    | none =>
      if before.isEmpty then none
      else ((after? "\", line " (c :: cs)).bind Diff.digits?).map fun (line, _) =>
        (before.reverse, line)

/-- A frame: a quoted file and a line. -/
def frame? (cs : List Char) : Option OutputLine := do
  let rest ← after? "File \"" (cs.dropWhile Text.isBlank)
  let (file, line) ← closeName? [] rest
  return .frame (String.ofList file) (number line)

/-- The ends of the names of exceptions. -/
def exceptionEnds : List (List Char) :=
  ["Error", "Exception", "Exit", "Interrupt"].map String.toList

/-- A character of a dotted name. -/
def isNameChar (c : Char) : Bool :=
  Text.isWord c || c = '.'

/-- A dotted name with the end of an exception's name, alone or before a colon and a message. -/
def exception? (cs : List Char) : Option OutputLine := do
  let name := cs.takeWhile isNameChar
  let rest := cs.dropWhile isNameChar
  let (first, tail) ← match name with
    | c :: tail => some (c, tail)
    | [] => none
  guard ((first.isAlpha || first = '_') && exceptionEnds.any fun e => e.isSuffixOf tail)
  match rest with
  | [] => some (.exception (String.ofList name) (String.ofList name))
  | ':' :: rest =>
    let message := rest.dropWhile Text.isBlank
    some (.exception (String.ofList name)
      (String.ofList (if message.isEmpty then name else message)))
  | _ => none

/-- The meaning of a line without blanks at its end. -/
def ofChars (cs : List Char) : OutputLine :=
  ((location? cs) <|> (finding? cs) <|> (header? cs) <|> (frame? cs) <|> (exception? cs)).getD .other

end OutputLine

namespace CompilerOutput

/-- A scan under way: the header that waits for its place, the innermost frame of a traceback, and
the diagnostics so far. -/
structure Progress where
  pending : Option Signature
  frame : Option (String × Nat)
  found : List Signature
  deriving Repr

/-- The header that waits, without a place, joins the diagnostics. -/
def Progress.flush (p : Progress) : Progress :=
  { p with pending := none, found := p.found ++ p.pending.toList }

/-- One line. -/
def Progress.step (p : Progress) : OutputLine → Progress
  | .location file line column =>
    let placed := p.pending.toList.map fun s =>
      { s with file := some file, line := some line, column := some column }
    { p with pending := none, found := p.found ++ placed }
  | .finding s => { p.flush with found := p.flush.found ++ [s] }
  | .header s => { p.flush with pending := some s }
  | .summary => p.flush
  | .frame file line => { p with frame := some (file, line) }
  | .exception name message =>
    match p.frame with
    | none => p
    | some (file, line) =>
      let s := { Signature.error message with
        code := some name, file := some file, line := some line }
      { p with frame := none, found := p.found ++ [s] }
  | .other => p

/-- The meanings of the lines of a text. -/
def meanings (text : String) : List OutputLine :=
  (Text.lines text).map fun line => .ofChars (Text.dropEndWhile Text.isBlank line.toList)

/-- The diagnostics in a stream of output. -/
def scan (text : String) : List Signature :=
  ((meanings text).foldl Progress.step ⟨none, none, []⟩).flush.found

/-- A list without later copies of an earlier entry. -/
def withoutCopies (signatures : List Signature) : List Signature :=
  signatures.foldl (fun kept s => if s ∈ kept then kept else kept ++ [s]) []

/-- The diagnostics of both streams, the error stream first. -/
def signatures (stdout stderr : String) : List Signature :=
  withoutCopies (scan stderr ++ scan stdout)

/-- The lines of both streams without their outer blanks. -/
def trimmedLines (stdout stderr : String) : List String :=
  (Text.lines stderr ++ Text.lines stdout).map Text.trim

/-- Whether a line speaks of a failure. -/
def isTelling (line : String) : Bool :=
  let lower := line.toList.map Char.toLower
  ["error", "failed", "panicked"].any fun word => occursIn word.toList lower

/-- The error of a command that has failed without a known diagnostic: the first telling line, else
the last line with visible text, else its exit. -/
def genericFailure (stdout stderr : String) (exitCode : Option Int) : Signature :=
  let lines := trimmedLines stdout stderr
  let message :=
    match lines.find? isTelling, (lines.filter (!·.isEmpty)).getLast? with
    | some line, _ => line
    | none, some line => line
    | none, none =>
      match exitCode with
      | some code => s!"command exited with status {code}"
      | none => "command terminated by signal"
  { Signature.error message with code := some "command-failed" }

/-- The diagnostics of a finished command. A command that has failed never comes out clean. -/
def ofCommand (stdout stderr : String) (exitCode : Option Int) : List Signature :=
  let found := signatures stdout stderr
  if exitCode ≠ some 0 && !found.any Signature.isBlocking then
    found ++ [genericFailure stdout stderr exitCode]
  else found

end CompilerOutput

end TextRepair
