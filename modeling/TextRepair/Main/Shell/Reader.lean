import TextRepair.Main.Shell.Tokens

/-!
# Reading commands

`Reader.nextLine` reads one line of commands, so what stands before a fault can still be run, and a line can
use the short names that an earlier one has given. The commands whose output is part of a word are read
with the line of that word to find their faults, and again by `Reader.inner` when they run.
-/

namespace TextRepair.Shell

/-- A fault in a source. -/
structure SyntaxError where
  line : Nat
  reason : String
  /-- The number of tokens from the fault on. -/
  left : Nat
  deriving DecidableEq, Repr

namespace Reader

/-- What reading gives, unless there is a fault. -/
abbrev Reading := Except SyntaxError

/-- Something read from the front of some tokens, and the tokens left. -/
abbrev Front (α : Type) := α × List Placed

/-- The first of the tokens left. -/
def next (ts : List Placed) : Placed :=
  ts.headD ⟨.finish, 1⟩

/-- A text in double quotes. -/
def inQuotes (s : String) : String :=
  "\"" ++ s ++ "\""

/-- A fault at the first of the tokens left. A fault at the end of a line shows on the next one. -/
def fault {α : Type} (ts : List Placed) (reason : String) : Reading α :=
  let t := next ts
  .error ⟨if t.token.isOperator "\n" then t.line + 1 else t.line, reason, ts.length⟩

/-- A fault at the first of the tokens left, which should have been `expected`. -/
def unexpected {α : Type} (ts : List Placed) (expected : String) : Reading α :=
  fault ts <|
    match (next ts).token with
    | .bad reason => reason
    | token =>
      if expected.isEmpty then s!"{token.shown} unexpected"
      else s!"{token.shown} unexpected (expecting {expected})"

/-- Whether the next token is a given word. -/
def atWord (s : String) (ts : List Placed) : Bool :=
  (next ts).token.isWord s

/-- Whether the next token is a given operator. -/
def atOperator (s : String) (ts : List Placed) : Bool :=
  (next ts).token.isOperator s

/-- The tokens after a given word, which must come. -/
def skipWord (s : String) (ts : List Placed) : Reading (List Placed) :=
  if atWord s ts then .ok (ts.drop 1) else unexpected ts (inQuotes s)

/-- The tokens after a given operator, which must come. -/
def skipOperator (s : String) (ts : List Placed) : Reading (List Placed) :=
  if atOperator s ts then .ok (ts.drop 1) else unexpected ts (inQuotes s)

/-- The tokens after line ends. -/
def skipLines (ts : List Placed) : List Placed :=
  ts.dropWhile fun t => t.token.isOperator "\n"

/-- The words that end a list of commands. -/
def closers : List String :=
  ["then", "else", "elif", "fi", "do", "done", "esac", "\x7d"]

/-- Whether there are no more tokens. -/
def isFinished (ts : List Placed) : Bool :=
  match (next ts).token with
  | .finish => true
  | _ => false

/-- Whether a list of commands ends here. -/
def endsList (ts : List Placed) : Bool :=
  match (next ts).token with
  | .finish => true
  | .operator s => s = ")" || s = ";;"
  | .word _ source => closers.contains (String.ofList source)
  | _ => false

/-- A redirection after its operator. -/
def redirectOf (stream : Option Nat) (operator : String) (w : Word) : Redirect :=
  if operator = "<" then ⟨stream.getD 0, .read w⟩
  else if operator = "<&" then ⟨stream.getD 0, .copy w⟩
  else if operator = ">&" then ⟨stream.getD 1, .copy w⟩
  else if operator = ">>" then ⟨stream.getD 1, .append w⟩
  else if operator = "<>" then ⟨stream.getD 0, .readWrite w⟩
  else ⟨stream.getD 1, .write w (operator = ">|")⟩

/-- Redirections in a row. -/
def redirections : List Placed → Reading (Front (List Redirect))
  | ⟨.redirect stream s, _⟩ :: ⟨.word w _, _⟩ :: rest => do
    let (more, rest) ← redirections rest
    return (redirectOf stream s w :: more, rest)
  | ⟨.document stream content, _⟩ :: rest => do
    let (more, rest) ← redirections rest
    return (⟨stream.getD 0, .document content⟩ :: more, rest)
  | ⟨.redirect _ _, _⟩ :: rest => unexpected rest ""
  | ts => .ok ([], ts)

/-- The name and the value of a word that is an assignment. -/
def assignment? (line : Nat) (source : List Char) : Option (String × Word) :=
  let name := source.takeWhile (· ≠ '=')
  match source.dropWhile (· ≠ '=') with
  | _ :: value =>
    if Words.isVariable name then
      (Words.ofValue line value).toOption.map fun w => (String.ofList name, w)
    else none
  | [] => none

/-- Short names with the texts that they stand for. -/
abbrev Aliases := List (String × String)

/-- A token that does not stand for a text any more if it is one of some names. -/
def settled (names : List String) (t : Placed) : Placed :=
  match t.token with
  | .word w source =>
    if names.contains (String.ofList source) then ⟨.word w ('\\' :: source), t.line⟩ else t
  | _ => t

/-- Tokens with the text that a short name stands for in place of a word at their start, and so on for the
words that come to stand there; `used` are the names that have stood there. After a blank at the end of a
text the next word is treated alike. -/
def unfolded (as : Aliases) : (fuel : Nat) → (used : List String) → List Placed → List Placed
  | 0, _, ts => ts
  | _, _, [] => []
  | fuel + 1, used, t :: rest =>
    match t.token with
    | .word _ source =>
      let name := String.ofList source
      match if Token.reserved.contains name then none else as.find? (·.1 = name) with
      | none => t :: rest
      | some (_, text) =>
        let used := name :: used
        let own := ((Tokens.ofSource t.line text.toList).dropLast).map fun u =>
          settled used ⟨u.token, t.line⟩
        let goesOn := text.toList.getLast?.any fun c => c = ' ' || c = '\t'
        unfolded as fuel used (own ++ if goesOn then unfolded as fuel [] rest else rest)
    | _ => t :: rest

/-- Tokens of which the first is a plain word where it would mean something at the start of a command. -/
def settleNext : List Placed → List Placed
  | t :: rest => settled Token.reserved t :: rest
  | [] => []

/-- A bound on the tokens that come of some tokens. -/
def extent (as : Aliases) (ts : List Placed) : Nat :=
  (as.map fun a => a.2.length + 1).foldl (· + ·) ts.length

/-- Tokens with the texts that short names stand for in place of those at the start. -/
def opened (as : Aliases) (ts : List Placed) : List Placed :=
  if as.isEmpty then ts else unfolded as (extent as ts) [] ts

/-- The parts of a simple command. -/
structure Draft where
  assignments : List (String × Word)
  words : List Word
  redirects : List Redirect

/-- Assignments, words and redirections up to the end of a simple command. -/
def simple (as : Aliases) : (fuel : Nat) → Draft → List Placed → Reading (Front Draft)
  | 0, _, ts => unexpected ts ""
  | fuel + 1, d, ts =>
    match if d.words.isEmpty then opened as ts else ts with
    | ⟨.word w source, line⟩ :: rest =>
      match if d.words.isEmpty then assignment? line source else none with
      | some a => simple as fuel { d with assignments := d.assignments ++ [a] } rest
      | none => simple as fuel { d with words := d.words ++ [w] } rest
    | ⟨.redirect stream s, _⟩ :: ⟨.word w _, _⟩ :: rest =>
      simple as fuel { d with redirects := d.redirects ++ [redirectOf stream s w] } rest
    | ⟨.document stream content, _⟩ :: rest =>
      simple as fuel { d with redirects := d.redirects ++ [⟨stream.getD 0, .document content⟩] } rest
    | ⟨.redirect _ _, _⟩ :: rest => unexpected rest ""
    | ts =>
      if d.assignments.isEmpty && d.words.isEmpty && d.redirects.isEmpty then unexpected ts ""
      else .ok (d, ts)

/-- Words in a row. -/
def wordsInRow : List Placed → List Word × List Placed
  | ⟨.word w _, _⟩ :: rest =>
    let (ws, rest) := wordsInRow rest
    (w :: ws, rest)
  | ts => ([], ts)

/-- The patterns of a case, up to its parenthesis. -/
def patterns : List Placed → Reading (Front (List Word))
  | ⟨.word w _, _⟩ :: rest =>
    if atOperator "|" rest then
      match rest with
      | _ :: rest => do
        let (more, rest) ← patterns rest
        return (w :: more, rest)
      | [] => unexpected rest ""
    else do
      let rest ← skipOperator ")" rest
      return ([w], rest)
  | ts => unexpected (if ts.length ≤ 1 then ts else ts.drop 1) (inQuotes ")")

/-- A compound command with its redirections. -/
def redirected (line : Nat) (isolated : Bool) (c : Command) (ts : List Placed) :
    Reading (Front Command) := do
  let (redirects, rest) ← redirections ts
  if redirects.isEmpty && !isolated then return (c, rest)
  else return (.group line isolated c redirects, rest)

/-- The tokens after the separator of a loop's head. -/
def skipSeparator (ts : List Placed) : List Placed :=
  skipLines (if atOperator ";" ts then ts.drop 1 else ts)

section

variable (as : Aliases)

mutual

/-- Commands up to the end of the list, or up to the end of the line if `oneLine`. With `isOptional`
there may be none. -/
def list (oneLine : Bool) : (fuel : Nat) → (isOptional : Bool) → List Placed → Reading (Front Command)
  | 0, _, ts => unexpected ts ""
  | fuel + 1, isOptional, ts => do
    let ts := opened as (if oneLine then ts else skipLines ts)
    if endsList ts && (isOptional || isFinished ts) then return (.nothing, ts)
    let (first, rest) ← conditional fuel ts
    if atOperator ";" rest then
      if oneLine && atOperator "\n" (rest.drop 1) then return (first, rest.drop 1)
      let (others, rest) ← list oneLine fuel true (rest.drop 1)
      return (.sequence first others, rest)
    else if atOperator "&" rest then
      if oneLine && atOperator "\n" (rest.drop 1) then return (.background first, rest.drop 1)
      let (others, rest) ← list oneLine fuel true (rest.drop 1)
      return (.sequence (.background first) others, rest)
    else if atOperator "\n" rest && !oneLine then
      let (others, rest) ← list oneLine fuel true (rest.drop 1)
      return (.sequence first others, rest)
    else return (first, rest)

/-- Pipelines joined by conditions, from left to right. -/
def conditional : (fuel : Nat) → List Placed → Reading (Front Command)
  | 0, ts => unexpected ts ""
  | fuel + 1, ts => do
    let (first, rest) ← pipeline fuel ts
    conditionalRest fuel first rest

/-- The rest of a conditional list. -/
def conditionalRest : (fuel : Nat) → Command → List Placed → Reading (Front Command)
  | 0, _, ts => unexpected ts ""
  | fuel + 1, first, ts =>
    if atOperator "&&" ts then do
      let (second, rest) ← pipeline fuel (skipLines (ts.drop 1))
      conditionalRest fuel (.both first second) rest
    else if atOperator "||" ts then do
      let (second, rest) ← pipeline fuel (skipLines (ts.drop 1))
      conditionalRest fuel (.either first second) rest
    else .ok (first, ts)

/-- Commands joined by pipes, possibly negated. -/
def pipeline : (fuel : Nat) → List Placed → Reading (Front Command)
  | 0, ts => unexpected ts ""
  | fuel + 1, ts =>
    let ts := opened as ts
    if atWord "!" ts then do
      let (c, rest) ← pipes fuel (ts.drop 1)
      return (.negated c, rest)
    else pipes fuel ts

/-- Commands joined by pipes. -/
def pipes : (fuel : Nat) → List Placed → Reading (Front Command)
  | 0, ts => unexpected ts ""
  | fuel + 1, ts => do
    let (first, rest) ← command fuel ts
    if atOperator "|" rest then
      let (second, rest) ← pipes fuel (skipLines (rest.drop 1))
      return (.pipe first second, rest)
    else return (first, rest)

/-- A simple or compound command, or the definition of a function. -/
def command : (fuel : Nat) → List Placed → Reading (Front Command)
  | 0, ts => unexpected ts ""
  | fuel + 1, ts => do
    let ts := opened as ts
    let line := (next ts).line
    let rest := ts.drop 1
    if atOperator "(" ts then
      let (body, rest) ← list false fuel false rest
      redirected line true body (← skipOperator ")" rest)
    else if atWord "\x7b" ts then
      let (body, rest) ← list false fuel false rest
      redirected line false body (← skipWord "\x7d" rest)
    else if atWord "if" ts then
      let (c, rest) ← branch fuel rest
      redirected line false c rest
    else if atWord "while" ts || atWord "until" ts then
      let (test, rest) ← list false fuel false rest
      let (body, rest) ← list false fuel false (← skipWord "do" rest)
      redirected line false (.loop (atWord "while" ts) test body) (← skipWord "done" rest)
    else if atWord "for" ts then forLoop fuel line rest
    else if atWord "case" ts then
      match rest with
      | ⟨.word subject _, _⟩ :: rest =>
        let rest ← skipWord "in" (skipLines rest)
        let (cases, rest) ← choices fuel (skipLines rest)
        redirected line false (.choice line subject cases) rest
      | _ => unexpected rest "word"
    else
      match next ts with
      | ⟨.word _ source, _⟩ =>
        if atOperator "(" rest && (assignment? line source).isNone then
          let body ← skipOperator ")" (settleNext (rest.drop 1))
          if !Words.isVariable source then fault ts "Bad function name"
          let (body, rest) ← command fuel (skipLines body)
          return (.function (String.ofList source) body, rest)
        else if Token.reserved.contains (String.ofList source) && source ≠ "in".toList then
          unexpected ts ""
        else simpleAt line ts
      | _ => simpleAt line ts

/-- A simple command. -/
def simpleAt (line : Nat) (ts : List Placed) : Reading (Front Command) := do
  let (d, rest) ← simple as (extent as ts + 1) ⟨[], [], []⟩ ts
  return (.simple line d.assignments d.words d.redirects, rest)

/-- A loop over words after its first word. -/
def forLoop : (fuel : Nat) → (line : Nat) → List Placed → Reading (Front Command)
  | 0, _, ts => unexpected ts ""
  | fuel + 1, line, ts =>
    match ts with
    | ⟨.word _ name, _⟩ :: rest => do
      if !Words.isVariable name then fault ts "Bad for loop variable"
      let isListed := atWord "in" (skipLines rest)
      let (words, rest) :=
        if isListed then wordsInRow ((skipLines rest).drop 1)
        else ([[.parameter "@" none true]], rest)
      if isListed && !atOperator ";" rest && !atOperator "\n" rest then unexpected rest ""
      let rest ← skipWord "do" (skipSeparator rest)
      let (body, rest) ← list false fuel false rest
      redirected line false (.each (String.ofList name) words body) (← skipWord "done" rest)
    | _ => fault ts "Bad for loop variable"

/-- The cases of a choice up to its end. -/
def choices : (fuel : Nat) → List Placed → Reading (Front (List (List Word × Command)))
  | 0, ts => unexpected ts ""
  | fuel + 1, ts => do
    if atWord "esac" ts then return ([], ts.drop 1)
    let (accepted, rest) ← patterns (if atOperator "(" ts then ts.drop 1 else ts)
    let (body, rest) ← list false fuel true rest
    if atOperator ";;" rest then
      let (more, rest) ← choices fuel (skipLines (rest.drop 1))
      return ((accepted, body) :: more, rest)
    else
      let rest ← if atWord "esac" rest then .ok (rest.drop 1) else unexpected rest (inQuotes ";;")
      return ([(accepted, body)], rest)

/-- A conditional command after its first word. -/
def branch : (fuel : Nat) → List Placed → Reading (Front Command)
  | 0, ts => unexpected ts ""
  | fuel + 1, ts => do
    let (test, rest) ← list false fuel false ts
    let (yes, rest) ← list false fuel false (← skipWord "then" rest)
    if atWord "elif" rest then
      let (no, rest) ← branch fuel (rest.drop 1)
      return (.branch test yes no, rest)
    else if atWord "else" rest then
      let (no, rest) ← list false fuel false (rest.drop 1)
      return (.branch test yes no, ← skipWord "fi" rest)
    else return (.branch test yes .nothing, ← skipWord "fi" rest)

end

/-- A bound on the steps that reading some tokens takes. -/
def bound (ts : List Placed) : Nat :=
  8 * extent as ts + 8

/-- The tokens of commands whose output is part of a word. The parenthesis that ends them is one of them. -/
def innerTokens (source : List Char) : Enclosing → List Placed
  | .backQuotes => Tokens.ofSource 1 source
  | .parentheses line =>
    let ts := Tokens.ofSource line source
    ts.dropLast ++ ts.getLast?.toList.map fun t =>
      match t.token with
      | .finish => ⟨.operator ")", t.line⟩
      | _ => t

/-- The commands at the start of tokens whose output is part of a word. What follows them in back quotes
does not count. -/
def innerCommand (e : Enclosing) (ts : List Placed) : Reading (Front Command) := do
  let (c, rest) ← list as false (bound as ts) true ts
  match e with
  | .backQuotes => if (next rest).token matches .bad _ then unexpected rest "" else return (c, rest)
  | .parentheses _ => if atOperator ")" rest then return (c, rest) else unexpected rest (inQuotes ")")

/-- The commands whose output is part of a word. -/
def inner (e : Enclosing) (source : List Char) : Reading Command :=
  (innerCommand as e (innerTokens source e)).map Prod.fst

end

/-! ## Commands in words -/

/-- Commands whose output is part of a word. -/
abbrev Inner := List Char × Enclosing

mutual

/-- The commands whose output is part of a part of a word, in order. -/
def ofPart : Part → List Inner
  | .output source e _ => [(source, e)]
  | .parameter _ (some (_, word)) _ => ofParts word
  | .arithmetic expression _ => ofParts expression
  | _ => []

/-- The commands whose output is part of a word, in order. -/
def ofParts : List Part → List Inner
  | [] => []
  | part :: rest => ofPart part ++ ofParts rest

end

/-- The same for the word of a token. -/
def ofToken (t : Placed) : List Inner :=
  match t.token with
  | .word w _ | .document _ w => ofParts w
  | _ => []

/-- What has been read from the front of some tokens, unless there is a fault in the commands in their words,
to a certain depth. The first fault counts. -/
def verified (as : Aliases) : (depth : Nat) → List Placed → Reading (Front Command) →
    Reading (Front Command)
  | 0, _, r => r
  | depth + 1, ts, r => do
    let left :=
      match r with
      | .ok (_, rest) => rest.length
      | .error e => e.left
    for (source, e) in (ts.take (ts.length - left)).flatMap ofToken do
      let inner := innerTokens source e
      let _ ← verified as depth inner (innerCommand as e inner)
    r

/-- The depth to which commands in words are read for their faults. -/
def depthLimit : Nat := 100

/-! ## Lines -/

/-- What comes next in a source. -/
inductive Step where
  | finished
  | fault (e : SyntaxError)
  /-- A line of commands, and the tokens after it. -/
  | commands (c : Command) (rest : List Placed)

/-- The next line of a source that has commands. -/
def nextLine (as : Aliases) (ts : List Placed) : Step :=
  let ts := skipLines ts
  if isFinished ts then .finished
  else
    let line : Reading (Front Command) := do
      let (c, rest) ← list as true (bound as ts) true ts
      if atOperator "\n" rest || isFinished rest then return (c, rest) else unexpected rest ""
    match verified as depthLimit ts line with
    | .error e => .fault e
    | .ok (c, rest) => .commands c rest

end Reader

end TextRepair.Shell
