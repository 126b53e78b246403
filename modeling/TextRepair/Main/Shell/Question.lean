import TextRepair.Main.Shell.Program

/-!
# Questions about texts, numbers and files

A question is a row of words: a single text, an operator with one or two operands, or several of these
joined by further operators. `Question.answer` is its truth value, or what is wrong with it.
-/

namespace TextRepair.Shell

namespace Question

/-- What a word does where it stands. -/
inductive Role where
  | unary
  | binary
  | negation
  | conjunction
  | disjunction
  | opening
  | closing
  | operand
  | finish
  deriving DecidableEq, Repr

/-- Whether a word is an operator between two operands. -/
def isBinary (w : String) : Bool :=
  ["=", "!=", "<", ">", "-eq", "-ne", "-ge", "-gt", "-le", "-lt", "-nt", "-ot", "-ef"].contains w

/-- Whether a word is an operator before one operand. -/
def isUnary (w : String) : Bool :=
  ["-r", "-w", "-x", "-e", "-f", "-d", "-c", "-b", "-p", "-u", "-g", "-k", "-s", "-t", "-z", "-n",
    "-h", "-O", "-G", "-L", "-S"].contains w

/-- The role of the first of some words. An operator with nothing to stand before is an operand. -/
def role : List String → Role
  | [] => .finish
  | w :: rest =>
    if isBinary w then .binary
    else if w = "!" then .negation
    else if w = "-a" then .conjunction
    else if w = "-o" then .disjunction
    else if w = "(" then if rest.isEmpty then .operand else .opening
    else if w = ")" then .closing
    else if isUnary w then
      match rest with
      | [] => .operand
      | [_] => .unary
      | next :: _ => if isBinary next then .operand else .unary
    else .operand

/-- The number of an operand. -/
def number (w : String) : Except String Int :=
  let cs := (Text.trim w).toList
  let value : Option Int :=
    match cs with
    | '-' :: digits => (Text.natOfDigits? digits).map fun n => -(n : Int)
    | '+' :: digits => (Text.natOfDigits? digits).map fun n => (n : Int)
    | digits => (Text.natOfDigits? digits).map fun n => (n : Int)
  match value.filter fun n => n = n.bmod UInt64.size with
  | some n => .ok n
  | none => .error s!"Illegal number: {w}"

/-- An operator before one operand. -/
def unary (s : Setting) (operator w : String) : Bool :=
  if operator = "-z" then w.isEmpty
  else if operator = "-n" then !w.isEmpty
  else if w = "/dev/null" then ["-e", "-r", "-w", "-c"].contains operator
  else
    match s.node? w with
    | none => false
    | some .directory => ["-e", "-r", "-w", "-x", "-d", "-s", "-O", "-G"].contains operator
    | some (.file bytes) =>
      if operator = "-s" then bytes.size != 0
      else ["-e", "-r", "-w", "-f", "-O", "-G"].contains operator

/-- An operator between two operands. -/
def binary (s : Setting) (a operator b : String) : Except String Bool :=
  if operator = "=" then .ok (a = b)
  else if operator = "!=" then .ok (a ≠ b)
  else if operator = "<" then .ok (a < b)
  else if operator = ">" then .ok (b < a)
  else if operator = "-ef" then
    .ok ((s.node? a).isSome && (s.resolve a).toOption == (s.resolve b).toOption)
  else if operator = "-nt" || operator = "-ot" then .ok false
  else do
    let x ← number a
    let y ← number b
    return if operator = "-eq" then x = y
      else if operator = "-ne" then x ≠ y
      else if operator = "-lt" then x < y
      else if operator = "-le" then x ≤ y
      else if operator = "-gt" then y < x
      else y ≤ x

/-- The truth value of the first of some words, the last word that belongs to it, and what follows. -/
abbrev Front := Bool × String × List String

mutual

/-- Questions of which one has to be true. -/
def anyOf (s : Setting) : (fuel : Nat) → List String → Except String Front
  | 0, ws => .ok (false, "", ws)
  | fuel + 1, ws => do
    let (a, last, rest) ← allOf s fuel ws
    if role rest = .disjunction then
      let (b, last, rest) ← anyOf s fuel (rest.drop 1)
      return (a || b, last, rest)
    else return (a, last, rest)

/-- Questions that all have to be true. -/
def allOf (s : Setting) : (fuel : Nat) → List String → Except String Front
  | 0, ws => .ok (false, "", ws)
  | fuel + 1, ws => do
    let (a, last, rest) ← single s fuel ws
    if role rest = .conjunction then
      let (b, last, rest) ← allOf s fuel (rest.drop 1)
      return (a && b, last, rest)
    else return (a, last, rest)

/-- A question that is not joined with others. -/
def single (s : Setting) : (fuel : Nat) → List String → Except String Front
  | 0, ws => .ok (false, "", ws)
  | fuel + 1, ws =>
    match role ws, ws with
    | .finish, _ | _, [] => .ok (false, "", [])
    | .negation, w :: rest => do
      let (a, last, rest) ← single s fuel rest
      return (!a, if last.isEmpty then w else last, rest)
    | .opening, _ :: rest =>
      if role rest = .closing then .ok (false, ")", rest.drop 1)
      else do
        let (a, _, rest) ← anyOf s fuel rest
        if role rest = .closing then return (a, ")", rest.drop 1)
        else .error "closing paren expected"
    | .unary, operator :: w :: rest => .ok (unary s operator w, w, rest)
    | _, w :: rest =>
      match role rest, rest with
      | .binary, operator :: b :: rest => do return (← binary s w operator b, b, rest)
      | .binary, [operator] => .error s!"{operator}: argument expected"
      | _, _ => .ok (!w.isEmpty, w, rest)

end

/-- Joined questions that take up all words. -/
def whole (s : Setting) (ws : List String) : Except String Bool := do
  let (a, last, rest) ← anyOf s (3 * ws.length + 3) ws
  if rest.isEmpty then return a else .error s!"{last}: unexpected operator"

/-- The answer to a question. Up to four words are read by their number first. -/
def answer (s : Setting) : List String → Except String Bool
  | [] => .ok false
  | [a, operator, b] =>
    if isBinary operator then binary s a operator b
    else if a = "(" && b = ")" then whole s [operator]
    else if a = "!" then (answer s [operator, b]).map (!·)
    else whole s [a, operator, b]
  | [a, b, c, d] =>
    if a = "(" && d = ")" then whole s [b, c]
    else if a = "!" then (answer s [b, c, d]).map (!·)
    else whole s [a, b, c, d]
  | ws => whole s ws

end Question

/-- A question as a program; `name` is what it is called in messages. The status is 0 for yes, 1 for no,
2 after an error. -/
def Program.test (s : Setting) (name : String) (ws : List String) : Answered :=
  match Question.answer s ws with
  | .ok true => .ofStatus 0
  | .ok false => .ofStatus 1
  | .error reason => failing 2 (s.speaker ++ name ++ ": " ++ reason)

/-- A question between brackets. -/
def Program.bracket (s : Setting) (ws : List String) : Answered :=
  if ws.getLast? = some "]" then test s "[" ws.dropLast
  else failing 2 (s.speaker ++ "[: missing ]")

end TextRepair.Shell
