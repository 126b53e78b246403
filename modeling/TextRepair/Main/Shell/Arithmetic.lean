import TextRepair.Main.Shell.Words

/-!
# Arithmetic expressions

Whole numbers of 64 bits with a sign, variables that hold them, and the usual operators.
`Arithmetic.value` gives the value of an expression and the variables that it assigns.
-/

namespace TextRepair.Shell.Arithmetic

/-- Why an expression has no value. -/
inductive Fault where
  | noPrimary
  | noEnd
  | noColon
  | division
  /-- A variable holds something else than a number. -/
  | noNumber (value : String)
  /-- A quotient is too large for its place, for which the shell is ended. -/
  | overflow
  deriving DecidableEq, Repr

/-- A token of an expression. -/
inductive Token where
  | number (n : Int)
  | name (s : String)
  | operator (s : String)
  deriving DecidableEq, Repr

/-- An expression. -/
inductive Expr where
  | number (n : Int)
  | variable (name : String)
  | unary (operator : String) (e : Expr)
  | binary (operator : String) (a b : Expr)
  | conditional (test yes no : Expr)
  /-- Assigns what an operator makes of the old value and another one. -/
  | assign (name operator : String) (e : Expr)
  deriving Repr, Inhabited

/-- The digits of a number in a base, and what follows them. -/
def digitsIn (base : Nat) (cs : List Char) : List Char × List Char :=
  let isDigit (c : Char) : Bool :=
    if base = 16 then c.isDigit || ('a' ≤ c.toLower && c.toLower ≤ 'f')
    else if base = 8 then '0' ≤ c && c ≤ '7'
    else c.isDigit
  (cs.takeWhile isDigit, cs.dropWhile isDigit)

/-- The number with the given digits. -/
def valueOf (base : Nat) (digits : List Char) : Int :=
  let digit (c : Char) : Nat :=
    if c.isDigit then c.toNat - '0'.toNat else c.toLower.toNat - 'a'.toNat + 10
  (digits.foldl (fun n c => base * n + digit c) 0 : Nat)

/-- A number at the start of a text: hexadecimal after `0x`, octal after another zero. -/
def number? (cs : List Char) : Option (Int × List Char) :=
  let read (base : Nat) (cs : List Char) : Option (Int × List Char) :=
    let (digits, rest) := digitsIn base cs
    if digits.isEmpty then none else some (valueOf base digits, rest)
  match cs with
  | '0' :: 'x' :: rest | '0' :: 'X' :: rest => read 16 rest <|> read 8 cs
  | '0' :: _ => read 8 cs
  | _ => read 10 cs

/-- The greatest number. -/
def greatest : Int := (UInt64.size / 2 - 1 : Nat)

/-- A number with 64 bits and a sign. -/
def wrapped (n : Int) : Int :=
  n.bmod UInt64.size

/-- The operators, longer ones before their starts. -/
def operators : List String :=
  ["<<=", ">>=", "&&", "||", "==", "!=", "<=", ">=", "<<", ">>", "+=", "-=", "*=", "/=", "%=", "&=",
    "^=", "|=", "+", "-", "*", "/", "%", "<", ">", "&", "^", "|", "!", "~", "?", ":", "=", "(", ")"]

/-- The tokens of a text. A number that is too large is the greatest one, and a character that belongs to no
token is an operator without a meaning. -/
def tokens : (fuel : Nat) → List Char → List Token
  | 0, _ | _, [] => []
  | fuel + 1, c :: cs =>
    if c = ' ' || c = '\t' || c = '\n' then tokens fuel cs
    else if Words.isName c && !c.isDigit then
      .name (String.ofList (c :: cs.takeWhile Words.isName)) ::
        tokens fuel (cs.dropWhile Words.isName)
    else
      match number? (c :: cs) with
      | some (n, rest) => .number (min n greatest) :: tokens fuel rest
      | none =>
        let operator := (operators.find? fun s => s.toList.isPrefixOf (c :: cs)).getD (String.singleton c)
        .operator operator :: tokens fuel ((c :: cs).drop operator.length)

/-- How strongly an operator between two expressions binds; 0 for another one. -/
def strength (operator : String) : Nat :=
  if operator = "||" then 1
  else if operator = "&&" then 2
  else if operator = "|" then 3
  else if operator = "^" then 4
  else if operator = "&" then 5
  else if operator ∈ ["==", "!="] then 6
  else if operator ∈ ["<", "<=", ">", ">="] then 7
  else if operator ∈ ["<<", ">>"] then 8
  else if operator ∈ ["+", "-"] then 9
  else if operator ∈ ["*", "/", "%"] then 10
  else 0

/-- The operator of an assignment, `=` for a plain one. -/
def assignment? (operator : String) : Option String :=
  if operator = "=" then some "="
  else if operator ∈ ["<<=", ">>=", "+=", "-=", "*=", "/=", "%=", "&=", "^=", "|="] then
    some (String.ofList operator.toList.dropLast)
  else none

/-- Something read from the front of some tokens, and the tokens left. -/
abbrev Front := Except Fault (Expr × List Token)

mutual

/-- An assignment or a conditional expression. -/
def expression : (fuel : Nat) → List Token → Front
  | 0, _ => throw .noPrimary
  | fuel + 1, ts =>
    let otherwise : Front := do
      let (test, rest) ← operation fuel 1 ts
      match rest with
      | .operator "?" :: rest =>
        let (yes, rest) ← expression fuel rest
        match rest with
        | .operator ":" :: rest =>
          let (no, rest) ← expression fuel rest
          return (.conditional test yes no, rest)
        | _ => throw .noColon
      | _ => return (test, rest)
    match ts with
    | .name x :: .operator s :: rest =>
      match assignment? s with
      | some operator => (expression fuel rest).map fun (e, rest) => (.assign x operator e, rest)
      | none => otherwise
    | _ => otherwise

/-- Operators that bind at least so strongly. -/
def operation : (fuel : Nat) → (least : Nat) → List Token → Front
  | 0, _, _ => throw .noPrimary
  | fuel + 1, least, ts => do
    let (first, rest) ← operand fuel ts
    operationRest fuel least first rest

/-- More operators after a first operand. -/
def operationRest : (fuel : Nat) → (least : Nat) → Expr → List Token → Front
  | 0, _, _, _ => throw .noPrimary
  | fuel + 1, least, first, ts =>
    match ts with
    | .operator s :: rest =>
      if strength s = 0 || strength s < least then return (first, ts)
      else do
        let (second, rest) ← operation fuel (strength s + 1) rest
        operationRest fuel least (.binary s first second) rest
    | _ => return (first, ts)

/-- An operand with the operators before it. -/
def operand : (fuel : Nat) → List Token → Front
  | 0, _ => throw .noPrimary
  | fuel + 1, ts =>
    match ts with
    | .number n :: rest => return (.number n, rest)
    | .name x :: rest => return (.variable x, rest)
    | .operator s :: rest =>
      if s = "(" then do
        let (e, rest) ← expression fuel rest
        match rest with
        | .operator ")" :: rest => return (e, rest)
        | _ => throw .noPrimary
      else if s ∈ ["+", "-", "!", "~"] then
        (operand fuel rest).map fun (e, rest) => (.unary s e, rest)
      else throw .noPrimary
    | [] => throw .noPrimary

end

/-- The number of a truth value. -/
def ofBool (b : Bool) : Int :=
  if b then 1 else 0

/-- A power of two that shifts by the last six bits of a number. -/
def shiftFactor (n : Int) : Int :=
  (Nat.pow 2 (n % 64).toNat : Nat)

/-- The value of an operator between two numbers. -/
def combine (operator : String) (a b : Int) : Except Fault Int :=
  let bits (f : UInt64 → UInt64 → UInt64) : Except Fault Int :=
    return (wrapped (f (UInt64.ofInt a) (UInt64.ofInt b)).toNat)
  let isQuotient := operator = "/" || operator = "%"
  if isQuotient && b = 0 then throw .division
  else if isQuotient && a < -greatest && b = -1 then throw .overflow
  else if operator = "+" then return (wrapped (a + b))
  else if operator = "-" then return (wrapped (a - b))
  else if operator = "*" then return (wrapped (a * b))
  else if operator = "/" then return (wrapped (a.tdiv b))
  else if operator = "%" then return (a.tmod b)
  else if operator = "==" then return (ofBool (a = b))
  else if operator = "!=" then return (ofBool (a ≠ b))
  else if operator = "<" then return (ofBool (a < b))
  else if operator = "<=" then return (ofBool (a ≤ b))
  else if operator = ">" then return (ofBool (b < a))
  else if operator = ">=" then return (ofBool (b ≤ a))
  else if operator = "<<" then return (wrapped (a * shiftFactor b))
  else if operator = ">>" then return (a.fdiv (shiftFactor b))
  else if operator = "&" then bits (· &&& ·)
  else if operator = "|" then bits (· ||| ·)
  else if operator = "^" then bits (· ^^^ ·)
  else return b

/-- The number in a variable, none if it holds something else. -/
def numberIn? (value : String) : Option Int :=
  let cs := (Text.trim value).toList
  let (negative, digits) : Bool × List Char :=
    match cs with
    | '-' :: rest => (true, rest)
    | '+' :: rest => (false, rest)
    | _ => (false, cs)
  if cs.isEmpty then some 0
  else
    match number? digits with
    | some (n, []) => some (if negative then -n else n) |>.filter fun n => wrapped n = n
    | _ => none

/-- The variables that an expression has assigned, last one first. -/
abbrev Assigned := List (String × Int)

/-- The number in a variable, as an expression last assigned it or as `lookup` gives it. -/
def numberOf (lookup : String → String) (assigned : Assigned) (x : String) : Except Fault Int :=
  match assigned.find? (·.1 = x), numberIn? (lookup x) with
  | some (_, n), _ | none, some n => .ok n
  | none, none => .error (.noNumber (lookup x))

/-- The value of an expression, given the values of variables. -/
def evaluate (lookup : String → String) (assigned : Assigned) : Expr → Except Fault (Int × Assigned)
  | .number n => .ok (wrapped n, assigned)
  | .variable x => (numberOf lookup assigned x).map fun n => (n, assigned)
  | .unary operator e => do
    let (n, assigned) ← evaluate lookup assigned e
    let value :=
      if operator = "-" then wrapped (-n)
      else if operator = "!" then ofBool (n = 0)
      else if operator = "~" then -n - 1
      else n
    return (value, assigned)
  | .binary operator a b => do
    let (x, assigned) ← evaluate lookup assigned a
    if operator = "&&" && x = 0 then return (0, assigned)
    if operator = "||" && x ≠ 0 then return (1, assigned)
    let (y, assigned) ← evaluate lookup assigned b
    if operator = "&&" || operator = "||" then return (ofBool (y ≠ 0), assigned)
    return (← combine operator x y, assigned)
  | .conditional test yes no => do
    let (t, assigned) ← evaluate lookup assigned test
    if t ≠ 0 then evaluate lookup assigned yes else evaluate lookup assigned no
  | .assign x operator e => do
    let (n, assigned) ← evaluate lookup assigned e
    let old ← if operator = "=" then .ok 0 else numberOf lookup assigned x
    let value ← combine operator old n
    return (value, (x, value) :: assigned)

/-- The value of an expression and the variables that it assigns, given the values of variables. -/
def value (lookup : String → String) (source : String) : Except Fault (Int × Assigned) := do
  let ts := tokens (source.length + 1) source.toList
  let (e, rest) ← expression (4 * ts.length + 4) ts
  if rest.isEmpty then evaluate lookup [] e else throw .noEnd

/-- What is said of a fault in an expression; nothing if the shell is ended. -/
def Fault.message (source : String) : Fault → Option String
  | noNumber value => some s!"Illegal number: {value}"
  | overflow => none
  | fault =>
    let reason :=
      match fault with
      | noPrimary => "expecting primary"
      | noEnd => "expecting EOF"
      | noColon => "expecting ':'"
      | _ => "division by zero"
    some ("arithmetic expression: " ++ reason ++ ": \"" ++ source ++ "\"")

end TextRepair.Shell.Arithmetic
