import TextRepair.Main.Shell.Pattern
import TextRepair.Text.CharClass

/-!
# Reading line patterns

Patterns are written as regular expressions, basic or extended. The two differ in which characters need
a backslash for their special meaning, and in what an operator means that has nothing to stand after.

* `Bracket.read` : a set of characters in brackets.
* `Expression.read` : the pattern of an expression.
* `Expression.remarks` : what is odd about an expression that can be read.
-/

namespace TextRepair.Shell

/-- Why an expression cannot be read. -/
inductive ExpressionError where
  | emptyBracket
  | openBracket
  | unknownClass
  | unknownCollation
  | badRange
  | trailingBackslash
  | backReference
  | openGroup
  | closedGroup
  | openCount
  | badCount
  | tooBig
  /-- The same with nothing in front of the count. -/
  | tooBigAtStart
  | bareClass
  deriving DecidableEq, Repr

/-- The text for a user. -/
def ExpressionError.message : ExpressionError → String
  | emptyBracket => "Invalid regular expression"
  | openBracket => "Unmatched [, [^, [:, [., or [="
  | unknownClass => "Invalid character class name"
  | unknownCollation => "Invalid collation character"
  | badRange => "Invalid range end"
  | trailingBackslash => "Trailing backslash"
  | backReference => "Invalid back reference"
  | openGroup => "Unmatched ( or \\("
  | closedGroup => "Unmatched ) or \\)"
  | openCount => "Unmatched \\\x7b"
  | badCount => "Invalid content of \\\x7b\\\x7d"
  | tooBig => "Regular expression too big"
  | tooBigAtStart => "regular expression too big"
  | bareClass => "character class syntax is [[:space:]], not [:space:]"

/-- The ranges of a class of characters. -/
def classRanges? (name : String) : Option (List (Char × Char)) :=
  let classes : List (String × List (Char × Char)) :=
    [("alpha", [('a', 'z'), ('A', 'Z')]),
      ("digit", [('0', '9')]),
      ("alnum", [('a', 'z'), ('A', 'Z'), ('0', '9')]),
      ("upper", [('A', 'Z')]),
      ("lower", [('a', 'z')]),
      ("space", [(' ', ' '), ('\t', '\r')]),
      ("blank", [(' ', ' '), ('\t', '\t')]),
      ("punct", [('!', '/'), (':', '@'), ('[', Char.ofNat 0x60), ('\x7b', '~')]),
      ("print", [(' ', '~')]),
      ("graph", [('!', '~')]),
      ("cntrl", [('\x00', '\x1f'), ('\x7f', '\x7f')]),
      ("xdigit", [('0', '9'), ('a', 'f'), ('A', 'F')])]
  (classes.find? (·.1 = name)).map Prod.snd

/-! ## Brackets -/

namespace Bracket

/-- An entry of a set. -/
inductive Entry where
  | char (c : Char)
  /-- A character that is named, which can start a range. -/
  | named (c : Char)
  | ranges (rs : List (Char × Char))

/-- What stands between a mark after a bracket and the same mark before a bracket, and what follows. -/
def name? (mark : Char) : List Char → Option (List Char × List Char)
  | c :: ']' :: rest =>
    if c = mark then some ([], rest)
    else (name? mark (']' :: rest)).map fun (name, rest) => (c :: name, rest)
  | c :: rest => (name? mark rest).map fun (name, rest) => (c :: name, rest)
  | [] => none

/-- An entry at the start of a text that is not empty. A hyphen has to come first or last, or after
another hyphen that makes it the end of a range. -/
def entry (acceptsHyphen : Bool) (cs : List Char) : Except ExpressionError (Entry × List Char) :=
  match cs with
  | '[' :: ':' :: rest => do
    let some (name, rest) := name? ':' rest | throw .openBracket
    let some rs := classRanges? (String.ofList name) | throw .unknownClass
    return (.ranges rs, rest)
  | '[' :: '=' :: rest => do
    let some (name, rest) := name? '=' rest | throw .openBracket
    let [c] := name | throw .unknownCollation
    return (.ranges [(c, c)], rest)
  | '[' :: '.' :: rest => do
    let some (name, rest) := name? '.' rest | throw .openBracket
    let [c] := name | throw .unknownCollation
    return (.named c, rest)
  | '-' :: rest =>
    if acceptsHyphen || rest.head? = some ']' then return (.char '-', rest) else throw .badRange
  | c :: rest => return (.char c, rest)
  | [] => throw .openBracket

/-- The range between two entries. -/
def range (low high : Entry) : Except ExpressionError (Char × Char) :=
  let char? : Entry → Option Char
    | .char c | .named c => some c
    | .ranges _ => none
  match char? low, char? high with
  | some lo, some hi => if lo ≤ hi then .ok (lo, hi) else .error .badRange
  | _, _ => .error .badRange

/-- The entries of a set up to its closing bracket, and what follows. -/
def entries : (fuel : Nat) → (isFirst : Bool) → List Char →
    Except ExpressionError (List (Char × Char) × List Char)
  | 0, _, _ => .error .openBracket
  | fuel + 1, isFirst, cs => do
    let (low, rest) ← entry isFirst cs
    let isRange :=
      match low, rest with
      | .ranges _, _ => false
      | _, '-' :: c :: _ => c ≠ ']'
      | _, _ => false
    let (rs, rest) ←
      if isRange then do
        let (high, rest) ← entry true (rest.drop 1)
        pure ([← range low high], rest)
      else
        pure (match low with
          | .char c | .named c => [(c, c)]
          | .ranges rs => rs, rest)
    match rest with
    | [] | ['-'] => throw .openBracket
    | ']' :: rest => return (rs, rest)
    | _ => do
      let (more, rest) ← entries fuel false rest
      return (rs ++ more, rest)

/-- A set after its opening bracket, and what follows it. A closing bracket that comes first is an
entry. -/
def read (folded : Bool) (cs : List Char) : Except ExpressionError (CharSet × List Char) := do
  let negated := cs.head? = some '^'
  let cs := if negated then cs.drop 1 else cs
  if cs.isEmpty then throw .emptyBracket
  let (rs, rest) ← entries (cs.length + 1) true cs
  return (⟨!negated, rs, folded⟩, rest)

/-- Whether a set after its opening bracket is written like a class that lacks its outer brackets. -/
def isBareClass (cs : List Char) : Bool :=
  match cs with
  | ':' :: rest =>
    let inner := rest.takeWhile (· ≠ ']')
    inner.length < rest.length && inner.getLast? = some ':' && inner.any (· ≠ ':') &&
      inner.all (fun c => c ≠ '[' && c ≠ '-')
  | _ => false

end Bracket

/-! ## Expressions -/

namespace Expression

/-- A way of writing expressions. -/
structure Dialect where
  /-- Operators need no backslash. -/
  extended : Bool
  /-- Small letters and capitals are the same. -/
  folded : Bool

/-- A token of an expression. -/
inductive Token where
  | char (c : Char)
  | set (s : CharSet)
  | edge (e : Edge)
  | same (n : Nat)
  | bracket
  | opening
  | closing
  | bar
  | star
  | plus
  | question
  | openCount
  | closeCount
  | trailingBackslash
  | finish
  deriving DecidableEq, Repr

/-- The token that a character stands for with a backslash in every dialect. -/
def escaped? (d : Dialect) (c : Char) : Option Token :=
  let word : List (Char × Char) := [('a', 'z'), ('A', 'Z'), ('0', '9'), ('_', '_')]
  let space : List (Char × Char) := [(' ', ' '), ('\t', '\r')]
  if c = '<' then some (.edge .wordStart)
  else if c = '>' then some (.edge .wordStop)
  else if c = 'b' then some (.edge .wordEdge)
  else if c = 'B' then some (.edge .noWordEdge)
  else if c = Char.ofNat 0x60 then some (.edge .lineStart)
  else if c = Char.ofNat 39 then some (.edge .lineStop)
  else if c = 'w' then some (.set ⟨true, word, d.folded⟩)
  else if c = 'W' then some (.set ⟨false, word, d.folded⟩)
  else if c = 's' then some (.set ⟨true, space, d.folded⟩)
  else if c = 'S' then some (.set ⟨false, space, d.folded⟩)
  else if '1' ≤ c ∧ c ≤ '9' then some (.same (c.toNat - '0'.toNat))
  else none

/-- The operator that a character stands for, plain in extended expressions and with a backslash in
basic ones. -/
def operator? : Char → Option Token
  | '+' => some .plus
  | '?' => some .question
  | '|' => some .bar
  | '(' => some .opening
  | ')' => some .closing
  | '\x7b' => some .openCount
  | '\x7d' => some .closeCount
  | _ => none

/-- Whether a dollar sign in a basic expression stands for the end of the line, by what follows it. -/
def endsPart : List Char → Bool
  | [] => true
  | '\\' :: c :: _ => c = ')' || c = '|'
  | _ => false

/-- The next token and what follows it. With `opens` an alternative can start here. -/
def next (d : Dialect) (opens : Bool) : List Char → Token × List Char
  | [] => (.finish, [])
  | ['\\'] => (.trailingBackslash, [])
  | '\\' :: c :: rest =>
    let token :=
      match escaped? d c, operator? c with
      | some token, _ => token
      | none, some token => if d.extended then .char c else token
      | none, none => .char c
    (token, rest)
  | '*' :: rest => (.star, rest)
  | '[' :: rest => (.bracket, rest)
  | '.' :: rest => (.set ⟨false, [], d.folded⟩, rest)
  | '^' :: rest => (if d.extended || opens then .edge .lineStart else .char '^', rest)
  | '$' :: rest => (if d.extended || endsPart rest then .edge .lineStop else .char '$', rest)
  | c :: rest =>
    match operator? c with
    | some token => (if d.extended then token else .char c, rest)
    | none => (.char c, rest)

/-- An expression that has been read in part: the next token, what follows it, the groups opened so far
and those that are closed. -/
structure Cursor where
  token : Token
  rest : List Char
  opened : Nat
  closed : List Nat

/-- A cursor at the next token. -/
def Cursor.advance (k : Cursor) (d : Dialect) (opens : Bool) : Cursor :=
  let (token, rest) := next d opens k.rest
  { k with token, rest }

/-- The greatest count. -/
def greatestCount : Nat := 32767

/-- What the numbers between the braces of a count come to. -/
inductive Count where
  | between (least : Nat) (most : Option Nat) (after : Cursor)
  /-- There are no such numbers. -/
  | unreadable (error : ExpressionError)
  | bad (error : ExpressionError)

/-- A number in a count, if there is one, and the cursor at what follows it. An unreadable number goes on
up to the next comma or brace. -/
def number (d : Dialect) : (fuel : Nat) → (value : Option Nat) → (isReadable : Bool) → Cursor →
    Option Nat × Bool × Cursor
  | 0, value, isReadable, k => (value, isReadable, k)
  | fuel + 1, value, isReadable, k =>
    let k := k.advance d false
    match k.token with
    | .finish => (value, false, k)
    | .closeCount | .char ',' => (value, isReadable, k)
    | .char c =>
      if c.isDigit then
        let digit := c.toNat - '0'.toNat
        number d fuel (some (min (greatestCount + 1) (10 * value.getD 0 + digit))) isReadable k
      else number d fuel value false k
    | _ => number d fuel value false k

/-- A count at its opening brace. -/
def count (d : Dialect) (k : Cursor) : Count :=
  let fuel := k.rest.length + 1
  let (least, isReadable, first) := number d fuel none true k
  let isComma := first.token = .char ','
  if least.isNone && isReadable && !isComma then .bad .badCount
  else
    let (most, isReadable, last) : Option Nat × Bool × Cursor :=
      if !isReadable || !isComma then (least, isReadable, first) else number d fuel none true first
    if !isReadable then
      .unreadable (if last.token = .finish then .openCount else .badCount)
    else if most.any (· < least.getD 0) || last.token ≠ .closeCount then .bad .badCount
    else if greatestCount < most.getD (least.getD 0) then .bad .tooBig
    else .between (least.getD 0) most last

/-- The operators after a part, from left to right. -/
def repetitions (d : Dialect) : (fuel : Nat) → Pattern → Cursor → Except ExpressionError (Pattern × Cursor)
  | 0, p, k => .ok (p, k)
  | fuel + 1, p, k =>
    match k.token with
    | .star => repetitions d fuel (.times p 0 none) (k.advance d false)
    | .plus => repetitions d fuel (.times p 1 none) (k.advance d false)
    | .question => repetitions d fuel (.times p 0 (some 1)) (k.advance d false)
    | .openCount =>
      match count d k with
      | .between least most after => repetitions d fuel (.times p least most) (after.advance d false)
      | .bad e => .error e
      | .unreadable e => if d.extended then .ok (p, { k with token := .char '\x7b' }) else .error e
    | _ => .ok (p, k)

mutual

/-- Alternatives up to the end of the group, or of the expression outside of groups. One cannot repeat
what a group in another one has matched. -/
def alternatives (d : Dialect) : (fuel : Nat) → (isInner : Bool) → Cursor →
    Except ExpressionError (Pattern × Cursor)
  | 0, _, k => .ok (.never, k)
  | fuel + 1, isInner, k => do
    let (p, after) ← sequence d fuel isInner k
    if after.token = .bar then
      let (q, last) ← alternatives d fuel isInner ({ after with closed := k.closed }.advance d true)
      return (.alt p q, { last with closed := after.closed ++ last.closed })
    else return (p, after)

/-- Parts in a row. -/
def sequence (d : Dialect) : (fuel : Nat) → (isInner : Bool) → Cursor →
    Except ExpressionError (Pattern × Cursor)
  | 0, _, k => .ok (.never, k)
  | fuel + 1, isInner, k => do
    if k.token = .finish || k.token = .bar || (isInner && k.token = .closing) then return (.empty, k)
    else
      let (p, k) ← part d fuel k
      let (q, k) ← sequence d fuel isInner k
      return (.seq p q, k)

/-- One part with its operators. An operator that has nothing to stand after stands for itself in basic
expressions and for nothing in extended ones; there a parenthesis that follows it closes nothing. -/
def part (d : Dialect) : (fuel : Nat) → Cursor → Except ExpressionError (Pattern × Cursor)
  | 0, k => .ok (.never, k)
  | fuel + 1, k => do
    let followed (p : Pattern) (k : Cursor) : Except ExpressionError (Pattern × Cursor) :=
      repetitions d (k.rest.length + 1) p (k.advance d false)
    let operator (c : Char) : Except ExpressionError (Pattern × Cursor) :=
      let after := k.advance d false
      if !d.extended then followed (.char d.folded c) k
      else if after.token = .closing then followed (.char d.folded ')') after
      else return (.empty, after)
    match k.token with
    | .char c => followed (.char d.folded c) k
    | .set s => followed (.one s) k
    | .edge e => if d.extended then followed (.edge e) k else return (.edge e, k.advance d false)
    | .same n => if n ∈ k.closed then followed (.same n d.folded) k else throw .backReference
    | .bracket =>
      let (set, rest) ← Bracket.read d.folded k.rest
      followed (.one set) { k with rest }
    | .opening =>
      let n := k.opened + 1
      let (p, k) ← alternatives d fuel true ({ k with opened := n }.advance d true)
      if k.token ≠ .closing then throw .openGroup
      followed (.group n p) { k with closed := n :: k.closed }
    | .closing => if d.extended then followed (.char d.folded ')') k else throw .closedGroup
    | .star => operator '*'
    | .plus => operator '+'
    | .question => operator '?'
    | .openCount =>
      match if d.extended then count d k else .unreadable .badCount with
      | .between _ _ after => return (.empty, after.advance d false)
      | .bad .tooBig => throw .tooBigAtStart
      | _ => followed (.char d.folded '\x7b') k
    | .closeCount => followed (.char d.folded '\x7d') k
    | .trailingBackslash => throw .trailingBackslash
    | .bar | .finish => return (.empty, k)

end

/-- The pattern of an expression. -/
def read (d : Dialect) (cs : List Char) : Except ExpressionError Pattern := do
  let start : Cursor := ⟨.finish, cs, 0, []⟩
  let (p, _) ← alternatives d (3 * cs.length + 3) false (start.advance d true)
  return p.simplified

/-- Whether a class stands in an expression without its outer brackets. -/
def hasBareClass (d : Dialect) : (fuel : Nat) → List Char → Bool
  | 0, _ => false
  | fuel + 1, cs =>
    match next d false cs with
    | (.finish, _) => false
    | (.bracket, rest) =>
      Bracket.isBareClass rest ||
        match Bracket.read d.folded rest with
        | .ok (_, rest) => hasBareClass d fuel rest
        | .error _ => false
    | (_, rest) => hasBareClass d fuel rest

/-- The operators of an extended expression that have nothing to stand after. -/
def strays (d : Dialect) : (fuel : Nat) → (opens : Bool) → List Char → List String
  | 0, _, _ => []
  | fuel + 1, opens, cs =>
    let go (opens : Bool) (rest : List Char) : List String := strays d fuel opens rest
    let stray (shown : String) (rest : List Char) : List String :=
      if opens then shown :: go true rest else go false rest
    match next d false cs with
    | (.finish, _) => []
    | (.bracket, rest) =>
      match Bracket.read d.folded rest with
      | .ok (_, rest) => go false rest
      | .error _ => []
    | (.star, rest) => stray "*" rest
    | (.plus, rest) => stray "+" rest
    | (.question, rest) => stray "?" rest
    | (.openCount, rest) =>
      match count d ⟨.openCount, rest, 0, []⟩ with
      | .between _ _ after =>
        if opens then "\x7b...\x7d" :: go false after.rest else go false after.rest
      | .bad .tooBig => if opens then ["\x7b...\x7d"] else []
      | _ => go false rest
    | (.opening, rest) | (.bar, rest) => go true rest
    | (.edge _, rest) => go opens rest
    | (_, rest) => go false rest

/-- What is odd about an expression that can be read. -/
def remarks (d : Dialect) (cs : List Char) : List String :=
  if d.extended then
    (strays d (cs.length + 1) true cs).map fun shown => s!"warning: {shown} at start of expression"
  else []

end Expression

end TextRepair.Shell
