import TextRepair.Json.Number

/-!
# Reading JSON texts

Two machines, each taking one step per item: the first cuts characters into tokens, the second puts
tokens together on a stack of open lists and objects, so nesting has no limit. A string whose escapes
leave half of a surrogate pair alone is well-formed but unreadable, and so is an object with such a
field name.
-/

namespace TextRepair.Json

/-- A token. A string is none if it is unreadable. -/
inductive Token where
  | openObject
  | closeObject
  | openList
  | closeList
  | comma
  | colon
  | string (s : Option String)
  | scalar (j : Json)

/-- A part of a string: a character, or a UTF-16 unit given by an escape. -/
inductive Piece where
  | char (c : Char)
  | unit (n : Nat)

namespace Piece

/-- The text of the parts, unless half of a surrogate pair stands alone. -/
def decode? : List Piece → Option (List Char)
  | [] => some []
  | .char c :: rest => (decode? rest).map (c :: ·)
  | .unit n :: rest =>
    if n < 0xD800 ∨ 0xE000 ≤ n then (decode? rest).map (Char.ofNat n :: ·)
    else
      match rest with
      | .unit m :: rest =>
        if n < 0xDC00 ∧ 0xDC00 ≤ m ∧ m < 0xE000 then
          (decode? rest).map (Char.ofNat (0x10000 + (n - 0xD800) * 0x400 + (m - 0xDC00)) :: ·)
        else none
      | _ => none

end Piece

/-- Where the first machine stands. -/
inductive Lexer where
  /-- Outside strings, with the reversed start of a word. -/
  | outside (word : List Char)
  /-- In a string, with its reversed parts. -/
  | inside (pieces : List Piece)
  /-- After a backslash. -/
  | escape (pieces : List Piece)
  /-- In the digits of a unit, of which `left` are missing. -/
  | digits (pieces : List Piece) (left value : Nat)

namespace Lexer

/-- The value of a hexadecimal digit. -/
def hexValue? (c : Char) : Option Nat :=
  if c.isDigit then some (c.toNat - '0'.toNat)
  else if 'a' ≤ c ∧ c ≤ 'f' then some (c.toNat - 'a'.toNat + 10)
  else if 'A' ≤ c ∧ c ≤ 'F' then some (c.toNat - 'A'.toNat + 10)
  else none

/-- The value of a word. -/
def wordValue? (word : List Char) : Option Json :=
  if word = "null".toList then some .null
  else if word = "true".toList then some (.bool true)
  else if word = "false".toList then some (.bool false)
  else (Literal.ofChars? word).map Literal.value

/-- The token of a word that has ended; nothing for no word. -/
def flush (word : List Char) : Option (List Token) :=
  if word.isEmpty then some [] else (wordValue? word.reverse).map fun j => [.scalar j]

/-- The token of a character that stands for itself. -/
def mark? : Char → Option Token
  | '\x7b' => some .openObject
  | '\x7d' => some .closeObject
  | '[' => some .openList
  | ']' => some .closeList
  | ',' => some .comma
  | ':' => some .colon
  | _ => none

/-- The character of a short escape. -/
def shortEscape? : Char → Option Char
  | '"' => some '"'
  | '\\' => some '\\'
  | '/' => some '/'
  | 'b' => some '\x08'
  | 'f' => some '\x0c'
  | 'n' => some '\n'
  | 'r' => some '\r'
  | 't' => some '\t'
  | _ => none

/-- The blanks between tokens. -/
def isSpace (c : Char) : Bool :=
  c = ' ' || c = '\n' || c = '\r' || c = '\t'

/-- One character: the next place and the tokens that it completes. -/
def step : Lexer → Char → Option (Lexer × List Token)
  | outside word, c =>
    if c = '"' then (flush word).map fun done => (inside [], done)
    else if isSpace c then (flush word).map fun done => (outside [], done)
    else
      match mark? c with
      | some token => (flush word).map fun done => (outside [], done ++ [token])
      | none => some (outside (c :: word), [])
  | inside pieces, c =>
    if c = '"' then
      some (outside [], [.string ((Piece.decode? pieces.reverse).map String.ofList)])
    else if c = '\\' then some (escape pieces, [])
    else if c.toNat < 32 then none
    else some (inside (.char c :: pieces), [])
  | escape pieces, c =>
    if c = 'u' then some (digits pieces 4 0, [])
    else (shortEscape? c).map fun c => (inside (.char c :: pieces), [])
  | digits pieces left value, c =>
    (hexValue? c).map fun digit =>
      let value := 16 * value + digit
      if left ≤ 1 then (inside (.unit value :: pieces), []) else (digits pieces (left - 1) value, [])

/-- The tokens of a text from a place on; none if a string is not closed or a word has no meaning. -/
def run (state : Lexer) (done : List Token) : List Char → Option (List Token)
  | [] =>
    match state with
    | outside word => (flush word).map fun last => done.reverse ++ last
    | _ => none
  | c :: cs =>
    match step state c with
    | some (next, tokens) => run next (tokens.reverse ++ done) cs
    | none => none

end Lexer

/-- A list or object that is still open, its entries last one first. -/
inductive Open where
  | list (items : List Json)
  | object (fields : List (Option String × Json))
  /-- An object after the name of a field. -/
  | field (fields : List (Option String × Json)) (name : Option String)

/-- What may come next. -/
inductive Expected where
  | value
  /-- A value, or the end of a list that has just been opened. -/
  | item
  /-- A field name, or the end of an object that has just been opened. -/
  | field
  | name
  | colon
  /-- A comma or the end of the innermost list or object. -/
  | separator
  | nothing

/-- Where the second machine stands. -/
structure Builder where
  stack : List Open
  expected : Expected
  result : Json

namespace Builder

/-- The object of reversed fields. -/
def closed (fields : List (Option String × Json)) : Json :=
  if fields.all fun field => field.1.isSome then
    .object (fields.reverse.map fun field => (field.1.getD "", field.2))
  else .unreadable

/-- A finished value takes its place. -/
def put (stack : List Open) (j : Json) : Builder :=
  match stack with
  | [] => ⟨[], .nothing, j⟩
  | .list items :: rest => ⟨.list (j :: items) :: rest, .separator, .null⟩
  | .field fields name :: rest => ⟨.object ((name, j) :: fields) :: rest, .separator, .null⟩
  | .object fields :: rest => ⟨.object fields :: rest, .separator, .null⟩

/-- A token where a value is expected. -/
def value? (stack : List Open) : Token → Option Builder
  | .scalar j => some (put stack j)
  | .string s => some (put stack (match s with | some s => .text s | none => .unreadable))
  | .openList => some ⟨.list [] :: stack, .item, .null⟩
  | .openObject => some ⟨.object [] :: stack, .field, .null⟩
  | _ => none

/-- The innermost list or object ends. -/
def close? (stack : List Open) : Token → Option Builder
  | .closeList =>
    match stack with
    | .list items :: rest => some (put rest (.list items.reverse))
    | _ => none
  | .closeObject =>
    match stack with
    | .object fields :: rest => some (put rest (closed fields))
    | _ => none
  | _ => none

/-- The name of a field. -/
def name? (stack : List Open) : Token → Option Builder
  | .string s =>
    match stack with
    | .object fields :: rest => some ⟨.field fields s :: rest, .colon, .null⟩
    | _ => none
  | _ => none

/-- One token. -/
def step (b : Builder) (token : Token) : Option Builder :=
  match b.expected with
  | .value => value? b.stack token
  | .item => (value? b.stack token) <|> (close? b.stack token)
  | .field => (name? b.stack token) <|> (close? b.stack token)
  | .name => name? b.stack token
  | .colon =>
    match token with
    | .colon => some { b with expected := .value }
    | _ => none
  | .separator =>
    match token, b.stack with
    | .comma, .list _ :: _ => some { b with expected := .value }
    | .comma, .object _ :: _ => some { b with expected := .name }
    | _, _ => close? b.stack token
  | .nothing => none

end Builder

/-- The value of a JSON text. -/
def read? (text : String) : Option Json := do
  let tokens ← Lexer.run (.outside []) [] text.toList
  let built ← tokens.foldlM Builder.step ⟨[], .value, .null⟩
  match built.expected with
  | .nothing => some built.result
  | _ => none

end TextRepair.Json
