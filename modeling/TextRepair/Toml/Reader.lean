import TextRepair.Toml.Quoted
import TextRepair.Toml.Scalar
import TextRepair.Toml.Table

/-!
# Reading TOML texts

`Toml.read?` gives the data value of a TOML text, an object, or nothing for a text against the
grammar. A key has fewer than eighty parts, and lists and inline tables are nested fewer than eighty
deep.
-/

namespace TextRepair.Toml

open Quoted (isSpace)

/-- One more than the number of parts of a key, and than the depth of lists and inline tables. -/
def limit : Nat := 80

/-- The characters after any blanks of the line. -/
def skipSpace (cs : List Char) : List Char :=
  cs.dropWhile isSpace

/-- The characters after the rest of a comment. -/
def skipComment (cs : List Char) : List Char :=
  cs.dropWhile Quoted.isAllowed

/-- The characters after blanks, comments and line ends; `inComment` after the start of a comment. -/
def skipLines (inComment : Bool) : List Char → List Char
  | [] => []
  | '\n' :: rest => skipLines false rest
  | '\r' :: '\n' :: rest => skipLines false rest
  | c :: rest =>
    if inComment then if Quoted.isAllowed c then skipLines true rest else c :: rest
    else if c = '#' then skipLines true rest
    else if isSpace c then skipLines false rest
    else c :: rest

/-- What follows the end of a line; nothing follows the last one. -/
def lineEnd? : List Char → Option (List Char)
  | [] => some []
  | '\n' :: rest => some rest
  | '\r' :: '\n' :: rest => some rest
  | _ => none

/-- What follows a line that has nothing more to say. -/
def endLine? (cs : List Char) : Option (List Char) :=
  match skipSpace cs with
  | '#' :: rest => lineEnd? (skipComment rest)
  | rest => lineEnd? rest

/-! ## Keys -/

/-- Whether a character may stand in a key without quotes. -/
def isKeyChar (c : Char) : Bool :=
  c.isAlphanum || c = '_' || c = '-'

/-- One part of a key. -/
def keyPart? (cs : List Char) : Option (String × List Char) :=
  match Quoted.single? cs with
  | some (name, rest) => some (String.ofList name, rest)
  | none =>
    let name := cs.takeWhile isKeyChar
    if name.isEmpty then none else some (String.ofList name, cs.dropWhile isKeyChar)

/-- The parts of a key, fewer than `bound`. -/
def keyParts? : (bound : Nat) → List Char → Option (List String × List Char)
  | 0, _ => none
  | bound + 1, cs => do
    let (name, rest) ← keyPart? (skipSpace cs)
    match skipSpace rest with
    | '.' :: rest =>
      let (names, rest) ← keyParts? bound rest
      return (name :: names, rest)
    | rest => return ([name], rest)

/-- A key: the path to its table, and the name in it. -/
def key? (cs : List Char) : Option (List String × String × List Char) :=
  (keyParts? (limit - 1) cs).bind fun (names, rest) =>
    names.getLast?.map fun name => (names.dropLast, name, rest)

/-! ## Values -/

/-- Whether a character ends a word. -/
def endsWord (c : Char) : Bool :=
  isSpace c || c = '\n' || c = '\r' || c = ',' || c = ']' || c = '\x7d' || c = '#'

/-- A word, and what follows it. -/
def word (cs : List Char) : List Char × List Char :=
  (cs.takeWhile fun c => !endsWord c, cs.dropWhile fun c => !endsWord c)

/-- The value of a word. A date may be followed by a blank and a time of day. -/
def wordValue? (cs : List Char) : Option (Json × List Char) :=
  let (first, rest) := word cs
  match Word.isDate first, rest with
  | true, ' ' :: after =>
    let (second, rest') := word after
    if second.isEmpty then some (Word.dateTime first, rest)
    else if Word.isZonedTime second then some (Word.dateTime (first ++ ' ' :: second), rest')
    else none
  | _, _ => (Word.value? first).map (·, rest)

mutual

/-- A value that stands in `depth` lists and inline tables. -/
def value? : (fuel : Nat) → (depth : Nat) → List Char → Option (Json × List Char)
  | 0, _, _ => none
  | fuel + 1, depth, cs =>
    match cs with
    | '[' :: rest =>
      if limit ≤ depth + 1 then none
      else (items? fuel (depth + 1) (skipLines false rest)).map fun (items, rest) =>
        (.list items, rest)
    | '\x7b' :: rest =>
      if limit ≤ depth + 1 then none
      else (fields? fuel (depth + 1) [] rest).map fun (entries, rest) =>
        (.object (fieldsOf entries), rest)
    | _ =>
      match Quoted.any? cs with
      | some (content, rest) => some (.text (String.ofList content), rest)
      | none => wordValue? cs

/-- The items of a list up to the closing bracket. The last one may be followed by a comma. -/
def items? : (fuel : Nat) → (depth : Nat) → List Char → Option (List Json × List Char)
  | 0, _, _ => none
  | _, _, ']' :: rest => some ([], rest)
  | fuel + 1, depth, cs => do
    let (item, rest) ← value? fuel depth cs
    match skipLines false rest with
    | ',' :: rest =>
      let (items, rest) ← items? fuel depth (skipLines false rest)
      return (item :: items, rest)
    | ']' :: rest => return ([item], rest)
    | _ => none

/-- The keys of an inline table up to the closing brace, added to `entries`. -/
def fields? : (fuel : Nat) → (depth : Nat) → Entries → List Char → Option (Entries × List Char)
  | 0, _, _, _ => none
  | fuel + 1, depth, entries, cs =>
    match skipSpace cs, entries with
    | '\x7d' :: rest, [] => some ([], rest)
    | _, _ => do
      let (path, name, rest) ← key? cs
      match rest with
      | '=' :: rest =>
        let (j, rest) ← value? fuel depth (skipSpace rest)
        let entries ← entries.define? path name j
        match skipSpace rest with
        | ',' :: rest => fields? fuel depth entries rest
        | '\x7d' :: rest => return (entries, rest)
        | _ => none
      | _ => none

end

/-! ## Lines -/

/-- A text that has been read in part. -/
structure Reading where
  entries : Entries
  /-- The path of the table that the last header has opened. -/
  header : List String

namespace Reading

/-- A line with a key and its value. -/
def define? (r : Reading) (cs : List Char) : Option (Reading × List Char) := do
  let (path, name, rest) ← key? cs
  match rest with
  | '=' :: rest =>
    let (j, rest) ← value? (rest.length + 1) 0 (skipSpace rest)
    let rest ← endLine? rest
    let entries ← r.entries.defineIn? r.header path name j
    return ({ r with entries }, rest)
  | _ => none

/-- A line with a header after its opening brackets. -/
def open? (r : Reading) (isElement : Bool) (cs : List Char) : Option (Reading × List Char) := do
  let (path, name, rest) ← key? cs
  let rest ← match isElement, rest with
    | true, ']' :: ']' :: rest => some rest
    | false, ']' :: rest => some rest
    | _, _ => none
  let rest ← endLine? rest
  let entries ← if isElement then r.entries.openElement? path name else r.entries.openTable? path name
  return ({ entries, header := path ++ [name] }, rest)

/-- A line of any kind. -/
def line? (r : Reading) (cs : List Char) : Option (Reading × List Char) :=
  match cs with
  | '[' :: '[' :: rest => r.open? true rest
  | '[' :: rest => r.open? false rest
  | _ =>
    match endLine? cs with
    | some rest => some (r, rest)
    | none => r.define? cs

/-- The lines of a text, at most `fuel`. -/
def lines? : (fuel : Nat) → Reading → List Char → Option Reading
  | 0, _, _ => none
  | fuel + 1, r, cs =>
    match skipSpace cs with
    | [] => some r
    | cs => (r.line? cs).bind fun (r, rest) => lines? fuel r rest

end Reading

/-- A text without the mark of its byte order. -/
def skipMark : List Char → List Char
  | c :: cs => if c.toNat = 0xFEFF then cs else c :: cs
  | [] => []

/-- The value of a TOML text. -/
def read? (text : String) : Option Json :=
  let cs := skipMark text.toList
  (Reading.lines? (cs.length + 1) ⟨[], []⟩ cs).map fun r => .object (fieldsOf r.entries)

end TextRepair.Toml
