import TextRepair.Text.CharClass

/-!
# Strings in TOML texts

The four kinds of strings: basic ones between double quotes, with escapes, and literal ones between
single quotes, both on one line or on several. Each function takes what follows the opening quotes and
gives the content and what follows the closing ones. Line ends in a string become line feeds.
-/

namespace TextRepair.Toml.Quoted

/-- A single quote. -/
def apostrophe : Char := Char.ofNat 39

/-- Blanks within a line. -/
def isSpace (c : Char) : Bool :=
  c = ' ' || c = '\t'

/-- Whether a character may stand in a text: controls may not, tabs may. -/
def isAllowed (c : Char) : Bool :=
  c = '\t' || (32 ≤ c.toNat && c.toNat ≠ 127)

/-- The character with the given hexadecimal digits. -/
def codePoint? (digits : List Char) : Option Char :=
  let value (c : Char) : Option Nat :=
    if c.isDigit then some (c.toNat - '0'.toNat)
    else if 'a' ≤ c ∧ c ≤ 'f' then some (c.toNat - 'a'.toNat + 10)
    else if 'A' ≤ c ∧ c ≤ 'F' then some (c.toNat - 'A'.toNat + 10)
    else none
  (digits.mapM value).bind fun values =>
    let n := values.foldl (fun n d => 16 * n + d) 0
    if n.isValidChar then some (Char.ofNat n) else none

/-- The character of a short escape. -/
def shortEscape? : Char → Option Char
  | 'b' => some '\x08'
  | 'f' => some '\x0c'
  | 'n' => some '\n'
  | 'r' => some '\r'
  | 't' => some '\t'
  | '"' => some '"'
  | '\\' => some '\\'
  | _ => none

/-- A content and what follows it. -/
abbrev Result := Option (List Char × List Char)

/-- A content with one more character in front. -/
def Result.cons (c : Char) (r : Result) : Result :=
  r.map fun (content, rest) => (c :: content, rest)

/-- The rest of a basic string on one line. -/
def basic : List Char → Result
  | [] => none
  | '"' :: rest => some ([], rest)
  | '\\' :: 'u' :: a :: b :: c :: d :: rest =>
    (codePoint? [a, b, c, d]).bind fun x => Result.cons x (basic rest)
  | '\\' :: 'U' :: a :: b :: c :: d :: e :: f :: g :: h :: rest =>
    (codePoint? [a, b, c, d, e, f, g, h]).bind fun x => Result.cons x (basic rest)
  | '\\' :: c :: rest => (shortEscape? c).bind fun x => Result.cons x (basic rest)
  | c :: rest => if isAllowed c then Result.cons c (basic rest) else none

/-- The rest of a literal string on one line. -/
def literal : List Char → Result
  | [] => none
  | c :: rest =>
    if c = apostrophe then some ([], rest)
    else if isAllowed c then Result.cons c (literal rest)
    else none

/-- Whether the line ends after some blanks. -/
def endsLine (cs : List Char) : Bool :=
  match cs.dropWhile isSpace with
  | '\n' :: _ | '\r' :: '\n' :: _ => true
  | _ => false

/-- The rest of a basic string on several lines. A backslash at the end of a line takes away the line
end with all blanks and line ends that follow, which are being skipped if `skips`. Up to two quotes
before the closing ones belong to the content. -/
def basicLines (skips : Bool) : List Char → Result
  | [] => none
  | '\n' :: rest => if skips then basicLines true rest else Result.cons '\n' (basicLines false rest)
  | '\r' :: '\n' :: rest =>
    if skips then basicLines true rest else Result.cons '\n' (basicLines false rest)
  | '"' :: '"' :: '"' :: '"' :: '"' :: rest => some (['"', '"'], rest)
  | '"' :: '"' :: '"' :: '"' :: rest => some (['"'], rest)
  | '"' :: '"' :: '"' :: rest => some ([], rest)
  | '\\' :: 'u' :: a :: b :: c :: d :: rest =>
    (codePoint? [a, b, c, d]).bind fun x => Result.cons x (basicLines false rest)
  | '\\' :: 'U' :: a :: b :: c :: d :: e :: f :: g :: h :: rest =>
    (codePoint? [a, b, c, d, e, f, g, h]).bind fun x => Result.cons x (basicLines false rest)
  | '\\' :: c :: rest =>
    if endsLine (c :: rest) then basicLines true (c :: rest)
    else (shortEscape? c).bind fun x => Result.cons x (basicLines false rest)
  | c :: rest =>
    if skips && isSpace c then basicLines true rest
    else if isAllowed c then Result.cons c (basicLines false rest)
    else none

/-- The number of single quotes at the start. -/
def apostrophes (cs : List Char) : Nat :=
  (cs.takeWhile (· = apostrophe)).length

/-- The rest of a literal string on several lines. Up to two quotes before the closing ones belong to
the content. -/
def literalLines : List Char → Result
  | [] => none
  | '\r' :: '\n' :: rest => Result.cons '\n' (literalLines rest)
  | c :: rest =>
    let quotes := apostrophes (c :: rest)
    if 3 ≤ quotes then
      let kept := min 2 (quotes - 3)
      some (List.replicate kept apostrophe, rest.drop (kept + 2))
    else if c = '\n' || isAllowed c then Result.cons c (literalLines rest)
    else none

/-- A text without a line end in front. -/
def skipLineEnd : List Char → List Char
  | '\n' :: rest | '\r' :: '\n' :: rest => rest
  | cs => cs

/-- A string of any kind from its opening quotes on. -/
def any? (cs : List Char) : Result :=
  match cs with
  | '"' :: '"' :: '"' :: rest => basicLines false (skipLineEnd rest)
  | '"' :: rest => basic rest
  | c :: rest =>
    if 3 ≤ apostrophes cs then literalLines (skipLineEnd (cs.drop 3))
    else if c = apostrophe then literal rest
    else none
  | [] => none

/-- A string on one line from its opening quote on. -/
def single? (cs : List Char) : Result :=
  match cs with
  | '"' :: rest => basic rest
  | c :: rest => if c = apostrophe then literal rest else none
  | [] => none

end TextRepair.Toml.Quoted
