import TextRepair.Main.Shell.Nesting
import TextRepair.Main.Shell.Syntax
import TextRepair.Text.CharClass

/-!
# Reading words

`pieces` reads the parts of a word.
-/

namespace TextRepair.Shell.Words

/-- Whether a text can be the name of a variable. -/
def isVariable (cs : List Char) : Bool :=
  match cs with
  | [] => false
  | c :: _ => !c.isDigit && cs.all isName

/-- A parameter with a name of one character that is no letter. -/
def isSpecial (c : Char) : Bool :=
  c.isDigit || c ∈ ['@', '*', '#', '?', '$', '!', '-']

/-- The adjustment that a text in braces asks for after the name, and the text of its word. -/
def adjustment? (cs : List Char) : Option (Adjustment × List Char) :=
  match cs with
  | ':' :: '-' :: word => some (.default true, word)
  | '-' :: word => some (.default false, word)
  | ':' :: '=' :: word => some (.assign true, word)
  | '=' :: word => some (.assign false, word)
  | ':' :: '?' :: word => some (.require true, word)
  | '?' :: word => some (.require false, word)
  | ':' :: '+' :: word => some (.alternative true, word)
  | '+' :: word => some (.alternative false, word)
  | '#' :: '#' :: word => some (.dropStart true, word)
  | '#' :: word => some (.dropStart false, word)
  | '%' :: '%' :: word => some (.dropEnd true, word)
  | '%' :: word => some (.dropEnd false, word)
  | _ => none

/-- Whether the word of an adjustment is a pattern, which quotes around the whole do not quote. -/
def isPattern : Adjustment → Bool
  | .dropStart _ | .dropEnd _ => true
  | _ => false

/-- The name at the start of a text in braces, and what follows. -/
def parameterName (cs : List Char) : List Char × List Char :=
  match cs with
  | c :: rest =>
    if c.isDigit then (cs.takeWhile Char.isDigit, cs.dropWhile Char.isDigit)
    else if isName c then (cs.takeWhile isName, cs.dropWhile isName)
    else if isSpecial c then ([c], rest)
    else ([], cs)
  | [] => ([], [])

/-- The source in back quotes, where a backslash quotes only some characters. -/
def unescapeBack : List Char → List Char
  | '\\' :: c :: cs =>
    if c = backQuote || c = '\\' || c = '$' then c :: unescapeBack cs
    else '\\' :: c :: unescapeBack cs
  | c :: cs => c :: unescapeBack cs
  | [] => []

/-- How a text is read. -/
inductive Style where
  | plain
  /-- In double quotes. -/
  | double
  /-- In the lines that a redirection takes. -/
  | document
  /-- As the word of an adjustment in one of these. -/
  | braces
  deriving DecidableEq, Repr

/-- Whether blanks and wildcards stand for themselves. -/
def Style.isQuoted (style : Style) : Bool :=
  style ≠ .plain

/-- The characters that a backslash quotes in a text that is quoted anyway. -/
def Style.special (style : Style) : List Char :=
  ['$', '\\', backQuote] ++ (if style = .document then [] else ['"']) ++
    if style = .braces then ['\x7d'] else []

/-- What a text that is quoted anyway holds after a backslash. -/
def Style.escaped (style : Style) (c : Char) : List Char :=
  if c = '\n' then [] else if style.special.contains c then [c] else ['\\', c]

/-- The parts of a text in double quotes, which make an empty text of nothing. All arguments alone can be
no field at all. -/
def quotedParts (parts : List Part) : List Part :=
  match parts with
  | [.parameter "@" none _] => parts
  | _ => .text [] true :: parts

/-- The parts of a word with the home directory in place of a tilde that stands alone before a slash or at
the end: at the start of the word and, in the value of a variable, after a colon. -/
def withHomes (isValue : Bool) : (isStart : Bool) → List Part → List Part
  | _, [] => []
  | isStart, part :: rest =>
    let isEnd : Bool :=
      match rest with
      | [] => true
      | .text [c] false :: _ => c = '/' || (isValue && c = ':')
      | _ => false
    match part with
    | .text ['~'] false =>
      (if isStart && isEnd then .home else part) :: withHomes isValue false rest
    | .text [':'] false => part :: withHomes isValue isValue rest
    | _ => part :: withHomes isValue false rest

/-- The number of lines that end in a text. -/
def lineEnds (cs : List Char) : Nat :=
  cs.count '\n'

mutual

/-- The parts of a text whose first line has number `line`. -/
def pieces : (fuel : Nat) → Style → (line : Nat) → List Char → Except String (List Part)
  | 0, _, _, _ => .ok [.unreadable]
  | _, _, _, [] => .ok []
  | fuel + 1, style, line, c :: cs =>
    let quoted := style.isQuoted
    let before (part : Part) (cut rest : List Char) : Except String (List Part) :=
      (pieces fuel style (line + lineEnds cut) rest).map (part :: ·)
    if c = quote && !quoted then
      let inner := cs.takeWhile (· ≠ quote)
      before (.text inner true) inner ((cs.dropWhile (· ≠ quote)).drop 1)
    else if c = '"' && !quoted then do
      let (inner, rest) ← inside .double 1 cs
      let parts ← pieces fuel .double line inner
      let others ← pieces fuel style (line + lineEnds inner) rest
      return quotedParts parts ++ others
    else if c = backQuote then do
      let (inner, rest) ← inside .back 1 cs
      before (.output (unescapeBack inner) .backQuotes quoted) inner rest
    else if c = '\\' then
      match cs with
      | [] => .ok [.text ['\\'] true]
      | d :: rest =>
        if quoted then before (.text (style.escaped d) true) [d] rest
        else if d = '\n' then pieces fuel style (line + 1) rest
        else before (.text [d] true) [d] rest
    else if c = '$' then dollar fuel style line cs
    else before (.text [c] quoted) [c] cs

/-- The parts of a text after a dollar sign. -/
def dollar : (fuel : Nat) → Style → (line : Nat) → List Char → Except String (List Part)
  | 0, _, _, _ => .ok [.unreadable]
  | fuel + 1, style, line, cs =>
    let quoted := style.isQuoted
    let before (part : Part) (cut rest : List Char) : Except String (List Part) :=
      (pieces fuel style (line + lineEnds cut) rest).map (part :: ·)
    match cs with
    | '(' :: '(' :: rest => do
      let (inner, rest) ← inside .arithmetic 2 rest
      before (.arithmetic (← pieces fuel .double line inner) quoted) inner rest
    | '(' :: rest => do
      let (inner, rest) ← inside .start 1 rest
      before (.output inner (.parentheses line) quoted) inner rest
    | '\x7b' :: rest => do
      let (inner, rest) ← inside (.braces quoted) 1 rest
      before (← braced fuel style line inner) inner rest
    | c :: rest =>
      if isSpecial c then before (.parameter (String.singleton c) none quoted) [] rest
      else if isName c then
        before (.parameter (String.ofList (cs.takeWhile isName)) none quoted) [] (cs.dropWhile isName)
      else before (.text ['$'] quoted) [] cs
    | [] => .ok [.text ['$'] quoted]

/-- A parameter in braces. -/
def braced : (fuel : Nat) → Style → (line : Nat) → List Char → Except String Part
  | 0, _, _, _ => .ok .unreadable
  | fuel + 1, style, line, cs =>
    let quoted := style.isQuoted
    match cs, parameterName (cs.drop 1) with
    | '#' :: _ :: _, (name, []) =>
      .ok (.parameter (String.ofList name) (some (.length, [])) quoted)
    | _, _ =>
      match parameterName cs with
      | ([], _) => .ok .unreadable
      | (name, []) => .ok (.parameter (String.ofList name) none quoted)
      | (name, rest) =>
        match adjustment? rest with
        | none => .ok .unreadable
        | some (adjustment, word) => do
          let parts ←
            if quoted && !isPattern adjustment then
              pieces fuel .braces line (withoutQuotes [] false word)
            else pieces fuel .plain line word
          let parts := if quoted then parts else withHomes (adjustment matches .assign _) true parts
          return .parameter (String.ofList name) (some (adjustment, parts)) quoted

end

/-- The parts of a whole text. -/
def ofStyle (style : Style) (line : Nat) (cs : List Char) : Except String (List Part) :=
  pieces (2 * cs.length + 2) style line cs

/-- The word that a text stands for. -/
def ofText (line : Nat) (cs : List Char) : Except String Word :=
  (ofStyle .plain line cs).map (withHomes false true)

/-- The value of a variable that a text stands for. -/
def ofValue (line : Nat) (cs : List Char) : Except String Word :=
  (ofStyle .plain line cs).map (withHomes true true)

/-- The word that the lines taken by a redirection stand for. -/
def ofDocument (line : Nat) (cs : List Char) : Except String Word :=
  ofStyle .document line cs

end TextRepair.Shell.Words
