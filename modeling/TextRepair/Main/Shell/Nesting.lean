/-!
# Nesting in commands

`extent` finds the end of a word, or of what is nested in one: quotes, braces, arithmetic, and commands whose
output is part of the word. `Scan` follows such commands just as far as it takes to tell the parenthesis
that ends them from those after the patterns of a choice, in comments and in texts on lines of their own.
-/

namespace TextRepair.Shell.Words

/-- A single quote. -/
def quote : Char := Char.ofNat 39

/-- A quote in the other direction. -/
def backQuote : Char := Char.ofNat 0x60

/-- Whether a character stands between words and for nothing else. -/
def isBlank (c : Char) : Bool :=
  c = ' ' || c = '\t'

/-- Whether a character ends a word. -/
def isBreak (c : Char) : Bool :=
  c ∈ [' ', '\t', '\n', ';', '&', '|', '<', '>', '(', ')']

/-- A character of a name. -/
def isName (c : Char) : Bool :=
  c.isAlphanum || c = '_'

/-- A text without its quotes. -/
def unquote : List Char → List Char
  | '\\' :: c :: cs => c :: unquote cs
  | c :: cs => if c = '"' || c = quote then unquote cs else c :: unquote cs
  | [] => []

/-! ## Commands -/

/-- The line that ends a text which commands take from the lines that follow. -/
structure Mark where
  /-- Whether tabs in front of it do not count. -/
  indented : Bool
  line : List Char
  deriving DecidableEq, Repr

/-- What has been read of commands in parentheses. -/
structure Scan where
  /-- The word under way, its last character first. -/
  word : List Char
  /-- Whether a command can start with that word. -/
  isFresh : Bool
  /-- The choices under way. -/
  choices : Nat
  /-- The signs for input right in front; after two of them the word under way is a mark. -/
  signs : Nat
  /-- The marks of the texts that start on the next line. -/
  marks : List Mark
  deriving DecidableEq, Repr

namespace Scan

/-- Nothing has been read. -/
def fresh : Scan :=
  ⟨[], true, 0, 0, []⟩

/-- The words after which a command can start. -/
def openers : List String :=
  ["if", "then", "else", "elif", "do", "while", "until", "!", "\x7b"]

/-- The word under way is a mark. -/
def withMark (s : Scan) : Scan :=
  let mark : Mark :=
    match s.word.reverse with
    | '-' :: line => ⟨true, unquote line⟩
    | line => ⟨false, unquote line⟩
  { s with word := [], signs := 0, marks := s.marks ++ [mark] }

/-- The word under way has ended. -/
def ended (s : Scan) : Scan :=
  if s.signs = 2 then s.withMark
  else if s.word.isEmpty then { s with signs := 0 }
  else
    let word := String.ofList s.word.reverse
    { s with
      word := [], signs := 0
      isFresh := (s.isFresh && openers.contains word) || (0 < s.choices && word = "in")
      choices :=
        if s.isFresh && word = "case" then s.choices + 1
        else if s.isFresh && word = "esac" then s.choices - 1
        else s.choices }

/-- A command can start. -/
def opened (s : Scan) : Scan :=
  { s with isFresh := true }

/-- One more character of the word under way. -/
def push (s : Scan) (c : Char) : Scan :=
  { s with word := c :: s.word, signs := if s.signs = 2 then 2 else 0 }

/-- Whether a character belongs to a mark, or to the blanks in front of it. -/
def isInMark (s : Scan) (c : Char) : Bool :=
  s.signs = 2 && (!isBreak c || (isBlank c && (s.word = [] || s.word = ['-'])))

end Scan

/-! ## Nests -/

/-- What a character can be nested in. -/
inductive Nest where
  | single
  | double
  | back
  /-- Right after a dollar sign and a parenthesis. -/
  | start
  | commands (s : Scan)
  | comment
  /-- Lines that commands take as a text: the marks of this text and of those after it, and the line under
  way, its last character first. -/
  | lines (marks : List Mark) (line : List Char)
  /-- Braces in which quotes count. -/
  | brace
  /-- The name at the start of braces in double quotes. -/
  | name (isEmpty : Bool)
  /-- The rest of such braces, where double quotes go on and off. -/
  | quotedBrace (isQuoted : Bool)
  /-- An arithmetic expression, which two parentheses end. -/
  | arithmetic
  /-- The same, after what may be the first of them. -/
  | arithmeticEnd
  /-- Parentheses in an arithmetic expression. -/
  | factor
  deriving DecidableEq, Repr

/-- Braces after a dollar sign. -/
def Nest.braces (quoted : Bool) : Nest :=
  if quoted then .name true else .brace

/-- What a character after a dollar sign and a quote for commands open, `quoted` among double quotes. -/
def opened? (quoted dollar : Bool) (c : Char) : Option Nest :=
  if c = '(' && dollar then some .start
  else if c = '\x7b' && dollar then some (.braces quoted)
  else if c = backQuote then some .back
  else none

/-- A nesting in which a character stands that may open one more nest. -/
def opening (quoted dollar : Bool) (stack : List Nest) (c : Char) : List Nest :=
  match opened? quoted dollar c with
  | some inner => inner :: stack
  | none => stack

/-- The same where quotes count. -/
def quoting (dollar : Bool) (stack : List Nest) (c : Char) : List Nest :=
  if c = quote then .single :: stack else if c = '"' then .double :: stack
  else opening false dollar stack c

/-- The nesting after the parenthesis that ends some commands. Parentheses around commands end them, those
of an output are part of a word. -/
def closed (s : Scan) : List Nest → List Nest
  | .commands outer :: rest =>
    let outer := { outer with marks := outer.marks ++ s.marks }
    .commands (if outer.word.isEmpty then outer.opened else outer) :: rest
  | stack => stack

/-- The nesting after a character of commands. -/
def inCommands (s : Scan) (outer : List Nest) (dollar : Bool) (c : Char) : List Nest :=
  if s.isInMark c then .commands (if isBlank c then s else s.push c) :: outer
  else if c = '#' && s.word.isEmpty then .comment :: .commands s :: outer
  else if isBlank c then .commands s.ended :: outer
  else if c = '\n' then
    let t := s.ended
    let stack := .commands { t.opened with marks := [] } :: outer
    if t.marks.isEmpty then stack else .lines t.marks [] :: stack
  else if c = '<' then .commands { s.ended with signs := s.signs + 1 } :: outer
  else if c = '(' && !dollar then .commands .fresh :: .commands s.ended.opened :: outer
  else if c = ')' then
    let t := s.ended
    if 0 < t.choices then .commands t.opened :: outer else closed t outer
  else if isBreak c && c ≠ '(' then .commands s.ended.opened :: outer
  else quoting dollar (.commands (s.push c) :: outer) c

/-- The nesting after a character of lines that commands take as a text. -/
def inLines (marks : List Mark) (line : List Char) (outer : List Nest) (c : Char) : List Nest :=
  match marks with
  | [] => outer
  | mark :: others =>
    if c ≠ '\n' then .lines marks (c :: line) :: outer
    else
      let line := line.reverse
      if (if mark.indented then line.dropWhile (· = '\t') else line) ≠ mark.line then
        .lines marks [] :: outer
      else if others.isEmpty then outer
      else .lines others [] :: outer

/-- The nesting after a character; `dollar` if a dollar sign stands right before it. -/
def nested (stack : List Nest) (dollar : Bool) (c : Char) : List Nest :=
  match stack with
  | [] => quoting dollar [] c
  | .single :: outer => if c = quote then outer else stack
  | .back :: outer => if c = backQuote then outer else stack
  | .double :: outer => if c = '"' then outer else opening true dollar stack c
  | .start :: outer =>
    if c = '(' then .arithmetic :: outer else inCommands .fresh outer false c
  | .commands s :: outer => inCommands s outer dollar c
  | .comment :: .commands s :: outer => if c = '\n' then inCommands s outer false c else stack
  | .comment :: outer => if c = '\n' then outer else stack
  | .lines marks line :: outer => inLines marks line outer c
  | .brace :: outer => if c = '\x7d' then outer else quoting dollar stack c
  | .name isEmpty :: outer =>
    if c = '\x7d' then outer
    else if isEmpty || isName c then .name false :: outer
    else if c = '#' || c = '%' then .brace :: outer
    else .quotedBrace false :: outer
  | .quotedBrace isQuoted :: outer =>
    if c = '"' then .quotedBrace (!isQuoted) :: outer
    else if c = '\x7d' && !isQuoted then outer
    else opening true dollar stack c
  | .arithmetic :: outer =>
    if c = '(' && !dollar then .factor :: stack
    else if c = ')' then .arithmeticEnd :: outer
    else opening true dollar stack c
  | .arithmeticEnd :: outer =>
    if c = ')' then outer
    else if c = '(' && !dollar then .factor :: .arithmetic :: outer
    else opening true dollar (.arithmetic :: outer) c
  | .factor :: outer =>
    if c = '(' && !dollar then .factor :: stack
    else if c = ')' then outer
    else opening true dollar stack c

/-- The nesting after a backslash and a character that it quotes; none where a backslash quotes nothing. -/
def afterQuoted? (stack : List Nest) (c : Char) : Option (List Nest) :=
  match stack with
  | .single :: _ | .comment :: _ | .lines _ _ :: _ => none
  | .start :: outer => some (.commands (if c = '\n' then .fresh else ((Scan.fresh.push '\\').push c)) :: outer)
  | .commands s :: outer => some (.commands (if c = '\n' then s else (s.push '\\').push c) :: outer)
  | _ => some stack

/-- What is missing where something is nested that does not end. -/
def missing : List Nest → String
  | [] => ""
  | .single :: _ | .double :: _ | .quotedBrace true :: _ => "Unterminated quoted string"
  | .back :: _ => "EOF in backquote substitution"
  | .start :: _ | .commands _ :: _ | .comment :: _ | .lines _ _ :: _ =>
    "end of file unexpected (expecting \")\")"
  | .arithmetic :: _ | .arithmeticEnd :: _ | .factor :: _ => "Missing '))'"
  | .brace :: outer | .name _ :: outer | .quotedBrace false :: outer =>
    let brace := String.ofList [quote, '\x7d', quote]
    if outer.contains .double then "Unterminated quoted string" else "Missing " ++ brace

/-- The end of a text inside of `stack`, which should be empty. -/
def atEnd {α : Type} (stack : List Nest) (a : α) : Except String α :=
  if stack.isEmpty then .ok a else .error (missing stack)

/-- The characters up to the first one that satisfies `stops` and is not nested in anything, and
what follows; an error if something stays open. -/
def extent (stops : Char → Bool) (stack : List Nest) (dollar : Bool) :
    List Char → Except String (List Char × List Char)
  | [] => atEnd stack ([], [])
  | [c] =>
    if stack.isEmpty && stops c then .ok ([], [c])
    else atEnd (nested stack dollar c) ([c], [])
  | c :: d :: cs =>
    if stack.isEmpty && stops c && !(dollar && c = '(') then .ok ([], c :: d :: cs)
    else
      match if c = '\\' then afterQuoted? stack d else none with
      | some stack =>
        (extent stops stack false cs).map fun (inner, rest) => (c :: d :: inner, rest)
      | none =>
        (extent stops (nested stack dollar c) (c = '$') (d :: cs)).map fun (inner, rest) =>
          (c :: inner, rest)

/-- What is nested in `nest`, and what follows its end of some characters. -/
def inside (nest : Nest) (ending : Nat) (cs : List Char) : Except String (List Char × List Char) :=
  (extent (fun _ => true) [nest] false cs).map fun (inner, rest) =>
    (inner.take (inner.length - ending), rest)

/-- The word of an adjustment in double quotes without the double quotes in it; `stack` is what a character
is nested in besides. -/
def withoutQuotes (stack : List Nest) (dollar : Bool) : List Char → List Char
  | [] => []
  | [c] => if c = '"' && stack.isEmpty then [] else [c]
  | c :: d :: cs =>
    match if c = '\\' then afterQuoted? stack d else none with
    | some stack => c :: d :: withoutQuotes stack false cs
    | none =>
      if !stack.isEmpty then c :: withoutQuotes (nested stack dollar c) (c = '$') (d :: cs)
      else if c = '"' then withoutQuotes [] false (d :: cs)
      else c :: withoutQuotes (opening true dollar [] c) (c = '$') (d :: cs)

end TextRepair.Shell.Words
