import TextRepair.Main.Shell.Words

/-!
# Tokens of the command language

`tokens` cuts a source into words, operators and redirections, each with its line. A text that a
redirection takes from the following lines is cut out where it stands.
-/

namespace TextRepair.Shell

/-- A token. -/
inductive Token where
  /-- A word and the text that it was read from. -/
  | word (w : Word) (source : List Char)
  | operator (s : String)
  | redirect (stream : Option Nat) (operator : String)
  /-- A redirection of the input to a text. -/
  | document (stream : Option Nat) (content : Word)
  /-- What cannot be read, and why. -/
  | bad (reason : String)
  /-- The end of the source. -/
  | finish
  deriving Repr

/-- A token with the number of its line. -/
structure Placed where
  token : Token
  line : Nat
  deriving Repr

namespace Token

/-- Whether a token is a given operator. -/
def isOperator (s : String) : Token → Bool
  | .operator t => t = s
  | _ => false

/-- Whether a token is a given word without any quotes. -/
def isWord (s : String) : Token → Bool
  | .word _ source => source = s.toList
  | _ => false

/-- The words with a meaning at the start of a command. -/
def reserved : List String :=
  ["!", "case", "do", "done", "elif", "else", "esac", "fi", "for", "if", "in", "then", "until",
    "while", "\x7b", "\x7d"]

/-- What a token is called in a message. -/
def shown : Token → String
  | .word _ source =>
    let s := String.ofList source
    if s ∈ reserved then "\"" ++ s ++ "\"" else "word"
  | .operator s => if s = "\n" then "newline" else "\"" ++ s ++ "\""
  | .redirect .. | .document .. => "redirection"
  | .bad reason => reason
  | .finish => "end of file"

end Token

namespace Tokens

/-- The first of some texts that stands at the start of another one, and what follows it. -/
def starting? (texts : List String) (cs : List Char) : Option (String × List Char) :=
  texts.findSome? fun s => if s.toList.isPrefixOf cs then some (s, cs.drop s.length) else none

/-- An operator at the start of a text and what follows it. -/
def operator? : List Char → Option (String × List Char) :=
  starting? ["&&", "||", ";;", ";", "&", "|", "(", ")", "\n"]

/-- A redirection operator at the start of a text and what follows it. -/
def redirect? : List Char → Option (String × List Char) :=
  starting? [">>", ">&", ">|", "<<-", "<<", "<&", "<>", ">", "<"]

/-- A text up to the end of its line, and what follows that. -/
def cutLine (cs : List Char) : List Char × List Char :=
  (cs.takeWhile (· ≠ '\n'), (cs.dropWhile (· ≠ '\n')).drop 1)

/-- The lines up to one that is `mark`, and what follows that line. With `indented` the tabs at the
start of a line do not count. -/
def untilMark (indented : Bool) (mark : List Char) : (fuel : Nat) → List Char → List Char × List Char
  | 0, cs => ([], cs)
  | _, [] => ([], [])
  | fuel + 1, cs =>
    let (line, rest) := cutLine cs
    let isEnded := line.length < cs.length
    let line := if indented then line.dropWhile (· = '\t') else line
    if line = mark then ([], rest)
    else
      let (content, rest) := untilMark indented mark fuel rest
      (line ++ (if isEnded then ['\n'] else []) ++ content, rest)

/-- Whether a word comes next on the line. -/
def startsWord (cs : List Char) : Bool :=
  (cs.dropWhile Words.isBlank).head?.any fun c => !Words.isBreak c

/-- A text on the lines that follow one. -/
structure Document where
  word : Word
  /-- The rest of the line with the mark. -/
  sameLine : List Char
  /-- What follows the text. -/
  below : List Char
  /-- The number of lines that the text takes. -/
  lines : Nat

/-- A text on the lines from `line` on; if it cannot be read, why, and the line where that shows. -/
def document (indented : Bool) (line : Nat) (cs : List Char) : Except (String × Nat) Document := do
  let (mark, rest) ←
    (Words.extent Words.isBreak [] false (cs.dropWhile Words.isBlank)).mapError fun reason => (reason, line)
  let (sameLine, rest) := cutLine rest
  let plain := Words.unquote mark
  let (content, below) := untilMark indented plain (rest.length + 1) rest
  let lines := Words.lineEnds rest - Words.lineEnds below
  let atEnd (reason : String) : Nat :=
    line + Words.lineEnds (if reason = Words.missing [.brace] then content else rest)
  let word ←
    if plain = mark then (Words.ofDocument line content).mapError fun reason => (reason, atEnd reason)
    else .ok [.text content true]
  return { word, sameLine, below, lines }

/-- The tokens of a source whose first line has number `line`; that line is followed by texts that take
`skipped` lines, which have been cut out. -/
def read : (fuel : Nat) → (line skipped : Nat) → List Char → List Placed
  | 0, line, _, _ => [⟨.finish, line⟩]
  | _, line, _, [] => [⟨.finish, line⟩]
  | fuel + 1, line, skipped, c :: cs =>
    if Words.isBlank c then read fuel line skipped cs
    else if c = '#' then read fuel line skipped (cs.dropWhile (· ≠ '\n'))
    else if c = '\\' && cs.head? = some '\n' then read fuel (line + 1) skipped (cs.drop 1)
    else
      match operator? (c :: cs) with
      | some (s, rest) =>
        ⟨.operator s, line⟩ ::
          if s = "\n" then read fuel (line + 1 + skipped) 0 rest else read fuel line skipped rest
      | none =>
        let stream := Text.natOfDigits? ((c :: cs).takeWhile Char.isDigit)
        match redirect? ((c :: cs).dropWhile Char.isDigit) with
        | some (s, rest) =>
          if (s = "<<" || s = "<<-") && startsWord rest then
            match document (s = "<<-") (line + skipped + 1) rest with
            | .ok d =>
              ⟨.document stream d.word, line⟩ ::
                read fuel line (skipped + d.lines) (d.sameLine ++ '\n' :: d.below)
            | .error (reason, line) => [⟨.bad reason, line⟩]
          else ⟨.redirect stream s, line⟩ :: read fuel line skipped rest
        | none =>
          match Words.extent Words.isBreak [] false (c :: cs) with
          | .error reason => [⟨.bad reason, line + Words.lineEnds cs⟩]
          | .ok (source, rest) =>
            match Words.ofText line source with
            | .error reason => [⟨.bad reason, line⟩]
            | .ok w => ⟨.word w source, line⟩ :: read fuel (line + Words.lineEnds source) skipped rest

/-- The tokens of a source that starts at a line. -/
def ofSource (line : Nat) (source : List Char) : List Placed :=
  read (source.length + 1) line 0 source

end Tokens

end TextRepair.Shell
