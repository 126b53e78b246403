/-!
# Command language

The commands of a small command language: words with quoting and expansions, redirection, pipes,
conditionals, loops, choices and functions.
-/

namespace TextRepair.Shell

/-- What an expansion makes of the value of a parameter, possibly with the help of a word. With
`emptyCounts` an empty value counts as none. -/
inductive Adjustment where
  /-- The word in place of a missing value. -/
  | default (emptyCounts : Bool)
  /-- The same, and the word is assigned to the parameter. -/
  | assign (emptyCounts : Bool)
  /-- A missing value is an error, which the word tells. -/
  | require (emptyCounts : Bool)
  /-- The word in place of a value. -/
  | alternative (emptyCounts : Bool)
  /-- The number of characters. -/
  | length
  /-- The value without its shortest or longest start that matches the word. -/
  | dropStart (longest : Bool)
  /-- The value without its shortest or longest end that matches the word. -/
  | dropEnd (longest : Bool)
  deriving DecidableEq, Repr

/-- How commands stand in a word that takes their output. -/
inductive Enclosing where
  /-- In parentheses, from a line of the source on. -/
  | parentheses (line : Nat)
  /-- In back quotes, where the lines have numbers of their own. -/
  | backQuotes
  deriving DecidableEq, Repr

/-- A part of a word. What an unquoted expansion gives is split at blanks, and unquoted wildcards
stand for the names of files. -/
inductive Part where
  | text (cs : List Char) (quoted : Bool)
  | parameter (name : String) (adjustment : Option (Adjustment × List Part)) (quoted : Bool)
  /-- The output of commands. -/
  | output (source : List Char) (enclosing : Enclosing) (quoted : Bool)
  /-- The value of an arithmetic expression. -/
  | arithmetic (expression : List Part) (quoted : Bool)
  /-- The home directory. -/
  | home
  /-- Braces that hold no parameter. Only expanding them is an error. -/
  | unreadable
  deriving Repr

/-- A word; quotes with nothing between them make an empty part. -/
abbrev Word := List Part

/-- Where a stream goes or comes from. -/
inductive Target where
  | read (name : Word)
  /-- A file for writing; `overwrites` whatever it may hold. -/
  | write (name : Word) (overwrites : Bool)
  | readWrite (name : Word)
  | append (name : Word)
  /-- The same as another stream, or closed after a dash. -/
  | copy (stream : Word)
  /-- The input is a text. -/
  | document (content : Word)
  deriving Repr

/-- A change of a numbered stream. -/
structure Redirect where
  stream : Nat
  target : Target
  deriving Repr

/-- A command. -/
inductive Command where
  | nothing
  | simple (line : Nat) (assignments : List (String × Word)) (words : List Word)
      (redirects : List Redirect)
  | sequence (c d : Command)
  | both (c d : Command)
  | either (c d : Command)
  | negated (c : Command)
  | pipe (c d : Command)
  /-- A command that is not waited for. -/
  | background (c : Command)
  | branch (test yes no : Command)
  | loop (whileTrue : Bool) (test body : Command)
  | each (name : String) (words : List Word) (body : Command)
  /-- The first command one of whose patterns matches a word. -/
  | choice (line : Nat) (subject : Word) (cases : List (List Word × Command))
  /-- Commands with streams of their own, and possibly with variables of their own. -/
  | group (line : Nat) (isolated : Bool) (body : Command) (redirects : List Redirect)
  | function (name : String) (body : Command)
  deriving Repr, Inhabited

end TextRepair.Shell
