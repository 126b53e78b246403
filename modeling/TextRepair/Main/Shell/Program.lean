import TextRepair.FileTree
import TextRepair.Main.Shell.Bytes
import TextRepair.Main.Shell.Options
import TextRepair.Main.Shell.Quoting
import TextRepair.Text.CharClass

/-!
# Programs

What a program is started with and what it leaves. A program sees the file tree and its input and
changes neither. Its texts are texts of bytes.
-/

namespace TextRepair.Shell

/-- Something that a program writes. -/
inductive Written where
  | output (text : String)
  | message (text : String)
  deriving DecidableEq, Repr

/-- What a program leaves: what it has written, its status, what it has left of its input if it has read
any of it, and the microseconds it took. -/
structure Answered where
  written : List Written
  status : Nat
  rest : Option String
  micros : Nat
  deriving Inhabited

namespace Answered

/-- Nothing but a status. -/
def ofStatus (status : Nat) : Answered :=
  ⟨[], status, none, 0⟩

/-- Output and status 0. -/
def ofOutput (text : String) : Answered :=
  ⟨[.output text], 0, none, 0⟩

/-- A message and a status. -/
def ofMessage (status : Nat) (text : String) : Answered :=
  ⟨[.message text], status, none, 0⟩

/-- Two results of one program, one after the other; the higher status counts. -/
def followedBy (a b : Answered) : Answered where
  written := a.written ++ b.written
  status := max a.status b.status
  rest := b.rest <|> a.rest
  micros := a.micros + b.micros

/-- The results of one program in order. -/
def all (parts : List Answered) : Answered :=
  parts.foldl followedBy (ofStatus 0)

end Answered

/-- What a program is started with. -/
structure Setting where
  tree : FileTree
  cwd : Path
  /-- What is left to read of the input, none if it is closed. -/
  input : Option String
  /-- The file that the input is read from, and the one that the output is added to. -/
  inputFile : Option Path
  outputFile : Option Path
  /-- The variables that programs see. -/
  environment : List (String × String)
  /-- What the messages of the shell start with. -/
  speaker : String

namespace Setting

/-- The path of a name. -/
def resolve (s : Setting) (name : String) : Except FileError Path :=
  s.tree.resolve s.cwd (Bytes.toName name)

/-- What a name leads to. -/
def node? (s : Setting) (name : String) : Option Node :=
  match s.resolve name with
  | .ok p => s.tree.node? p
  | .error _ => none

/-- The names in a directory. -/
def names (s : Setting) (p : Path) : List String :=
  (s.tree.names p).map Bytes.ofName

/-- The name of a path from the root. -/
def nameOf (p : Path) : String :=
  "/" ++ "/".intercalate (p.map Bytes.ofName)

end Setting

namespace Program

/-- A message on a line of its own and a status. -/
def failing (n : Nat) (message : String) : Answered :=
  .ofMessage n (message ++ "\n")

/-- The message of a program that is used in a wrong way. -/
def misused (n : Nat) (program message : String) : Answered :=
  failing n (program ++ ": " ++ message ++ "\nTry " ++ Options.inQuotes (program ++ " --help") ++
    " for more information.")

/-- Whether an operand stands for the input. -/
def isInput (name : String) : Bool :=
  name = "-" || name = "/dev/stdin" || name = "/dev/fd/0"

/-- The content of an operand. -/
def content (s : Setting) (name : String) : Except FileError String :=
  if isInput name then
    match s.inputFile.bind s.tree.node?, s.input with
    | some .directory, _ => .error .isDirectory
    | _, some text => .ok text
    | _, none => .error .closed
  else if name = "/dev/null" then .ok ""
  else if name = "/dev/tty" then .error .noDevice
  else (s.tree.read s.cwd (Bytes.toName name)).map Bytes.ofContent

/-- The file that an operand is read from. -/
def source? (s : Setting) (name : String) : Option Path :=
  if isInput name then s.inputFile else (s.resolve name).toOption

/-- A text flush right in a field. -/
def flushRight (width : Nat) (text : String) : String :=
  String.ofList (List.replicate (width - text.length) ' ') ++ text

/-- The words that an option takes as its value, those with one meaning together. -/
def validWords (program option word : String) (valid : List (List String)) : String :=
  let line (words : List String) : String :=
    "  - " ++ ", ".intercalate (words.map Options.inQuotes) ++ "\n"
  s!"{program}: invalid argument {Quoting.escaped word} for {Options.inQuotes option}\n" ++
    "Valid arguments are:\n" ++ String.join (valid.map line)

/-- The first of the words with one meaning that a word or the start of one stands for. -/
def validWord? (valid : List (List String)) (word : String) : Option String :=
  match valid.find? (·.contains word) with
  | some words => words.head?
  | none =>
    match valid.filter fun words => words.any (·.startsWith word) with
    | [words] => words.head?
    | _ => none

end Program

end TextRepair.Shell
