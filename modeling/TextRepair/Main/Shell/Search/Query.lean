import TextRepair.Main.Shell.Expression
import TextRepair.Main.Shell.Options
import TextRepair.Main.Shell.Program
import TextRepair.Main.Shell.Wildcard

/-!
# What is searched for

The options of the program that searches lines, with what each of them sets.

* `Query.read` : the query in the arguments of the program.
* `Query.pattern` : the pattern of all its expressions.
-/

namespace TextRepair.Shell

/-- The languages in which expressions are written. -/
inductive Matcher where
  | basic
  | extended
  /-- Expressions stand for themselves. -/
  | fixed
  deriving DecidableEq, Repr

/-- What is done with a directory among the files. -/
inductive DirectoryRule where
  | refuse
  | enter
  | skip
  deriving DecidableEq, Repr

/-- What is done with a content that is no text. -/
inductive BinaryRule where
  /-- Only whether it matches is told. -/
  | tell
  | asText
  | skip
  deriving DecidableEq, Repr

/-- An expression. One from a file of expressions has a place there. -/
structure Sought where
  text : String
  place : Option (String × Nat)

/-- A pattern for the names of files that are searched, or of those that are not. -/
structure NameRule where
  includes : Bool
  pattern : String

/-- What is searched for and how it is shown. -/
structure Query where
  /-- The letters and names of options without a value. -/
  flags : List String
  matcher : Option Matcher
  expressions : Option (List Sought)
  context : Option Nat
  before : Option Nat
  after : Option Nat
  /-- The digits of the option for the context that came right before. -/
  digits : String
  /-- The number of selected lines in a file after which the search in it ends. -/
  most : Option Nat
  directories : DirectoryRule
  binaries : BinaryRule
  fileRules : List NameRule
  /-- Patterns for the names of directories that are not entered. -/
  closedDirectories : List String
  /-- What stands between lines that do not follow each other. -/
  separator : Option String
  /-- The name of the input. -/
  label : String
  isColored : Bool
  warnings : List String
  operands : List String

namespace Query

/-- The options. -/
def known : Options.Known where
  bare := "EFGHILPTUVabchilnoqRrsuvwxyZz0123456789".toList
  valued := ['A', 'B', 'C', 'D', 'X', 'd', 'e', 'f', 'm']
  names :=
    [⟨"basic-regexp", "G", .bare⟩, ⟨"extended-regexp", "E", .bare⟩, ⟨"fixed-regexp", "F", .bare⟩,
      ⟨"fixed-strings", "F", .bare⟩, ⟨"perl-regexp", "P", .bare⟩, ⟨"after-context", "A", .valued⟩,
      ⟨"before-context", "B", .valued⟩, ⟨"binary-files", "binary-files", .valued⟩,
      ⟨"binary", "U", .bare⟩, ⟨"byte-offset", "b", .bare⟩, ⟨"context", "C", .valued⟩,
      ⟨"color", "color", .optional⟩, ⟨"colour", "color", .optional⟩, ⟨"count", "c", .bare⟩,
      ⟨"devices", "D", .valued⟩, ⟨"directories", "d", .valued⟩, ⟨"exclude", "exclude", .valued⟩,
      ⟨"exclude-from", "exclude-from", .valued⟩, ⟨"exclude-dir", "exclude-dir", .valued⟩,
      ⟨"file", "f", .valued⟩, ⟨"files-with-matches", "l", .bare⟩,
      ⟨"files-without-match", "L", .bare⟩, ⟨"group-separator", "separator", .valued⟩,
      ⟨"help", "help", .bare⟩, ⟨"include", "include", .valued⟩, ⟨"ignore-case", "i", .bare⟩,
      ⟨"no-ignore-case", "no-i", .bare⟩, ⟨"initial-tab", "T", .bare⟩, ⟨"label", "label", .valued⟩,
      ⟨"line-buffered", "line-buffered", .bare⟩, ⟨"line-number", "n", .bare⟩,
      ⟨"line-regexp", "x", .bare⟩, ⟨"max-count", "m", .valued⟩, ⟨"no-filename", "h", .bare⟩,
      ⟨"no-group-separator", "no-separator", .bare⟩, ⟨"no-messages", "s", .bare⟩,
      ⟨"null", "Z", .bare⟩, ⟨"null-data", "z", .bare⟩, ⟨"only-matching", "o", .bare⟩,
      ⟨"quiet", "q", .bare⟩, ⟨"recursive", "r", .bare⟩, ⟨"dereference-recursive", "R", .bare⟩,
      ⟨"regexp", "e", .valued⟩, ⟨"invert-match", "v", .bare⟩, ⟨"silent", "q", .bare⟩,
      ⟨"text", "a", .bare⟩, ⟨"unix-byte-offsets", "u", .bare⟩, ⟨"version", "V", .bare⟩,
      ⟨"with-filename", "H", .bare⟩, ⟨"word-regexp", "w", .bare⟩]

/-- A query without options. -/
def plain (operands : List String) : Query where
  flags := []
  matcher := none
  expressions := none
  context := none
  before := none
  after := none
  digits := ""
  most := none
  directories := .refuse
  binaries := .tell
  fileRules := []
  closedDirectories := []
  separator := some "--"
  label := "(standard input)"
  isColored := false
  warnings := []
  operands := operands

/-- Whether an option is given. -/
def has (q : Query) (flag : String) : Bool :=
  q.flags.contains flag

/-- Which of two options is given last; `b` if none is. -/
def prefers (q : Query) (a b : String) : Bool :=
  (q.flags.reverse.find? fun flag => flag = a || flag = b) = some a

/-- The lines that say how the program is used. -/
def usage : String :=
  "Usage: grep [OPTION]... PATTERNS [FILE]...\nTry " ++ Options.inQuotes "grep --help" ++
    " for more information."

/-- A fault that ends the program. -/
def fault (reason : String) : Answered :=
  Program.failing 2 ("grep: " ++ reason)

/-- A whole number with blanks and a sign in front. -/
def integer? (text : String) : Option Int :=
  match text.toList.dropWhile Char.isWhitespace with
  | '-' :: ds => (Text.natOfDigits? ds).map fun n => -(n : Int)
  | '+' :: ds => (Text.natOfDigits? ds).map Int.ofNat
  | ds => (Text.natOfDigits? ds).map Int.ofNat

/-- The number of lines around a selected one. -/
def contextOf (text : String) : Except Answered Nat :=
  match integer? text with
  | some (.ofNat n) => .ok n
  | _ => .error (fault s!"{text}: invalid context length argument")

/-- The lines of a text without their ends. -/
def linesOf (text : String) : List String :=
  if text.isEmpty then []
  else
    let pieces := text.splitOn "\n"
    if pieces.getLast? = some "" then pieces.dropLast else pieces

/-- The lines of a file of expressions or name patterns. -/
def linesIn (s : Setting) (name : String) : Except Answered (List String) :=
  match Program.content s name with
  | .ok text => .ok (linesOf text)
  | .error e => .error (fault s!"{name}: {e.reason}")

/-- Chooses the language of the expressions. -/
def choose (q : Query) (m : Matcher) : Except Answered Query :=
  if q.matcher.all (· = m) then .ok { q with matcher := some m }
  else .error (fault "conflicting matchers specified")

/-- More expressions. -/
def seek (q : Query) (more : List Sought) : Query :=
  { q with expressions := some (q.expressions.getD [] ++ more) }

/-- Takes over an option with a value. -/
def takeValue (s : Setting) (q : Query) (key value : String) : Except Answered Query := do
  if key = "A" then return { q with after := some (← contextOf value) }
  else if key = "B" then return { q with before := some (← contextOf value) }
  else if key = "C" then return { q with context := some (← contextOf value) }
  else if key = "D" then
    if value = "read" || value = "skip" then return q
    else throw (fault "unknown devices method")
  else if key = "X" then
    if value ∈ ["grep"] then q.choose .basic
    else if value ∈ ["egrep", "awk", "gawk", "posixawk"] then q.choose .extended
    else if value = "fgrep" then q.choose .fixed
    else throw (fault s!"invalid matcher {value}")
  else if key = "d" then
    match Program.validWord? [["read"], ["recurse"], ["skip"]] value with
    | some "recurse" => return { q with directories := .enter }
    | some "skip" => return { q with directories := .skip }
    | some _ => return { q with directories := .refuse }
    | none =>
      let words := Program.validWords "grep" "--directories" value [["read"], ["recurse"], ["skip"]]
      throw (Program.failing 1 (words ++ usage))
  else if key = "e" then
    return q.seek ((value.splitOn "\n").map fun text => ⟨text, none⟩)
  else if key = "f" then
    let lines ← linesIn s value
    return q.seek (lines.zipIdx 1 |>.map fun (text, n) => ⟨text, some (value, n)⟩)
  else if key = "m" then
    match integer? value with
    | some (.ofNat n) => return { q with most := some n }
    | some _ => return { q with most := none }
    | none => throw (fault "invalid max count")
  else if key = "binary-files" then
    if value = "binary" then return { q with binaries := .tell }
    else if value = "text" then return { q with binaries := .asText }
    else if value = "without-match" then return { q with binaries := .skip }
    else throw (fault "unknown binary-files type")
  else if key = "color" then
    if value ∈ ["always", "yes", "force"] then return { q with isColored := true }
    else if value ∈ ["", "auto", "tty", "if-tty", "never", "no", "none"] then
      return { q with isColored := false }
    else return { q with flags := q.flags ++ ["help"] }
  else if key = "exclude" then
    return { q with fileRules := q.fileRules ++ [⟨false, value⟩] }
  else if key = "include" then
    return { q with fileRules := q.fileRules ++ [⟨true, value⟩] }
  else if key = "exclude-from" then
    let lines ← linesIn s value
    return { q with fileRules := q.fileRules ++ lines.map fun pattern => ⟨false, pattern⟩ }
  else if key = "exclude-dir" then
    let name := String.ofList (Text.dropEndWhile (· = '/') value.toList)
    return { q with closedDirectories := q.closedDirectories ++ [name] }
  else if key = "separator" then return { q with separator := some value }
  else if key = "label" then return { q with label := value }
  else return q

/-- What is odd about the options, as it is said. -/
def warningText (q : Query) : String :=
  String.join (q.warnings.map fun text => s!"grep: {text}\n")

/-- Takes over an option. -/
def takeOption (q : Query) (s : Setting) (given : Options.Given) : Except Answered Query := do
  let key := given.key
  let isDigit := key.all Char.isDigit
  let digits := if isDigit then q.digits ++ key else ""
  let q := { q with digits, flags := q.flags ++ [key] }
  if isDigit then return { q with context := some (← contextOf digits) }
  else if key = "E" || key = "P" then q.choose .extended
  else if key = "F" then q.choose .fixed
  else if key = "G" then q.choose .basic
  else if key = "I" then return { q with binaries := .skip }
  else if key = "a" then return { q with binaries := .asText }
  else if key = "r" || key = "R" then return { q with directories := .enter }
  else if key = "no-separator" then return { q with separator := none }
  else if key = "u" then
    return { q with warnings := q.warnings ++ ["warning: --unix-byte-offsets (-u) is obsolete"] }
  else q.takeValue s key given.value

/-- Takes over an option; a fault is told after the warnings. -/
def take (s : Setting) (q : Query) (given : Options.Given) : Except Answered Query :=
  (q.takeOption s given).mapError (Answered.ofMessage 0 q.warningText).followedBy

/-- The query in the arguments of the program. -/
def read (s : Setting) (args : List String) : Except Answered Query := do
  let r := Options.read known args
  let q ← r.options.foldlM (take s) (plain r.operands)
  if let some reason := r.fault then
    throw ((Answered.ofMessage 0 q.warningText).followedBy (fault (reason ++ "\n" ++ usage)))
  if q.expressions.isSome then return q
  else
    match q.operands with
    | [] => throw (Program.failing 2 usage)
    | text :: operands =>
      return { q.seek ((text.splitOn "\n").map fun text => ⟨text, none⟩) with operands }

/-! ## What the options mean together -/

/-- Whether small letters and capitals are the same. -/
def folded (q : Query) : Bool :=
  (q.flags.reverse.find? fun flag => flag = "i" || flag = "y" || flag = "no-i").any (· ≠ "no-i")

/-- How a match has to lie in its line. -/
def extent (q : Query) : Pattern.Extent :=
  if q.has "x" then .line else if q.has "w" then .word else .anywhere

/-- The character at the end of each line. -/
def lineEnd (q : Query) : Char :=
  if q.has "z" then '\x00' else '\n'

/-- The numbers of lines shown in front of a selected one and after it. -/
def linesBefore (q : Query) : Nat :=
  (q.before <|> q.context).getD 0

/-- The number of lines shown after a selected one. -/
def linesAfter (q : Query) : Nat :=
  (q.after <|> q.context).getD 0

/-- Whether a number of lines around a selected one is given. -/
def hasContext (q : Query) : Bool :=
  q.before.isSome || q.after.isSome || q.context.isSome

/-- The pattern of one expression. -/
def patternOf (q : Query) (text : String) : Except ExpressionError Pattern :=
  let matcher := q.matcher.getD .basic
  let d : Expression.Dialect := ⟨matcher = .extended, q.folded⟩
  if matcher = .fixed then .ok (Pattern.literal q.folded text.toList)
  else if Expression.hasBareClass d (text.length + 1) text.toList then .error .bareClass
  else Expression.read d text.toList

/-- What is odd about the expressions, as it is said. -/
def remarks (q : Query) : String :=
  let odd (x : Sought) : List String :=
    if q.matcher.getD .basic = .fixed then []
    else Expression.remarks ⟨q.matcher = some .extended, q.folded⟩ x.text.toList
  String.join (((q.expressions.getD []).flatMap odd).map fun text => s!"grep: {text}\n")

/-- The pattern of all expressions; a match of any of them counts. What is odd is said in front of the one
fault that is found after it. -/
def pattern (q : Query) : Except Answered Pattern :=
  let sought := q.expressions.getD []
  let results := sought.map fun x => (x, q.patternOf x.text)
  let faults := results.filterMap fun (x, result) =>
    match result, x.place with
    | .error e, none => some s!"grep: {e.message}\n"
    | .error e, some (name, n) => some s!"grep: {name}:{n}: {e.message}\n"
    | .ok _, _ => none
  if faults.isEmpty then .ok (Pattern.anyOf (results.filterMap fun (_, result) => result.toOption))
  else
    let isLate := results.any fun (_, result) =>
      match result with
      | .error e => e = .tooBigAtStart
      | .ok _ => false
    let remarks := if isLate then q.remarks else ""
    .error (.ofMessage 2 (remarks ++ String.join faults.eraseDups))

/-- Whether nothing can be selected whatever the files hold: no lines are wanted, or none is left if all that
match an empty expression, or none at all, are taken away. -/
def isIdle (q : Query) : Bool :=
  let sought := (q.expressions.getD []).map Sought.text
  let isEmpty :=
    if sought.isEmpty then !q.has "v"
    else sought.all String.isEmpty && q.has "v" && !q.has "x" && !q.has "w"
  !q.has "L" && (q.most = some 0 || isEmpty)

/-- The parts of a name after its slashes. -/
def partsOf : List Char → List (List Char)
  | [] => []
  | c :: cs => if c = '/' && cs.head? ≠ some '/' then cs :: partsOf cs else partsOf cs

/-- Whether the pattern of a name accepts it or a part of it after a slash. -/
def accepts (pattern name : String) : Bool :=
  let p := Wildcard.pattern (Wildcard.ofText pattern.toList)
  (name.toList :: partsOf name.toList).any p.accepts

/-- Whether a file of a name is searched: the last pattern that accepts the name decides, and without one
only a first pattern for names that are searched leaves the file out. -/
def admits (q : Query) (name : String) : Bool :=
  match q.fileRules.reverse.find? fun rule => accepts rule.pattern name with
  | some rule => rule.includes
  | none => q.fileRules.head?.all fun rule => !rule.includes

/-- Whether a directory of a name is entered. -/
def enters (q : Query) (name : String) : Bool :=
  !q.closedDirectories.any fun pattern => accepts pattern name

end Query

end TextRepair.Shell
