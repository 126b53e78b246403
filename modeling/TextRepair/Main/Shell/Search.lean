import TextRepair.Main.Shell.Search.Query

/-!
# Searching lines

The program that prints the lines of its files that match a pattern.
-/

namespace TextRepair.Shell

/-- A line that is searched. -/
structure Record where
  number : Nat
  /-- The number of characters in front of the line. -/
  offset : Nat
  text : List Char
  isSelected : Bool

namespace Query

/-! ## Lines -/

/-- The lines of a content, with their numbers and places. -/
def recordsFrom (q : Query) (p : Pattern) (number offset : Nat) : List (List Char) → List Record
  | [] => []
  | text :: rest =>
    ⟨number, offset, text, p.matchesIn q.extent text != q.has "v"⟩ ::
      recordsFrom q p (number + 1) (offset + text.length + 1) rest

/-- The lines of a content. -/
def records (q : Query) (p : Pattern) (content : String) : List Record :=
  let pieces := content.splitOn (String.singleton q.lineEnd)
  let pieces := if pieces.getLast? = some "" then pieces.dropLast else pieces
  q.recordsFrom p 1 0 (pieces.map String.toList)

/-- The lines up to the last one that may be selected, and those shown after it, which are not selected. -/
def upToLast (after : Nat) : (most : Nat) → List Record → List Record
  | _, [] => []
  | 0, rs => (rs.take after).map fun r => { r with isSelected := false }
  | most + 1, r :: rest => r :: upToLast after (if r.isSelected then most else most + 1) rest

/-- For each line, whether it is selected or one of the `count` lines after a selected one; `left` are
those still to come after an earlier one. -/
def within (count : Nat) : (left : Nat) → List Record → List Bool
  | _, [] => []
  | left, r :: rest =>
    if r.isSelected then true :: within count count rest
    else decide (0 < left) :: within count (left - 1) rest

/-- The lines to print: the selected ones and those around them. -/
def around (q : Query) (rs : List Record) : List Record :=
  let after := within q.linesAfter 0 rs
  let before := (within q.linesBefore 0 rs.reverse).reverse
  ((rs.zip (after.zip before)).filter fun (_, a, b) => a || b).map Prod.fst

/-! ## Output -/

/-- What is known of a file whose lines are shown. -/
structure Heading where
  /-- What it is called in front of its lines. -/
  title : Option String
  size : Option Nat

/-- A text in a colour. -/
def painted (q : Query) (colour text : String) : String :=
  if q.isColored then "\x1b[" ++ colour ++ "m\x1b[K" ++ text ++ "\x1b[m\x1b[K" else text

/-- A mark between the parts of a line. -/
def mark (q : Query) (text : String) : String :=
  q.painted "36" text

/-- The name of a file, which a mark or a zero follows. -/
def titled (q : Query) (name after : String) : String :=
  q.painted "35" name ++ if q.has "Z" then "\x00" else after

/-- What stands in front of a line or of a match in it. Numbers in columns are as wide as the greatest one
that may come. -/
def head (q : Query) (f : Heading) (r : Record) (offset : Nat) (isEmpty : Bool) : String :=
  let mark := q.mark (if r.isSelected then ":" else "-")
  let number (greatest n : Nat) : String :=
    let width := if q.has "T" then (toString greatest).length else 0
    q.painted "32" (Program.flushRight width (toString n)) ++ mark
  let name := match f.title with | some name => q.titled name mark | none => ""
  let greatest := f.size.getD (UInt64.size / 2 - 1)
  let line := if f.size.isSome then greatest + 1 else greatest
  let text := name ++ (if q.has "n" then number line r.number else "") ++
    if q.has "b" then number greatest (r.offset + offset) else ""
  if q.has "T" && !text.isEmpty && !isEmpty then text ++ "\t" else text

/-- A line whose matches are in colour; `offset` characters of it are left out. -/
def coloured (q : Query) (offset : Nat) (text : List Char) : List (Nat × List Char) → String
  | [] => String.ofList text
  | (place, found) :: rest =>
    let gap := place - offset
    String.ofList (text.take gap) ++ q.painted "01;31" (String.ofList found) ++
      coloured q (place + found.length) (text.drop (gap + found.length)) rest

/-- A line, or the matches in it if only they are shown. -/
def shown (q : Query) (p : Pattern) (f : Heading) (r : Record) : String :=
  let stop := String.singleton q.lineEnd
  let hasMatches := r.isSelected != q.has "v"
  let found (_ : Unit) : List (Nat × List Char) :=
    if hasMatches then p.findAll q.extent (r.text.length + 1) 0 (.start r.text) else []
  if q.has "o" then
    String.join <| (found ()).map fun (place, text) =>
      q.head f r place false ++ q.painted "01;31" (String.ofList text) ++ stop
  else
    let text := if q.isColored then q.coloured 0 r.text (found ()) else String.ofList r.text
    q.head f r 0 r.text.isEmpty ++ text ++ stop

/-- Prints lines, of which the one with number `last` has been printed in the same file. A separator
stands where lines are left out. -/
def printed (q : Query) (p : Pattern) (f : Heading) (hasPrinted : Bool) (last : Nat) :
    List Record → String
  | [] => ""
  | r :: rest =>
    let isNew := last = 0 || last + 1 ≠ r.number
    let gap :=
      if q.hasContext && hasPrinted && isNew then
        match q.separator with
        | some text => q.painted "36" text ++ "\n"
        | none => ""
      else ""
    gap ++ q.shown p f r ++ printed q p f true r.number rest

/-- The result of a search in one content. -/
structure Found where
  output : String
  messages : String
  count : Nat

/-- The search in the content of a file called `name`. -/
def search (q : Query) (p : Pattern) (name : String) (isTitled hasPrinted : Bool) (size : Option Nat)
    (content : String) : Found :=
  let isBinary := q.binaries ≠ .asText && !q.has "z" && content.contains '\x00'
  let title := if isTitled then some name else none
  let text :=
    if !isBinary then content
    else if q.binaries = .skip then ""
    else content.map fun c => if c = '\x00' then '\n' else c
  let all := q.records p text
  let rs := match q.most with | some n => upToLast q.linesAfter n all | none => all
  let count := (rs.filter Record.isSelected).length
  let listed (isListed : Bool) : Found :=
    ⟨if isListed then q.titled name "\n" else "", "", count⟩
  if q.has "q" then ⟨"", "", count⟩
  else if q.has "l" || q.has "L" then listed (decide (0 < count) == q.prefers "l" "L")
  else if q.has "c" then
    let start := match title with | some name => q.titled name (q.mark ":") | none => ""
    ⟨s!"{start}{count}\n", "", count⟩
  else if isBinary then
    ⟨"", if 0 < count then s!"grep: {name}: binary file matches\n" else "", count⟩
  else ⟨q.printed p ⟨title, size⟩ hasPrinted 0 (q.around rs), "", count⟩

/-- Whether one line that is selected in a file decides all that is told of it. -/
def isDecidedByOne (q : Query) : Bool :=
  q.has "l" || q.has "L" || q.has "q"

/-- The place in a content after the line with which the search in it ends early. -/
def stop? (q : Query) (p : Pattern) (content : String) : Option Nat := do
  let most ← if q.isDecidedByOne then some 1 else q.most
  let selected := ((q.records p content).filter Record.isSelected).take most
  if selected.length = most then selected.getLast?.map fun r => r.offset + r.text.length + 1 else none

/-- The bytes that are read at a time. -/
def readSize : Nat := 98304

/-- What is left of the input after a search that ends early. Only in a file can the search give back what it
has read too much. -/
def leftOver (q : Query) (p : Pattern) (isFile : Bool) (content : String) : String :=
  match q.stop? p content with
  | none => ""
  | some n =>
    let read := if isFile && !q.isDecidedByOne then n else readSize * ((n + readSize - 1) / readSize)
    (content.drop read).copy

/-! ## Files -/

/-- A file that is searched. -/
structure Source where
  name : String
  isTitled : Bool

/-- The files under a directory with a name. -/
def filesUnder (q : Query) (s : Setting) (name : String) : List String :=
  match s.resolve name with
  | .ok p =>
    let parts (file : String) : List String := (Bytes.ofName file).splitOn "/"
    let isOpen (file : String) : Bool := (parts file).dropLast.all q.enters
    let isAdmitted (file : String) : Bool := q.admits ((parts file).getLast?.getD "")
    ((s.tree.filesUnder p).map (·.1)).filter (fun file => isOpen file && isAdmitted file)
      |>.map Bytes.ofName
  | .error _ => []

/-- The files to search: a directory may stand for the files under it. -/
def sources (q : Query) (s : Setting) : List Source :=
  let isMany := 1 < q.operands.length
  let titled (isMany : Bool) : Bool :=
    if q.has "h" || q.has "H" then q.prefers "H" "h" else isMany
  let under (name : String) : List Source :=
    let start := if name.endsWith "/" then name else name ++ "/"
    (q.filesUnder s name).map fun file => ⟨start ++ file, titled true⟩
  let isDirectory (name : String) : Bool :=
    match s.node? name with | some .directory => true | _ => false
  let ofName (name : String) : List Source :=
    let isThere := name ≠ "-" && (s.node? name).isSome
    if isThere && isDirectory name then
      match q.directories with
      | .skip => []
      | .refuse => [⟨name, titled isMany⟩]
      | .enter => if q.enters name then under name else []
    else if isThere && !q.admits name then []
    else [⟨name, titled isMany⟩]
  match q.operands, q.directories with
  | [], .enter => (q.filesUnder s ".").map fun file => ⟨file, titled true⟩
  | [], _ => [⟨"-", titled false⟩]
  | operands, _ => operands.flatMap ofName

/-- How far the search in the files has come. -/
structure Progress where
  answered : Answered
  /-- The number of lines selected. -/
  count : Nat
  input : Option String
  isOver : Bool

/-- The size of a file that is searched. -/
def sizeOf? (s : Setting) (name : String) : Option Nat :=
  match (Program.source? s name).bind s.tree.node? with
  | some (.file content) => some content.size
  | _ => none

/-- Searches one more file. A directory is searched like an empty file after a message. -/
def visit (q : Query) (s : Setting) (p : Pattern) (d : Progress) (source : Source) : Progress :=
  let isInput := source.name = "-"
  let name := if isInput then q.label else source.name
  let fault (reason : String) : Answered :=
    .ofMessage 2 (if q.has "s" then "" else s!"grep: {name}: {reason}\n")
  let add (before : Answered) (found : Found) (rest : Option String) : Progress :=
    let result : Answered := ⟨[.output found.output, .message found.messages], 0, rest, 0⟩
    { answered := (d.answered.followedBy before).followedBy result
      count := d.count + found.count
      input := if isInput then some "" else d.input
      isOver := q.has "q" && 0 < found.count }
  let search (content : String) : Found :=
    q.search p name source.isTitled (0 < d.count) (sizeOf? s source.name) content
  let isQuiet := q.has "q" || q.has "l" || q.has "L" || q.has "c"
  let isOutput := s.outputFile.isSome && Program.source? s source.name = s.outputFile
  if d.isOver then d
  else
    match Program.content { s with input := d.input } source.name with
    | .error .isDirectory => add (fault FileError.isDirectory.reason) (search "") none
    | .error e => { d with answered := d.answered.followedBy (fault e.reason) }
    | .ok content =>
      if isOutput && !isQuiet && q.most ≠ some 1 then
        { d with answered := d.answered.followedBy (fault "input file is also the output") }
      else
        let rest := if isInput then some (q.leftOver p s.inputFile.isSome content) else none
        add (.ofStatus 0) (search content) rest

end Query

/-- Prints the lines that match. The status is 0 if there are any, 1 if not, 2 after an error. -/
def Program.grep (s : Setting) (args : List String) : Answered :=
  match Query.read s args with
  | .error refused => refused
  | .ok q =>
    if q.has "V" || q.has "help" then .ofStatus 0
    else if q.isIdle then (Answered.ofMessage 0 q.warningText).followedBy (.ofStatus 1)
    else
      match q.pattern with
      | .error refused => (Answered.ofMessage 0 q.warningText).followedBy refused
      | .ok p =>
        let remarks := Answered.ofMessage 0 (q.warningText ++ q.remarks)
        let d := (q.sources s).foldl (q.visit s p) ⟨remarks, 0, s.input, false⟩
        if d.isOver then { d.answered with status := 0 }
        else if d.answered.status = 2 then d.answered
        else { d.answered with status := if 0 < d.count then 0 else 1 }

end TextRepair.Shell
