import TextRepair.Main.Shell.Program
import TextRepair.Main.Shell.Quoting
import TextRepair.Main.Shell.Wildcard

/-!
# Listing directories

The program that lists files and the content of directories: one name a line, in columns, in rows or in
sentences, in several orders. The tree knows no times, owners or places on a disk; where a listing shows
them they are the same for all files.
-/

namespace TextRepair.Shell.Program

/-- How names are set out. -/
inductive Layout where
  | lines
  | columns
  | rows
  | commas
  /-- With what is known about the files. -/
  | details
  deriving DecidableEq, Repr

/-- The order of names. -/
inductive Order where
  | name
  | size
  | version
  | extension
  | width
  /-- The order in which the files were made. -/
  | none
  deriving DecidableEq, Repr

/-- How names are written. -/
inductive Style where
  | literal
  | shell (always escapes : Bool)
  /-- In double quotes, with escapes. -/
  | double
  | escape
  /-- In single quotes, with escapes. -/
  | single
  deriving DecidableEq, Repr

/-- What a listing shows. -/
structure Listing where
  layout : Layout
  order : Order
  style : Style
  reversed : Bool
  recursive : Bool
  /-- Directories are listed like files. -/
  asFiles : Bool
  directoriesFirst : Bool
  /-- Hidden names, and the names of the directory itself and the one around it. -/
  hidden : Bool
  ownNames : Bool
  /-- A slash after directories. -/
  marks : Bool
  /-- A question mark for characters without a visible form. -/
  questionMarks : Bool
  blocks : Bool
  /-- Sizes are rounded up and have units. -/
  units : Bool
  inodes : Bool
  owner : Bool
  group : Bool
  numeric : Bool
  /-- Patterns of names to leave out, and of those to leave out unless hidden ones are shown. -/
  ignored : List String
  ignoredElse : List String
  width : Nat
  tab : Nat
  /-- The end of a line. -/
  lineEnd : String

namespace Listing

def known : Options.Known where
  bare := ['a', 'A', 'b', 'B', 'c', 'C', 'd', 'D', 'f', 'F', 'g', 'G', 'h', 'H', 'i', 'k', 'l', 'L',
    'm', 'n', 'N', 'o', 'p', 'q', 'Q', 'r', 'R', 's', 'S', 't', 'u', 'U', 'v', 'x', 'X', 'Z', '1']
  valued := ['I', 'T', 'w']
  names :=
    [⟨"all", "a", .bare⟩, ⟨"escape", "b", .bare⟩, ⟨"directory", "d", .bare⟩, ⟨"dired", "D", .bare⟩,
      ⟨"full-time", "full-time", .bare⟩,
      ⟨"group-directories-first", "group-directories-first", .bare⟩,
      ⟨"human-readable", "h", .bare⟩, ⟨"inode", "i", .bare⟩, ⟨"kibibytes", "k", .bare⟩,
      ⟨"numeric-uid-gid", "n", .bare⟩, ⟨"no-group", "G", .bare⟩, ⟨"hide-control-chars", "q", .bare⟩,
      ⟨"reverse", "r", .bare⟩, ⟨"size", "s", .bare⟩, ⟨"width", "w", .valued⟩,
      ⟨"almost-all", "A", .bare⟩, ⟨"ignore-backups", "B", .bare⟩, ⟨"classify", "F", .optional⟩,
      ⟨"file-type", "file-type", .bare⟩, ⟨"si", "si", .bare⟩,
      ⟨"dereference-command-line", "H", .bare⟩,
      ⟨"dereference-command-line-symlink-to-dir", "to-dir", .bare⟩, ⟨"dereference", "L", .bare⟩,
      ⟨"hide", "hide", .valued⟩, ⟨"ignore", "I", .valued⟩,
      ⟨"indicator-style", "indicator-style", .valued⟩, ⟨"literal", "N", .bare⟩,
      ⟨"quote-name", "Q", .bare⟩, ⟨"quoting-style", "quoting-style", .valued⟩,
      ⟨"recursive", "R", .bare⟩, ⟨"format", "format", .valued⟩,
      ⟨"show-control-chars", "show-control-chars", .bare⟩, ⟨"sort", "sort", .valued⟩,
      ⟨"tabsize", "T", .valued⟩, ⟨"time", "time", .valued⟩, ⟨"time-style", "time-style", .valued⟩,
      ⟨"zero", "zero", .bare⟩, ⟨"color", "color", .optional⟩, ⟨"hyperlink", "hyperlink", .optional⟩,
      ⟨"block-size", "block-size", .valued⟩, ⟨"context", "Z", .bare⟩, ⟨"author", "author", .bare⟩,
      ⟨"help", "help", .bare⟩, ⟨"version", "version", .bare⟩]

/-- The listing without any options, for lines of `width` characters. -/
def standard (width : Nat) : Listing where
  layout := .lines
  order := .name
  style := .literal
  reversed := false
  recursive := false
  asFiles := false
  directoriesFirst := false
  hidden := false
  ownNames := false
  marks := false
  questionMarks := false
  blocks := false
  units := false
  inodes := false
  owner := true
  group := true
  numeric := false
  ignored := []
  ignoredElse := []
  width
  tab := 8
  lineEnd := "\n"

/-- A number in decimal, or in another base after a prefix. -/
def number? (text : String) : Option Nat :=
  match text.toList with
  | '0' :: 'x' :: digits =>
    let isHex (c : Char) : Bool := c.isDigit || ('a' ≤ c.toLower && c.toLower ≤ 'f')
    let value (c : Char) : Nat :=
      if c.isDigit then c.toNat - '0'.toNat else c.toLower.toNat - 'a'.toNat + 10
    if !digits.isEmpty && digits.all isHex then some (digits.foldl (fun n c => 16 * n + value c) 0)
    else none
  | digits => Text.natOfDigits? digits

/-- The words that say a layout. -/
def layoutWords : List (List String) :=
  [["verbose", "long"], ["commas"], ["horizontal", "across"], ["vertical"], ["single-column"]]

/-- The words that say an order. -/
def orderWords : List (List String) :=
  [["none"], ["time"], ["size"], ["extension"], ["version"], ["width"]]

/-- The words that say what stands after names. -/
def markWords : List (List String) :=
  [["none"], ["slash"], ["file-type"], ["classify"]]

/-- The words that say how names are written. -/
def styleWords : List (List String) :=
  [["literal"], ["shell"], ["shell-always"], ["shell-escape"], ["shell-escape-always"], ["c"],
    ["c-maybe"], ["escape"], ["locale"], ["clocale"]]

/-- The words that say when something is done. -/
def whenWords : List (List String) :=
  [["always", "yes", "force"], ["never", "no", "none"], ["auto", "tty", "if-tty"]]

/-- The words that say a time. -/
def timeWords : List (List String) :=
  [["atime", "access", "use"], ["ctime", "status"], ["mtime", "modification"], ["birth", "creation"]]

/-- The word that the value of an option stands for, or what is wrong with it. -/
def word (option value : String) (valid : List (List String)) : Except Answered String :=
  match validWord? valid value with
  | some word => .ok word
  | none =>
    .error (failing 1 (validWords "ls" ("--" ++ option) value valid ++
      "Try " ++ Options.inQuotes "ls --help" ++ " for more information."))

/-- A listing with another layout. Single names do not undo details. -/
def layOut (l : Listing) (layout : Layout) : Listing :=
  if layout = .lines && l.layout = .details then l else { l with layout }

/-- A listing with the word of an option. -/
def withWord (l : Listing) (option word : String) : Listing :=
  if option = "format" then
    { l with layout :=
        if word = "verbose" then .details
        else if word = "commas" then .commas
        else if word = "horizontal" then .rows
        else if word = "vertical" then .columns
        else .lines }
  else if option = "sort" then
    { l with order :=
        if word = "none" then .none
        else if word = "size" then .size
        else if word = "extension" then .extension
        else if word = "version" then .version
        else if word = "width" then .width
        else .name }
  else if option = "quoting-style" then
    { l with style :=
        if word = "shell" then .shell false false
        else if word = "shell-always" then .shell true false
        else if word = "shell-escape" then .shell false true
        else if word = "shell-escape-always" then .shell true true
        else if word = "c" || word = "c-maybe" then .double
        else if word = "escape" then .escape
        else if word = "locale" || word = "clocale" then .single
        else .literal }
  else { l with marks := word ≠ "none" }

/-- A listing with one more option, or what is wrong with that. -/
def withOption (l : Listing) (g : Options.Given) : Except Answered Listing :=
  match g.key with
  | "a" | "f" =>
    .ok { l with hidden := true, ownNames := true, order := if g.key = "f" then .none else l.order }
  | "A" => .ok { l with hidden := true, ownNames := false }
  | "b" => .ok { l with style := .escape }
  | "B" => .ok { l with ignored := "*~" :: ".*~" :: l.ignored }
  | "C" => .ok (l.layOut .columns)
  | "x" => .ok (l.layOut .rows)
  | "m" => .ok (l.layOut .commas)
  | "1" => .ok (l.layOut .lines)
  | "l" | "full-time" => .ok (l.layOut .details)
  | "n" => .ok { l.layOut .details with numeric := true }
  | "g" => .ok { l.layOut .details with owner := false }
  | "o" => .ok { l.layOut .details with group := false }
  | "G" => .ok { l with group := false }
  | "zero" => .ok { l with layout := .lines, lineEnd := "\x00", style := .literal }
  | "d" => .ok { l with asFiles := true }
  | "F" =>
    if g.value.isEmpty then .ok { l with marks := true }
    else (word "classify" g.value whenWords).map fun word => { l with marks := word = "always" }
  | "p" | "file-type" => .ok { l with marks := true }
  | "q" => .ok { l with questionMarks := true }
  | "show-control-chars" => .ok { l with questionMarks := false }
  | "Q" => .ok { l with style := .double }
  | "N" => .ok { l with style := .literal }
  | "i" => .ok { l with inodes := true }
  | "s" => .ok { l with blocks := true }
  | "h" => .ok { l with units := true }
  | "r" => .ok { l with reversed := true }
  | "R" => .ok { l with recursive := true }
  | "S" => .ok { l with order := .size }
  | "t" => .ok { l with order := .name }
  | "U" => .ok { l with order := .none }
  | "v" => .ok { l with order := .version }
  | "X" => .ok { l with order := .extension }
  | "group-directories-first" => .ok { l with directoriesFirst := true }
  | "I" => .ok { l with ignored := g.value :: l.ignored }
  | "hide" => .ok { l with ignoredElse := g.value :: l.ignoredElse }
  | "w" =>
    match number? g.value with
    | some width => .ok { l with width }
    | none => .error (failing 2 s!"ls: invalid line width: {Options.inQuotes g.value}")
  | "T" =>
    match number? g.value with
    | some tab => .ok { l with tab }
    | none => .error (failing 2 s!"ls: invalid tab size: {Options.inQuotes g.value}")
  | "format" => (word g.key g.value layoutWords).map (l.withWord g.key)
  | "sort" => (word g.key g.value orderWords).map (l.withWord g.key)
  | "quoting-style" => (word g.key g.value styleWords).map (l.withWord g.key)
  | "indicator-style" => (word g.key g.value markWords).map (l.withWord g.key)
  | "time" => (word g.key g.value timeWords).map fun _ => l
  | "color" | "hyperlink" =>
    if g.value.isEmpty then .ok l else (word g.key g.value whenWords).map fun _ => l
  | _ => .ok l

/-- The listing that options ask for. -/
def ofOptions (s : Setting) (options : List Options.Given) : Except Answered Listing :=
  let width := ((s.environment.find? (·.1 = "COLUMNS")).bind fun v => number? v.2).getD 80
  options.foldlM withOption (standard width)

/-! ## Names -/

/-- A file in a listing. -/
structure File where
  name : String
  node : Node

/-- Whether a file is a directory. -/
def File.isDirectory (f : File) : Bool :=
  match f.node with
  | .directory => true
  | .file _ => false

/-- The size of a file in bytes. -/
def File.size (f : File) : Nat :=
  match f.node with
  | .directory => 4096
  | .file content => content.size

/-- The kibibytes that a file takes up. -/
def File.blocks (f : File) : Nat :=
  4 * ((f.size + 4095) / 4096)

/-- Whether a character has a visible form. -/
def isVisible (c : Char) : Bool :=
  32 ≤ c.toNat && c.toNat < 127

/-- A text with escapes after backslashes; `quoted` are the characters to escape besides. -/
def escaped (quoted : List Char) (text : String) : String :=
  String.ofList <| text.toList.flatMap fun c =>
    if !isVisible c then Quoting.writtenOut c
    else if c = '\\' || quoted.contains c then ['\\', c]
    else [c]

/-- A name as it is written. -/
def written (l : Listing) (name : String) : String :=
  match l.style with
  | .literal =>
    if l.questionMarks then name.map fun c => if isVisible c then c else '?' else name
  | .double => "\"" ++ escaped ['"'] name ++ "\""
  | .single => Options.inQuotes (escaped [Quoting.quote] name)
  | .escape => escaped [' '] name
  | .shell always escapes =>
    let isOdd (c : Char) (place : Nat) : Bool :=
      Quoting.roleOf place name.length c ≠ .plain
    let cs := name.toList
    if !always && !cs.isEmpty && cs.zipIdx.all fun (c, place) => !isOdd c place then name
    else if escapes || cs.all isVisible then Quoting.always name
    else Options.inQuotes name

/-- The name of a file with its mark. -/
def marked (l : Listing) (f : File) : String :=
  l.written f.name ++ if l.marks && f.isDirectory then "/" else ""

/-- A number of bytes in the first of some units in which it has at most four digits, rounded up; `size` is
the size of the first unit. -/
def inUnits (n size : Nat) : List Char → String
  | [] => toString n
  | unit :: units =>
    let tenths := (10 * n + size - 1) / size
    let whole := (n + size - 1) / size
    if tenths < 100 then s!"{tenths / 10}.{tenths % 10}" ++ String.singleton unit
    else if whole < 1024 || units.isEmpty then toString whole ++ String.singleton unit
    else inUnits n (1024 * size) units

/-- A number of bytes. -/
def amount (l : Listing) (n : Nat) : String :=
  if l.units && 1024 ≤ n then inUnits n 1024 ['K', 'M', 'G', 'T', 'P', 'E'] else toString n

/-- A number of kibibytes on a disk. -/
def blockAmount (l : Listing) (n : Nat) : String :=
  if l.units then l.amount (1024 * n) else toString n

/-- The length of the longest of some texts. -/
def longest (texts : List String) : Nat :=
  (texts.map String.length).foldl max 0

/-- The numbers in front of a file among others. -/
def numbers (l : Listing) (files : List File) (f : File) : String :=
  let width := if l.layout = .commas then 0 else longest (files.map fun f => l.blockAmount f.blocks)
  (if l.inodes then "1 " else "") ++
    if l.blocks then flushRight width (l.blockAmount f.blocks) ++ " " else ""

/-- A file as it stands in a listing without details. -/
def shown (l : Listing) (files : List File) (f : File) : String :=
  l.numbers files f ++ l.marked f

/-- The number of columns that a text takes up. -/
def widthOf (text : String) : Nat :=
  (text.toList.filter isVisible).length

/-! ## Order -/

/-- The place of a character among others that are no digits. -/
def rank (c : Char) : Int :=
  if c = '~' then -1 else if c.isAlpha then c.toNat else c.toNat + 256

/-- Compares texts that may hold numbers, of which the greater one comes later. -/
def compareVersions : (fuel : Nat) → List Char → List Char → Ordering
  | 0, _, _ => .eq
  | fuel + 1, a, b =>
    if a.isEmpty && b.isEmpty then .eq
    else
      let next (cs : List Char) : Int :=
        match cs with
        | c :: _ => if c.isDigit then 0 else rank c
        | [] => 0
      if next a ≠ next b then compare (next a) (next b)
      else if next a ≠ 0 then compareVersions fuel (a.drop 1) (b.drop 1)
      else
        let digits (cs : List Char) : List Char := (cs.dropWhile (· = '0')).takeWhile Char.isDigit
        let rest (cs : List Char) : List Char := (cs.dropWhile (· = '0')).dropWhile Char.isDigit
        let value (cs : List Char) : Nat := (Text.natOfDigits? (digits cs)).getD 0
        if value a ≠ value b then compare (value a) (value b)
        else compareVersions fuel (rest a) (rest b)

/-- The start of a name in front of its extensions. -/
def stem : List Char → List Char
  | [] => []
  | c :: cs =>
    let isPart (part : List Char) : Bool :=
      match part with
      | d :: ds => (d.isAlpha || d = '~') && ds.all fun e => e.isAlphanum || e = '~'
      | [] => false
    if c = '.' && ((String.ofList cs).splitOn ".").all fun part => isPart part.toList then []
    else c :: stem cs

/-- Compares names by the numbers in them. -/
def compareNames (a b : String) : Ordering :=
  let cmp (a b : List Char) : Ordering := compareVersions (a.length + b.length + 1) a b
  let hidden (s : String) : Nat :=
    if s = "." then 0 else if s = ".." then 1 else if s.startsWith "." then 2 else 3
  (compare (hidden a) (hidden b)).then <|
    (cmp (stem a.toList) (stem b.toList)).then <| (cmp a.toList b.toList).then (compare a b)

/-- The extension of a name with its dot. -/
def extension (name : String) : String :=
  let last := (name.toList.reverse.takeWhile (· ≠ '.')).reverse
  if last.length = name.length then "" else String.ofList ('.' :: last)

/-- Compares files. -/
def compareFiles (l : Listing) (a b : File) : Ordering :=
  let byName := compare a.name b.name
  match l.order with
  | .name => byName
  | .size => (compare b.size a.size).then byName
  | .version => compareNames a.name b.name
  | .extension => (compare (extension a.name) (extension b.name)).then byName
  | .width => (compare (widthOf (l.written a.name)) (widthOf (l.written b.name))).then byName
  | .none => .eq

/-- Files in their order. -/
def sorted (l : Listing) (files : List File) : List File :=
  let ordered := files.mergeSort fun a b =>
    if l.reversed && l.order ≠ .none then l.compareFiles b a ≠ .gt else l.compareFiles a b ≠ .gt
  if l.directoriesFirst && l.order ≠ .none then
    ordered.filter File.isDirectory ++ ordered.filter (!·.isDirectory)
  else ordered

/-! ## Setting out -/

/-- Blanks from one column to another one. -/
def indent (tab : Nat) : (fuel : Nat) → (start stop : Nat) → String
  | 0, _, _ => ""
  | fuel + 1, start, stop =>
    if stop ≤ start then ""
    else if tab ≠ 0 && (start + 1) / tab < stop / tab then
      "\t" ++ indent tab fuel (start + tab - start % tab) stop
    else " " ++ indent tab fuel (start + 1) stop

/-- The widths of `count` columns in which `place` puts names with their places, with a gap of two after
each but the last. -/
def columnWidths (count : Nat) (place : Nat → Nat) (names : List String) : List Nat :=
  (List.range count).map fun column =>
    let own := names.zipIdx.filter fun (_, i) => place i = column
    let gap := if column + 1 = count then 0 else 2
    (own.map fun (name, _) => widthOf name + gap).foldl max 3

/-- The widths of as many columns as fit into a line. -/
def fitting (l : Listing) (names : List String) (place : (count : Nat) → Nat → Nat) : List Nat :=
  let counts := (List.range (min (l.width / 3) names.length)).map (· + 1)
  let fits (count : Nat) : Option (List Nat) :=
    let widths := columnWidths count (place count) names
    if count = 1 || widths.foldl (· + ·) 0 < l.width then some widths else none
  (counts.reverse.findSome? fits).getD [0]

/-- A line of names that stand in columns; `start` is the column at which it starts. -/
def line (l : Listing) (start : Nat) : List (String × Nat) → String
  | [] => l.lineEnd
  | [(name, _)] => name ++ l.lineEnd
  | (name, width) :: rest =>
    name ++ indent l.tab width (start + widthOf name) (start + width) ++ line l (start + width) rest

/-- Names separated by `mark`, with line ends where a line gets too long; `used` is what the line has. -/
def sentence (l : Listing) (mark : String) (used : Nat) : List String → String
  | [] => ""
  | name :: rest =>
    if used + widthOf name + 2 < l.width || l.width = 0 then
      mark ++ " " ++ name ++ sentence l mark (used + widthOf name + 2) rest
    else mark ++ l.lineEnd ++ name ++ sentence l mark (widthOf name) rest

/-- The details of a file among others; `links` tells how often one stands in directories. -/
def details (l : Listing) (links : File → Nat) (files : List File) (f : File) : String :=
  let widest (text : File → String) : Nat := longest (files.map text)
  let size (f : File) : String := l.amount f.size
  let count (f : File) : String := toString (links f)
  let user := if l.numeric then "0 " else "root "
  String.join
    [l.numbers files f, if f.isDirectory then "drwxr-xr-x " else "-rw-r--r-- ",
      flushRight (widest count) (count f), " ", if l.owner then user else "",
      if l.group then user else "", flushRight (widest size) (size f), " Jan  1 00:00 ", l.marked f]

/-- Files set out; `links` tells how often a file stands in directories. -/
def setOut (l : Listing) (links : File → Nat) (files : List File) : String :=
  let names := files.map (l.shown files)
  if files.isEmpty then ""
  else
    match l.layout with
    | .lines => String.join (names.map (· ++ l.lineEnd))
    | .commas =>
      String.join (names.take 1) ++
        sentence l "," ((names.take 1).map widthOf |>.foldl max 0) (names.drop 1) ++ l.lineEnd
    | .details =>
      String.join (files.map fun f => l.details links files f ++ l.lineEnd)
    | .columns =>
      if l.width = 0 then String.join (names.take 1) ++ sentence l " " 0 (names.drop 1) ++ l.lineEnd
      else
        let height (count : Nat) : Nat := (names.length + count - 1) / count
        let widths := l.fitting names fun count i => i / height count
        let rows := (names.length + widths.length - 1) / widths.length
        String.join <| (List.range rows).map fun row =>
          let own := names.zipIdx.filter fun (_, i) => i % rows = row
          l.line 0 ((own.map Prod.fst).zip widths)
    | .rows =>
      if l.width = 0 then String.join (names.take 1) ++ sentence l " " 0 (names.drop 1) ++ l.lineEnd
      else
        let widths := l.fitting names fun count i => i % count
        let count := max widths.length 1
        String.join <| (List.range ((names.length + count - 1) / count)).map fun row =>
          l.line 0 (((names.drop (row * count)).take count).zip widths)

/-! ## Directories -/

/-- The files that a listing shows of a directory. -/
def inside (l : Listing) (s : Setting) (p : Path) : List File :=
  let names := s.names p
  let names := if l.ownNames then "." :: ".." :: names else names
  let isShown (name : String) : Bool :=
    (l.hidden || !name.startsWith ".") && !l.ignored.any (Wildcard.acceptsName · name) &&
      (l.hidden || !l.ignoredElse.any (Wildcard.acceptsName · name))
  let node (name : String) : Node :=
    if name = "." || name = ".." then .directory
    else (s.tree.node? (p ++ [Bytes.toName name])).getD .directory
  l.sorted ((names.filter isShown).map fun name => ⟨name, node name⟩)

/-- How often a file in a directory stands in directories. -/
def links (s : Setting) (p : Path) (f : File) : Nat :=
  if !f.isDirectory then 1
  else
    let own :=
      if f.name = "." then p else if f.name = ".." then p.dropLast else p ++ [Bytes.toName f.name]
    let isDirectory (name : String) : Bool :=
      match s.tree.node? (own ++ [name]) with
      | some .directory => true
      | _ => false
    2 + ((s.tree.names own).filter isDirectory).length

/-- The content of a directory, and of those in it if wanted; each under its name if `titled`. -/
def directory (l : Listing) (s : Setting) : (fuel : Nat) → (titled : Bool) → String → Path → List String
  | 0, _, _, _ => []
  | fuel + 1, titled, name, p =>
    let files := l.inside s p
    let total := (files.map File.blocks).foldl (· + ·) 0
    let head :=
      (if titled then l.written name ++ ":" ++ l.lineEnd else "") ++
        if l.layout = .details || l.blocks then s!"total {l.blockAmount total}" ++ l.lineEnd else ""
    let inner :=
      if l.recursive then
        files.filter fun f => f.isDirectory && f.name ≠ "." && f.name ≠ ".."
      else []
    (head ++ l.setOut (links s p) files) :: inner.flatMap fun f =>
      directory l s fuel true (if name.endsWith "/" then name ++ f.name else name ++ "/" ++ f.name)
        (p ++ [Bytes.toName f.name])

end Listing

/-- Lists files and then directories, the latter under their names if there are several operands. -/
def ls (s : Setting) (args : List String) : Answered :=
  let r := Options.read Listing.known args
  match Listing.ofOptions s r.options, r.fault with
  | .error refused, _ => refused
  | .ok _, some reason => misused 2 "ls" reason
  | .ok l, none =>
    let names := if r.operands.isEmpty then ["."] else r.operands
    let missing := names.filterMap fun name =>
      match s.resolve name with
      | .error e => some (failing 2 s!"ls: cannot access {Quoting.always name}: {e.reason}")
      | .ok p =>
        if (s.tree.node? p).isSome then none
        else some (failing 2 s!"ls: cannot access {Quoting.always name}: {FileError.notFound.reason}")
    let found := names.filterMap fun name => (s.node? name).map fun node => (⟨name, node⟩ : Listing.File)
    let isListed (f : Listing.File) : Bool := l.asFiles || !f.isDirectory
    let pathOf (name : String) : Path := (s.resolve name).toOption.getD []
    let files := l.sorted (found.filter isListed)
    let directories := l.sorted (found.filter (!isListed ·))
    let titled := 1 < names.length || l.recursive
    let linksOf (f : Listing.File) : Nat :=
      if f.isDirectory then
        Listing.links s (pathOf f.name).dropLast ⟨Bytes.ofName ((pathOf f.name).getLastD ""), f.node⟩
      else 1
    let blocks := (if files.isEmpty then [] else [l.setOut linksOf files]) ++
      directories.flatMap fun f =>
        l.directory s (s.tree.entries.length + 1) titled f.name (pathOf f.name)
    .all (missing ++ [.ofOutput (l.lineEnd.intercalate blocks)])

end TextRepair.Shell.Program
