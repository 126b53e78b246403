/-!
# File trees

The part of a file system that a run can see: directories and files by their path from the root, and
a directory in which relative names start.
-/

namespace TextRepair

/-- Why a file operation fails. -/
inductive FileError where
  | notFound
  | alreadyThere
  | notDirectory
  | isDirectory
  | denied
  /-- The file is not open. -/
  | closed
  /-- The file stands for a device that is not there. -/
  | noDevice
  /-- The content is not a text in UTF-8. -/
  | notText
  /-- An argument of a program has a zero byte. -/
  | zeroByte
  deriving DecidableEq, Repr

namespace FileError

/-- The text for a user, without the number of the error. -/
def reason : FileError → String
  | notFound => "No such file or directory"
  | alreadyThere => "File exists"
  | notDirectory => "Not a directory"
  | isDirectory => "Is a directory"
  | denied => "Permission denied"
  | closed => "Bad file descriptor"
  | noDevice => "No such device or address"
  | notText => "stream did not contain valid UTF-8"
  | zeroByte => "nul byte found in provided data"

def message : FileError → String
  | notText => notText.reason
  | zeroByte => zeroByte.reason
  | notFound => s!"{notFound.reason} (os error 2)"
  | noDevice => s!"{noDevice.reason} (os error 6)"
  | closed => s!"{closed.reason} (os error 9)"
  | denied => s!"{denied.reason} (os error 13)"
  | alreadyThere => s!"{alreadyThere.reason} (os error 17)"
  | notDirectory => s!"{notDirectory.reason} (os error 20)"
  | isDirectory => s!"{isDirectory.reason} (os error 21)"

end FileError

/-- The names on the way from the root. -/
abbrev Path := List String

/-- What a path leads to. -/
inductive Node where
  | directory
  | file (content : ByteArray)

/-- Directories and files, the root left out, in the order in which they were made. -/
structure FileTree where
  entries : List (Path × Node)
  deriving Inhabited

namespace FileTree

/-- What a path leads to; the root is always there. -/
def node? (t : FileTree) (p : Path) : Option Node :=
  if p.isEmpty then some .directory else (t.entries.find? (·.1 = p)).map Prod.snd

/-- The tree with something put at a path. -/
def put (t : FileTree) (p : Path) (node : Node) : FileTree :=
  if t.entries.any (·.1 = p) then
    ⟨t.entries.map fun entry => if entry.1 = p then (p, node) else entry⟩
  else ⟨t.entries ++ [(p, node)]⟩

/-- The tree without what a path leads to. -/
def drop (t : FileTree) (p : Path) : FileTree :=
  ⟨t.entries.filter (·.1 ≠ p)⟩

/-- The parts of a name between slashes. -/
def splitName (current : List Char) : List Char → List String
  | [] => [String.ofList current.reverse]
  | c :: cs =>
    if c = '/' then String.ofList current.reverse :: splitName [] cs
    else splitName (c :: current) cs

/-- Goes from directory `p` along the given parts. The last one need not exist. -/
def walk (t : FileTree) (p : Path) : List String → Except FileError Path
  | [] => .ok p
  | part :: rest =>
    match t.node? p with
    | none => .error .notFound
    | some (.file _) => .error .notDirectory
    | some .directory =>
      if part = "" ∨ part = "." then walk t p rest
      else if part = ".." then walk t p.dropLast rest
      else walk t (p ++ [part]) rest

/-- The path of a name, relative ones starting at `cwd`. -/
def resolve (t : FileTree) (cwd : Path) (name : String) : Except FileError Path :=
  if name.isEmpty then .error .notFound
  else if name.startsWith "/" then t.walk [] (splitName [] name.toList)
  else t.walk cwd (splitName [] name.toList)

/-- The content of the file at a path. -/
def readAt (t : FileTree) (p : Path) : Except FileError ByteArray :=
  match t.node? p with
  | none => .error .notFound
  | some .directory => .error .isDirectory
  | some (.file content) => .ok content

/-- The content of a file. -/
def read (t : FileTree) (cwd : Path) (name : String) : Except FileError ByteArray := do
  t.readAt (← t.resolve cwd name)

/-- The content of a file as a text. -/
def readText (t : FileTree) (cwd : Path) (name : String) : Except FileError String := do
  match String.fromUTF8? (← t.read cwd name) with
  | some text => .ok text
  | none => .error .notText

/-- Writes a file into an existing directory. -/
def writeAt (t : FileTree) (p : Path) (content : ByteArray) : Except FileError FileTree :=
  match t.node? p.dropLast, t.node? p with
  | none, _ => .error .notFound
  | some (.file _), _ => .error .notDirectory
  | some .directory, some .directory => .error .isDirectory
  | some .directory, _ => .ok (t.put p (.file content))

/-- Writes a file. -/
def write (t : FileTree) (cwd : Path) (name : String) (content : ByteArray) :
    Except FileError FileTree := do
  t.writeAt (← t.resolve cwd name) content

/-- Writes a text to a file. -/
def writeText (t : FileTree) (cwd : Path) (name text : String) : Except FileError FileTree :=
  t.write cwd name text.toUTF8

/-- Makes the directories that are missing on the way along `parts` from `p`. -/
def makeDirsFrom (t : FileTree) (p : Path) : List String → Except FileError FileTree
  | [] => .ok t
  | part :: rest =>
    if part = "" ∨ part = "." then makeDirsFrom t p rest
    else if part = ".." then makeDirsFrom t p.dropLast rest
    else
      match t.node? (p ++ [part]) with
      | some (.file _) => .error (if rest.isEmpty then .alreadyThere else .notDirectory)
      | some .directory => makeDirsFrom t (p ++ [part]) rest
      | none => makeDirsFrom (t.put (p ++ [part]) .directory) (p ++ [part]) rest

/-- Makes a directory and those on the way to it. -/
def makeDirs (t : FileTree) (cwd : Path) (name : String) : Except FileError FileTree :=
  t.makeDirsFrom (if name.startsWith "/" then [] else cwd) (splitName [] name.toList)

/-- Removes a file. -/
def remove (t : FileTree) (cwd : Path) (name : String) : Except FileError FileTree := do
  let p ← t.resolve cwd name
  match t.node? p with
  | none => .error .notFound
  | some .directory => .error .isDirectory
  | some (.file _) => .ok (t.drop p)

/-- The names in the directory at a path, in the order of their code points. -/
def names (t : FileTree) (p : Path) : List String :=
  let found := t.entries.filterMap fun entry =>
    if entry.1.length = p.length + 1 && p.isPrefixOf entry.1 then entry.1.getLast? else none
  found.mergeSort fun a b => !decide (b < a)

/-- The files under a directory by their names relative to it, in the order of their code points. -/
def filesUnder (t : FileTree) (p : Path) : List (String × ByteArray) :=
  let found := t.entries.filterMap fun entry =>
    match entry.2 with
    | .file content =>
      if p.isPrefixOf entry.1 then some ("/".intercalate (entry.1.drop p.length), content) else none
    | .directory => none
  found.mergeSort fun a b => !decide (b.1 < a.1)

end FileTree

end TextRepair
