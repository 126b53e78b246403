import TextRepair.Digest
import TextRepair.Event
import TextRepair.FileTree
import TextRepair.Json.Printer
import TextRepair.Json.Reader
import TextRepair.Stored.Session

/-!
# Session records on disk

Each session has a directory under the root of its recording. It holds one file for each cycle, the
result with its digest, and a manifest that names the cycle files and the result with their digests.

* `Recording.recordCycle`, `recordResult` : writing.
* `Recording.readResult`, `readManifest` : reading; a result must agree with its digest.
-/

namespace TextRepair

/-- A file of a session and its digest. -/
structure ManifestEntry where
  file : String
  digest : String
  deriving DecidableEq, Repr, Inhabited

namespace ManifestEntry

def toJson (e : ManifestEntry) : Json :=
  .object [("file", .text e.file), ("digest", .text e.digest)]

open Decoder RecordReader in
def ofJson : Decoder ManifestEntry := record do
  return {
    file := ← required "file" text
    digest := ← required "digest" text }

end ManifestEntry

/-- The list of the files of a session. -/
structure Manifest where
  sessionId : String
  outcome : String
  cyclesUsed : Nat
  files : List ManifestEntry
  writtenAt : Timestamp
  deriving Repr

namespace Manifest

def toJson (m : Manifest) : Json :=
  .object [
    ("session_id", .text m.sessionId),
    ("outcome", .text m.outcome),
    ("cycles_used", .nat m.cyclesUsed),
    ("files", .listOf ManifestEntry.toJson m.files),
    ("written_at", m.writtenAt.toJson)]

open Decoder RecordReader in
def ofJson : Decoder Manifest := record do
  return {
    sessionId := ← required "session_id" text
    outcome := ← required "outcome" text
    cyclesUsed := ← required "cycles_used" (word UInt32.size)
    files := ← required "files" (list ManifestEntry.ofJson)
    writtenAt := ← required "written_at" Timestamp.ofJson }

end Manifest

/-- The value of a JSON text in a file. -/
def decodeFile {α : Type} (decoder : Decoder α) (content : ByteArray) : Option α :=
  (String.fromUTF8? content).bind fun text => (Json.read? text).bind decoder.ofValue?

/-- A name inside a directory; an absolute name stands for itself. -/
def joinName (directory name : String) : String :=
  if name.startsWith "/" || directory.isEmpty then name
  else if directory.endsWith "/" then directory ++ name
  else directory ++ "/" ++ name

/-- Where sessions are recorded: the name of a directory, and the directory in which that name
starts. -/
structure Recording where
  cwd : Path
  root : String

namespace Recording

/-- Something that uses the files of a recording. -/
abbrev OnFiles (α : Type) := ExceptT RecordError (StateM FileTree) α

/-- A change of the files that can fail. -/
def change (f : FileTree → Except FileError FileTree) : OnFiles Unit := do
  match f (← get) with
  | .ok tree => set tree
  | .error e => throw (.io e.message)

/-- A look at the files that can fail. -/
def look {α : Type} (f : FileTree → Except FileError α) : OnFiles α := do
  match f (← get) with
  | .ok a => return a
  | .error e => throw (.io e.message)

/-- The directory of a session. -/
def directory (r : Recording) (sessionId : String) : String :=
  joinName r.root sessionId

/-- The name of a file of a session. -/
def fileName (r : Recording) (sessionId name : String) : String :=
  joinName (r.directory sessionId) name

/-- Writes a file of a session. -/
def writeFile (r : Recording) (sessionId name text : String) : OnFiles Unit :=
  change (·.writeText r.cwd (r.fileName sessionId name) text)

/-- The number of a cycle with at least three digits. -/
def padded (n : Nat) : String :=
  let digits := Decimal.digitsOf n
  String.ofList (Decimal.zeros (3 - digits.length) ++ digits)

/-- The name of the file of a cycle. -/
def cycleName (index : Nat) : String :=
  s!"cycle-{padded index}.json"

/-- The name of the file of the result. -/
def resultName : String := "result.json"

/-- Whether a name is the name of a file of a cycle. -/
def isCycleName (name : String) : Bool :=
  name.startsWith "cycle-" && name.endsWith ".json"

/-- Writes the file of a cycle. -/
def recordCycle (r : Recording) (sessionId : String) (cycle : Cycle) : OnFiles Unit := do
  change (·.makeDirs r.cwd (r.directory sessionId))
  r.writeFile sessionId (cycleName cycle.index) cycle.toJson.pretty

/-- The names in the directory of a session. -/
def namesIn (r : Recording) (sessionId : String) (tree : FileTree) : Except FileError (List String) :=
  (tree.resolve r.cwd (r.directory sessionId)).map tree.names

/-- The entry of a file in the manifest. -/
def entryOf (r : Recording) (sessionId name : String) (tree : FileTree) :
    Except FileError ManifestEntry :=
  (tree.read r.cwd (r.fileName sessionId name)).map fun content =>
    { file := name, digest := Digest.ofBytes content.toList }

/-- Writes the result, its digest, and the manifest: the cycle files in the order of their names, then
the result. -/
def recordResult (r : Recording) (now : Timestamp) (result : SessionResult) : OnFiles Unit := do
  let id := result.sessionId
  let text := result.toJson.pretty
  let digest := Digest.ofText text
  change (·.makeDirs r.cwd (r.directory id))
  r.writeFile id resultName text
  r.writeFile id "result.digest" digest
  let names ← look (r.namesIn id)
  let entries ← (names.filter isCycleName).mapM fun name => look (r.entryOf id name)
  let manifest : Manifest := {
    sessionId := id
    outcome := result.outcome.name
    cyclesUsed := result.cyclesUsed
    files := entries ++ [{ file := resultName, digest }]
    writtenAt := now }
  r.writeFile id "manifest.json" manifest.toJson.pretty

/-- Reads a result that agrees with its digest. -/
def readResult (r : Recording) (sessionId : String) : OnFiles SessionResult := do
  let content ← look (·.read r.cwd (r.fileName sessionId resultName))
  let stored ← look (·.readText r.cwd (r.fileName sessionId "result.digest"))
  let expected := Text.trim stored
  let actual := Digest.ofBytes content.toList
  if expected ≠ actual then throw (.digestMismatch expected actual)
  match decodeFile SessionResult.ofJson content with
  | some result => return result
  | none => throw (.serialization "not the result of a session")

/-- Reads a manifest. -/
def readManifest (r : Recording) (sessionId : String) : OnFiles Manifest := do
  let content ← look (·.read r.cwd (r.fileName sessionId "manifest.json"))
  match decodeFile Manifest.ofJson content with
  | some manifest => return manifest
  | none => throw (.serialization "not a manifest")

end Recording

end TextRepair
