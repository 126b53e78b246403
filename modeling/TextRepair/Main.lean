import TextRepair.CommandLine.Run
import TextRepair.Main.Shell.Run

/-!
# The program

Reads the files below the current directory, those named by the arguments, and the environment; runs
the command line on them; then writes back the files that have changed.

The command line is given a launcher for the check commands. It stands in for the operating system: the
modules below `Main.Shell` run a command on the files that have been read. Nothing but this module imports
them, and no result is about them.
-/

namespace TextRepair.Main

/-- The path of an absolute name. -/
def pathOf (name : String) : Path :=
  (name.splitOn "/").filter (!·.isEmpty)

/-- The absolute name of a path. -/
def nameOf (p : Path) : String :=
  "/" ++ "/".intercalate p

/-- A tree with a directory and those around it. -/
def withDirectory (tree : FileTree) (p : Path) : FileTree :=
  (List.range p.length).foldl (fun tree n => tree.put (p.take (n + 1)) .directory) tree

/-- A tree with a file and the directories around it. -/
def withFile (tree : FileTree) (p : Path) (content : ByteArray) : FileTree :=
  (withDirectory tree p.dropLast).put p (.file content)

/-- Adds what lies below a directory. Hidden entries and files that cannot be read are left out. -/
partial def gather (p : Path) (tree : FileTree) : IO FileTree := do
  let mut tree := withDirectory tree p
  for entry in ← (← IO.FS.realPath (nameOf p)).readDir do
    if !entry.fileName.startsWith "." then
      let inner := p ++ [entry.fileName]
      match (← entry.path.symlinkMetadata).type with
      | .dir => tree ← gather inner tree
      | .file =>
        match ← (IO.FS.readBinFile (nameOf inner)).toBaseIO with
        | .ok content => tree := tree.put inner (.file content)
        | .error _ => pure ()
      | _ => pure ()
  return tree

/-- Adds the file that an argument names, if there is one. -/
def addNamed (tree : FileTree) (arg : String) : IO FileTree := do
  let name := ((arg.splitOn "=").getLast?).getD arg
  match ← (IO.FS.realPath name).toBaseIO with
  | .error _ => return tree
  | .ok found =>
    match ← (IO.FS.readBinFile found).toBaseIO with
    | .error _ => return tree
    | .ok content => return withFile tree (pathOf found.toString) content

/-- Writes the files that have changed, and removes those that are gone. -/
def writeBack (before after : FileTree) : IO Unit := do
  for (p, node) in after.entries do
    match node, before.node? p with
    | .file content, some (.file old) =>
      if content.data ≠ old.data then IO.FS.writeBinFile (nameOf p) content
    | .file content, _ => IO.FS.writeBinFile (nameOf p) content
    | .directory, none => IO.FS.createDirAll (nameOf p)
    | .directory, some _ => pure ()
  for (p, node) in before.entries do
    match node, after.node? p with
    | .file _, none => IO.FS.removeFile (nameOf p)
    | _, _ => pure ()

/-- A fresh identifier: random, with the marks of its version and variant. -/
def freshId : IO String := do
  let bytes := (← IO.getRandomBytes 16).toList.zipIdx.map fun (b, i) =>
    if i = 6 then 0x40 ||| (b &&& 0x0f) else if i = 8 then 0x80 ||| (b &&& 0x3f) else b
  let digits := bytes.flatMap fun b =>
    [Nat.digitChar (b.toNat / 16), Nat.digitChar (b.toNat % 16)]
  let part (start size : Nat) : String := String.ofList ((digits.drop start).take size)
  return "-".intercalate [part 0 8, part 8 4, part 12 4, part 16 4, part 20 12]

/-- The present time, as the file system tells it. -/
def presentTime : IO Timestamp := do
  let (_, path) ← IO.FS.createTempFile
  let modified := (← path.metadata).modified
  IO.FS.removeFile path
  return { seconds := modified.sec, nanos := modified.nsec.toNat }

end TextRepair.Main

open TextRepair in
def main (args : List String) : IO UInt32 := do
  let cwd := Main.pathOf (← IO.currentDir).toString
  let environment ← IO.getEnv "PATCHMEND_CONFIG"
  let found ← Main.gather cwd (Main.withDirectory ⟨[]⟩ ["tmp"])
  let tree ← (args ++ environment.toList).foldlM Main.addNamed found
  let host : Host := {
    launcher := Shell.execute, cwd, sessionId := ← Main.freshId, now := ← Main.presentTime }
  let o := CommandLine.run host environment args tree
  for line in o.log do IO.eprintln line
  Main.writeBack tree o.tree
  IO.print o.stdout
  IO.eprint o.stderr
  return o.status.toUInt32
