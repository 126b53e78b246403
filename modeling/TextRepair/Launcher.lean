import TextRepair.FileTree

/-!
# Starting programs

What runs a program is not part of this library: whoever needs one run is given a `Launcher`.
-/

namespace TextRepair

/-- What a finished program leaves. -/
structure ProgramResult where
  tree : FileTree
  output : ByteArray
  messages : ByteArray
  /-- None if the program was ended by a signal. -/
  exitCode : Option Int
  /-- The milliseconds it took. -/
  millis : Nat

/-- Why a program has no result. -/
inductive LaunchError where
  /-- It could not be started. -/
  | spawn (e : FileError)
  /-- It did not end in time; the files are as it left them. -/
  | timeout (tree : FileTree)

/-- Starts a program with its arguments in a directory, for at most some milliseconds. -/
abbrev Launcher := FileTree → (cwd : Path) → (program : String) → (args : List String) →
  (millis : Nat) → Except LaunchError ProgramResult

end TextRepair
