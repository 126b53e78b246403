import TextRepair.FileTree
import TextRepair.Stored.Settings
import TextRepair.Toml.Reader

/-!
# Settings files

Settings are kept in a TOML file. Where the file is missing, the standard settings hold.
-/

namespace TextRepair.Settings

/-- The surroundings of a value in a settings file, which has no null and allows spare items. -/
def surroundings : Surroundings where
  level := 0
  empty := .containers
  allowsSpare := true

/-- The settings of a TOML text, which must be valid. -/
def ofText (text : String) : Except Failure Settings :=
  match (Toml.read? text).bind (ofJson surroundings) with
  | none => .error (.settings "the text does not hold settings")
  | some settings => settings.validate.map fun _ => settings

/-- A failure with the name of the file in front of what is wrong with the text. -/
def inFile (name : String) : Failure → Failure
  | .settings text => .settings s!"{name}: {text}"
  | e => e

/-- The settings of a file. -/
def load (tree : FileTree) (cwd : Path) (name : String) : Except Failure Settings :=
  match tree.readText cwd name with
  | .ok text => (ofText text).mapError (inFile name)
  | .error .notFound => .ok standard
  | .error e => .error (.io e.message)

end TextRepair.Settings
