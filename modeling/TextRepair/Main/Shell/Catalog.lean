import TextRepair.Main.Shell.Channel
import TextRepair.Main.Shell.Display
import TextRepair.Main.Shell.Format
import TextRepair.Main.Shell.Listing
import TextRepair.Main.Shell.Pause
import TextRepair.Main.Shell.Question
import TextRepair.Main.Shell.Search

/-!
# The programs by their names
-/

namespace TextRepair.Shell.Program

/-- The programs that can be started. -/
def names : List String :=
  ["cat", "ls", "grep", "sleep", "true", "false", "test", "[", "pwd", "printf", "echo", "sh"]

/-- The directories that hold the programs; they are not part of the file tree. -/
def directories : List String :=
  ["/usr/bin", "/bin"]

/-- The directories in which programs are looked for. -/
def usualPlaces : String :=
  "/usr/local/sbin:/usr/local/bin:/usr/sbin:/usr/bin:/sbin:/bin"

/-- The program that a full way leads to. -/
def atWay? (way : String) : Option String :=
  names.find? fun program => directories.any fun d => way = d ++ "/" ++ program

/-- The full way to the program of a name, looked for in some places. -/
def way? (places name : String) : Option String :=
  ((places.splitOn ":").map fun place => place ++ "/" ++ name).find? fun way => (atWay? way).isSome

/-- The name of the program that a name or a full way to a program leads to. -/
def called? (places name : String) : Option String :=
  if name.contains '/' then atWay? name else (way? places name).bind atWay?

/-- The message and the status of a program that cannot write its output, called by a name. -/
def writeFault (name program : String) (e : WriteError) : String × Nat :=
  let what :=
    if program = "cat" && e = .closed then "standard output" else "write error"
  (s!"{name}: {what}: {e.reason}\n", if program = "ls" || program = "grep" then 2 else 1)

/-- What a program answers; none if there is no such program. -/
def run? (s : Setting) (program : String) (args : List String) : Option Answered :=
  if program = "cat" then some (cat s args)
  else if program = "ls" then some (ls s args)
  else if program = "grep" then some (grep s args)
  else if program = "sleep" then some (sleep args)
  else if program = "true" then some (.ofStatus 0)
  else if program = "false" then some (.ofStatus 1)
  else if program = "test" then some (test s "test" args)
  else if program = "[" then some (bracket s args)
  else if program = "pwd" then some (.ofOutput (Setting.nameOf s.cwd ++ "\n"))
  else if program = "printf" then some (printf s args)
  else if program = "echo" then some (echoPlain false true args)
  else none

end TextRepair.Shell.Program
