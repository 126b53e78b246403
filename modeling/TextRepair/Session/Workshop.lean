import TextRepair.Check
import TextRepair.Recording
import TextRepair.Session.Replay
import TextRepair.Session.Run

/-!
# Sessions on files

The world of a session that works on files: a script advises, a command checks candidates that are
written to a file, and records go to files.
-/

namespace TextRepair

/-- What stays the same while commands run on files. -/
structure Host where
  launcher : Launcher
  /-- The directory in which relative names start. -/
  cwd : Path
  /-- The identifier of a session that starts. -/
  sessionId : String
  /-- The present time. -/
  now : Timestamp

namespace Host

/-- A check by a command. -/
def check (h : Host) (settings : CheckSettings) (d : Document) (command : List String) :
    StateM FileTree (Answer CheckReport) := fun tree =>
  let (answer, tree) := settings.run h.launcher h.cwd d command tree
  (answer.mapError CheckError.toCallError, tree)

end Host

/-- The world of a session on files. -/
structure Workshop where
  tree : FileTree
  replay : Replay

namespace Workshop

/-- A change of the files. -/
def onFiles {α : Type} (f : StateM FileTree α) : StateM Workshop α := fun w =>
  let (a, tree) := f w.tree
  (a, { w with tree })

/-- An answer of the script. -/
def onScript {α : Type} (f : StateM Replay α) : StateM Workshop α := fun w =>
  let (a, replay) := f w.replay
  (a, { w with replay })

/-- Those who take part in a session with the given check command and context. -/
def collaborators (h : Host) (settings : CheckSettings) (config : SessionConfig) :
    Collaborators Workshop :=
  let verify (d : Document) (command : List String) := onFiles (h.check settings d command)
  { diagnose := diagnoseBy verify config.command config.contextRadius
    propose := fun _ => onScript Replay.propose
    plan := fun explanation _ => onScript (Replay.plan explanation)
    edit := fun _ _ => onScript Replay.edit
    verify
    isCancelled := pure false
    now := fun _ => h.now }

/-- Keeps the records of a session in files, or nowhere. -/
def recorder (h : Host) : Option Recording → Recorder Workshop
  | none => .none
  | some r => {
      recordCycle := fun id cycle => onFiles (r.recordCycle id cycle).run
      recordResult := fun result => onFiles (r.recordResult h.now result).run }

end Workshop

end TextRepair
