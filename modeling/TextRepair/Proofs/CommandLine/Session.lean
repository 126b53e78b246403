import TextRepair.CommandLine.Run
import TextRepair.Proofs.Session.Staged

/-!
# What a task for a session leaves on the files

The task reads what its session starts from (`readStart`), runs it, and writes its document back
(`SessionStart.finish`). Main statement, `sessionTask_leaves`, for check commands that change no file: the
file of the task ends with the document of the session. Candidates go there too, unless the settings name a
target of their own. That target is not written back: it keeps the last candidate, which is the document if
the session succeeds, and may be one that was turned down if not (`not_leaves_ownTarget`).
-/

namespace TextRepair.CommandLine

open FileTree Work

/-! ### Work that only reads -/

/-- The work leaves the desk as it is. -/
def Work.IsReading {α : Type} (m : Work α) : Prop :=
  ∀ desk, (m.run desk).2 = desk

namespace Work.IsReading

variable {α β ε : Type}

theorem pure (a : α) : IsReading (Pure.pure a) :=
  fun _ => rfl

theorem bind {m : Work α} {f : α → Work β} (hm : m.IsReading) (hf : ∀ a, (f a).IsReading) :
    (m >>= f).IsReading := by
  intro desk
  have hmiddle := hm desk
  rcases hrun : m.run desk with ⟨answer, after⟩
  rw [hrun] at hmiddle
  subst hmiddle
  cases answer with
  | ok a =>
    rw [run_bind_ok hrun]
    exact hf a after
  | error e => rw [run_bind_error hrun]

theorem expect (message : String) (answer : Except ε α) : (Work.expect message answer).IsReading := by
  cases answer <;> exact fun _ => rfl

theorem read (h : Host) (message name : String) : (Work.read h message name).IsReading :=
  fun desk => IsReading.expect message (desk.tree.readText h.cwd name) desk

theorem readDocument (h : Host) (file : String) : (Work.readDocument h file).IsReading := by
  rw [Work.readDocument, map_eq_pure_bind]
  exact (IsReading.read h _ file).bind fun _ => .pure _

theorem readScript (h : Host) (file : String) : (CommandLine.readScript h file).IsReading := by
  refine (IsReading.read h _ file).bind fun text => ?_
  split <;> exact fun _ => rfl

theorem checkCommand (given : Option String) (configured : List String) :
    (CommandLine.checkCommand given configured).IsReading := by
  unfold CommandLine.checkCommand
  simp only
  split_ifs <;> exact fun _ => rfl

end Work.IsReading

theorem Work.run_writeDocument {h : Host} {file : String} {d : Document} {desk : Desk} {tree : FileTree}
    (hwritten : desk.tree.writeText h.cwd file d.toText = .ok tree) :
    (writeDocument h file d).run desk = (.ok (), { desk with tree }) := by
  show ((expect _ (desk.tree.writeText h.cwd file d.toText) >>= fun tree =>
    modify fun desk => { desk with tree } : Work Unit).run desk) = _
  rw [hwritten]
  rfl

/-! ### The parts of a task for a session -/

/-- What a session starts from. -/
structure SessionStart where
  document : Document
  script : Script
  config : SessionConfig

/-- What a task for a session does before the session starts. -/
def readStart (h : Host) (settings : Settings) (file : String) (given : Option String)
    (script : String) (maxCycles : Option Nat) : Work SessionStart := do
  let document ← readDocument h file
  let script ← readScript h script
  let command ← checkCommand given settings.session.command
  let config : SessionConfig := { settings.forSession with
    command, maxCycles := maxCycles.getD settings.session.maxCycles }
  expect "Invalid session configuration" config.check
  return { document, script, config }

/-- Where a task records. -/
def recordingIn (h : Host) (recordDir : Option String) : Option Recording :=
  recordDir.map fun root => { cwd := h.cwd, root }

namespace SessionStart

variable (start : SessionStart) (h : Host) (settings : Settings) (file : String)
  (recordDir : Option String) (tree : FileTree)

/-- The session of a task: its result, its events, and the world after it. -/
def session : (SessionResult × List Event) × Workshop :=
  runWith start.config (Workshop.collaborators h (checkSettings settings file) start.config)
    (Workshop.recorder h (recordingIn h recordDir)) h.sessionId start.document
    { tree, replay := .ofScript start.script }

/-- The candidates that the session puts into files, in their order. -/
def stagings : List Staging :=
  sessionStagings (checkSettings settings file) h.cwd Workshop.tree start.config
    (Workshop.collaborators h (checkSettings settings file) start.config)
    (Workshop.recorder h (recordingIn h recordDir)) h.sessionId start.document
    { tree, replay := .ofScript start.script }

/-- Runs the session, writes its document back, and prints a summary. -/
def finish : Work Unit := do
  let desk ← get
  let ((result, events), w) := start.session h settings file recordDir desk.tree
  set { desk with tree := w.tree }
  tell events
  writeDocument h file result.document
  print ((summary result).pretty ++ "\n")
  if !result.hasSucceeded then throw s!"Repair session ended: {result.outcome.name}"

end SessionStart

section Task

variable {h : Host} {settings : Settings} {file : String} {given : Option String} {script : String}
  {maxCycles : Option Nat} {recordDir : Option String}

theorem sessionTask_eq : sessionTask h settings file given script maxCycles recordDir =
    readStart h settings file given script maxCycles >>= fun start =>
      start.finish h settings file recordDir := by
  simp only [sessionTask, readStart, bind_assoc, pure_bind]
  refine bind_congr fun d => bind_congr fun script => bind_congr fun command => ?_
  simp only [runSession]
  cases SessionConfig.check _ <;> rfl

theorem isReading_readStart : (readStart h settings file given script maxCycles).IsReading :=
  (IsReading.readDocument h file).bind fun _ => (IsReading.readScript h script).bind fun _ =>
    (IsReading.checkCommand given _).bind fun _ => (IsReading.expect _ _).bind fun _ => .pure _

theorem sessionTask_tree {desk : Desk} {start : SessionStart} {result : SessionResult}
    {events : List Event} {w : Workshop} {tree : FileTree}
    (hstart : ((readStart h settings file given script maxCycles).run desk).1 = .ok start)
    (hsession : start.session h settings file recordDir desk.tree = ((result, events), w))
    (hwritten : w.tree.writeText h.cwd file result.document.toText = .ok tree) :
    ((sessionTask h settings file given script maxCycles recordDir).run desk).2.tree = tree := by
  have hread : (readStart h settings file given script maxCycles).run desk = (.ok start, desk) :=
    Prod.ext hstart (isReading_readStart desk)
  have hset : (set { desk with tree := w.tree } : Work Unit).run desk =
    (.ok (), { desk with tree := w.tree }) := rfl
  have htell : (tell events).run { desk with tree := w.tree } =
    (.ok (), { desk with tree := w.tree, events := desk.events ++ events }) := rfl
  rw [sessionTask_eq, run_bind_ok hread, SessionStart.finish, run_get_bind, hsession]
  dsimp only
  rw [run_bind_ok hset, run_bind_ok htell, run_bind_ok (run_writeDocument hwritten)]
  -- What is left to do prints, and may fail.
  cases result.hasSucceeded <;> rfl

/-- The path of the file that candidates go to: that of the target of the settings, or of the file of the
task. -/
def candidatePath (h : Host) (settings : Settings) (file : String) : Path :=
  destination h.cwd (settings.check.target.getD file)

/-- The task for a session has written its document back. Then all candidates went to one file. If that is
the file of the task, it holds the document. If it is another one, which no record went to, it still holds
the last candidate, and so it holds the document if and only if that has the same text; it has if the
session succeeds. -/
theorem sessionTask_leaves {desk : Desk} {start : SessionStart} {result : SessionResult}
    {events : List Event} {w : Workshop} {tree : FileTree} (hquiet : Launcher.IsQuiet h.launcher)
    (hstart : ((readStart h settings file given script maxCycles).run desk).1 = .ok start)
    (hsession : start.session h settings file recordDir desk.tree = ((result, events), w))
    (hwritten : w.tree.writeText h.cwd file result.document.toText = .ok tree) :
    ((sessionTask h settings file given script maxCycles recordDir).run desk).2.tree = tree ∧
    (∀ staging ∈ start.stagings h settings file recordDir desk.tree,
      staging.path = candidatePath h settings file) ∧
    (candidatePath h settings file = destination h.cwd file →
      ∀ staging ∈ start.stagings h settings file recordDir desk.tree,
        tree.Holds staging.path result.document) ∧
    (candidatePath h settings file ≠ destination h.cwd file →
      (recordDir ≠ none → IsPlain h.sessionId ∧ h.sessionId ∉ candidatePath h settings file) →
      ((∀ staging ∈ start.stagings h settings file recordDir desk.tree,
          tree.Holds staging.path result.document) ↔
        ∀ latest ∈ (start.stagings h settings file recordDir desk.tree).getLast?,
          latest.document.toText = result.document.toText)) ∧
    (result.outcome = .succeeded →
      ∀ latest ∈ (start.stagings h settings file recordDir desk.tree).getLast?,
        latest.document = result.document) := by
  obtain ⟨hpath, hheld, hsuccess⟩ := sessionStagings_last
    (r := Workshop.recorder h (recordingIn h recordDir))
    (Workshop.collaborators_checksFiles (checkSettings settings file) start.config) hquiet rfl
    start.document { tree := desk.tree, replay := .ofScript start.script }
  rw [SessionStart.session] at hsession
  rw [hsession] at hheld
  rw [sessionResult, hsession] at hsuccess
  refine ⟨sessionTask_tree hstart hsession hwritten, hpath, ?_, ?_, ?_⟩
  · intro hsame staging hstaging
    rw [hpath staging hstaging]
    have hholds := holds_written hwritten
    rwa [← hsame] at hholds
  · intro hother hrecords
    have hspared := Workshop.recorder_sparesFile (h := h) (recordingIn h recordDir)
      fun hsome => hrecords fun hnone => hsome (by rw [hnone]; rfl)
    refine holds_all_iff hpath fun latest hlatest => ?_
    exact (holds_iff_of_written hwritten hother).mpr (hheld hspared latest hlatest)
  · intro houtcome latest hlatest
    obtain ⟨final, hfinal, hdocument⟩ := Option.map_eq_some_iff.mp (hsuccess houtcome)
    obtain rfl : final = latest := Option.some.inj (hfinal.symm.trans hlatest)
    exact hdocument

end Task

/-! ### A target of its own -/

/-- A command that finds fault with every file and changes none. -/
def grumble : Launcher := fun tree _ _ args _ => .ok
  { tree
    output := .empty
    messages := (args.headD "" ++ ":1:1: error: boom").toUTF8
    exitCode := some 1
    millis := 0 }

theorem grumble_isQuiet : Launcher.IsQuiet grumble where
  result _ _ _ _ _ _ hr := by cases hr; rfl
  timeout _ _ _ _ _ _ hr := by cases hr

def grumbler : Host where
  launcher := grumble
  cwd := []
  sessionId := "s"
  now := default

/-- Candidates go to another file than that of the task. -/
def ownTarget : Settings := { Settings.standard with
  session := { SessionConfig.standard with maxCycles := 1, command := ["sh", "\x7bfile\x7d"] }
  check := { CheckSettings.standard with target := some "out.rs" } }

/-- A file, and a script with one edit of it. -/
def oneEdit : Desk where
  tree := ⟨[(["main.rs"], .file "a\n".toUTF8), (["s.json"], .file (
    "\x7b\"cycles\": [\x7b\"hypotheses\": [\x7b\"explanation\": \"wrong\", \"plan\": \"\", \"edit\": " ++
    "\x7b\"kind\": \"snippet_pair\", \"before\": \"a\", \"after\": \"b\"\x7d\x7d]\x7d]\x7d").toUTF8)]⟩
  stdout := ""
  stderr := ""
  events := []

theorem exists_ok_of_any {ε α : Type} {answer : Except ε α} {p : α → Bool}
    (h : answer.toOption.any p = true) : ∃ a, answer = .ok a ∧ p a = true := by
  cases answer with
  | ok a => exact ⟨a, rfl, h⟩
  | error => cases h

theorem oneEdit_session :
    ∃ start result events w tree,
      ((readStart grumbler ownTarget "main.rs" none "s.json" none).run oneEdit).1 = .ok start ∧
      start.session grumbler ownTarget "main.rs" none oneEdit.tree = ((result, events), w) ∧
      w.tree.writeText [] "main.rs" result.document.toText = .ok tree ∧
      (start.stagings grumbler ownTarget "main.rs" none oneEdit.tree).map Staging.path
        = [["out.rs"], ["out.rs"]] ∧
      result.document.toText = "a\n" ∧ tree.node? ["out.rs"] = some (.file "b\n".toUTF8) := by
  -- Settings and documents cannot be compared, so that one evaluation decides all that follows.
  have hrun : ((readStart grumbler ownTarget "main.rs" none "s.json" none).run oneEdit).1.toOption.any
      (fun start =>
        let ended := start.session grumbler ownTarget "main.rs" none oneEdit.tree
        (ended.2.tree.writeText [] "main.rs" ended.1.1.document.toText).toOption.any fun tree =>
          (start.stagings grumbler ownTarget "main.rs" none oneEdit.tree).map Staging.path
              = [["out.rs"], ["out.rs"]] ∧
            ended.1.1.document.toText = "a\n" ∧ (tree.readAt ["out.rs"]).toOption = some "b\n".toUTF8)
      = true := by
    decide +kernel
  obtain ⟨start, hstart, hended⟩ := exists_ok_of_any hrun
  obtain ⟨tree, hwritten, hend⟩ := exists_ok_of_any hended
  obtain ⟨hpaths, htext, hleft⟩ := of_decide_eq_true hend
  refine ⟨start, _, _, _, tree, hstart, rfl, hwritten, hpaths, htext, ?_⟩
  cases hread : tree.readAt ["out.rs"] with
  | ok content =>
    rw [hread] at hleft
    rw [readAt_eq_ok_iff.mp hread, Option.some.inj hleft]
  | error e =>
    rw [hread] at hleft
    cases hleft

/-- The file of the candidates holds the document if the last candidate has its text. -/
theorem sessionTask_leaves_ownTarget :
    ∃ start result events w tree,
      ((readStart grumbler ownTarget "main.rs" none "s.json" none).run oneEdit).1 = .ok start ∧
      start.session grumbler ownTarget "main.rs" none oneEdit.tree = ((result, events), w) ∧
      w.tree.writeText [] "main.rs" result.document.toText = .ok tree ∧
      ((sessionTask grumbler ownTarget "main.rs" none "s.json" none none).run oneEdit).2.tree = tree ∧
      ((∀ staging ∈ start.stagings grumbler ownTarget "main.rs" none oneEdit.tree,
          tree.Holds staging.path result.document) ↔
        ∀ latest ∈ (start.stagings grumbler ownTarget "main.rs" none oneEdit.tree).getLast?,
          latest.document.toText = result.document.toText) := by
  obtain ⟨start, result, events, w, tree, hstart, hsession, hwritten, -⟩ := oneEdit_session
  obtain ⟨htree, -, -, hiff, -⟩ := sessionTask_leaves grumble_isQuiet hstart hsession hwritten
  exact ⟨start, result, events, w, tree, hstart, hsession, hwritten, htree,
    hiff (by decide +kernel) nofun⟩

/-- The file of the candidates need not hold the document. -/
theorem not_leaves_ownTarget :
    ∃ start result events w tree,
      ((readStart grumbler ownTarget "main.rs" none "s.json" none).run oneEdit).1 = .ok start ∧
      start.session grumbler ownTarget "main.rs" none oneEdit.tree = ((result, events), w) ∧
      w.tree.writeText [] "main.rs" result.document.toText = .ok tree ∧
      ((sessionTask grumbler ownTarget "main.rs" none "s.json" none none).run oneEdit).2.tree = tree ∧
      ¬∀ staging ∈ start.stagings grumbler ownTarget "main.rs" none oneEdit.tree,
        tree.Holds staging.path result.document := by
  obtain ⟨start, result, events, w, tree, hstart, hsession, hwritten, hpaths, htext, hleft⟩ :=
    oneEdit_session
  refine ⟨start, result, events, w, tree, hstart, hsession, hwritten,
    sessionTask_tree hstart hsession hwritten, fun hall => ?_⟩
  have hmem : ["out.rs"] ∈ (start.stagings grumbler ownTarget "main.rs" none oneEdit.tree).map
      Staging.path := by
    rw [hpaths]
    exact List.mem_cons_self
  obtain ⟨staging, hstaging, hpath⟩ := List.mem_map.mp hmem
  have hholds := hall staging hstaging
  rw [Holds, hpath, hleft, htext] at hholds
  exact absurd (Node.file.inj (Option.some.inj hholds)) (by decide)

end TextRepair.CommandLine
