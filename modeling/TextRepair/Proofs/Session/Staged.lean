import TextRepair.Proofs.Check
import TextRepair.Proofs.Recording
import TextRepair.Proofs.Session.Diagnosis
import TextRepair.Proofs.Session.Mirrors
import TextRepair.Proofs.Session.Safety
import TextRepair.Session.Workshop

/-!
# Candidates in files

A session whose checks go through files (`Collaborators.ChecksFiles`) puts one candidate after another into
a file. `sessionStagings` lists these candidates with their files: the session runs with checks that note
them (`Collaborators.staged`) in a list that it cannot see (`runWith_staged`).

Main statement, `sessionStagings_last`. If the settings name the file and the command changes no file, then
all candidates go to that one file, it holds the last of them unless a record goes there, and a session that
succeeds ends with the last of them. What carries this through a session is `IsKept`.
-/

namespace TextRepair

open FileTree

section Staged

variable {W : Type} (settings : CheckSettings) (cwd : Path) (tree : W → FileTree)

/-! ### Sessions with notes -/

/-- A call that checks the document, with a note of what this puts into a file. -/
def withStaging {α : Type} (d : Document) (call : StateM W α) : StateM (W × List Staging) α := fun s =>
  ((call s.1).1, (call s.1).2, s.2 ++ (settings.staging? cwd d (tree s.1)).toList)

/-- A call that puts no candidate into a file. -/
def withoutStaging {α : Type} (call : StateM W α) : StateM (W × List Staging) α := fun s =>
  ((call s.1).1, (call s.1).2, s.2)

/-- The same collaborators, with the candidates in files noted. -/
def Collaborators.staged (c : Collaborators W) : Collaborators (W × List Staging) where
  diagnose d evidence := withStaging settings cwd tree d (c.diagnose d evidence)
  propose context := withoutStaging (c.propose context)
  plan explanation context := withoutStaging (c.plan explanation context)
  edit plan context := withoutStaging (c.edit plan context)
  verify d command := withStaging settings cwd tree d (c.verify d command)
  isCancelled := withoutStaging c.isCancelled
  now s := c.now s.1

/-- The same recorder, which puts no candidate into a file. -/
def Recorder.staged (r : Recorder W) : Recorder (W × List Staging) where
  recordCycle id cycle := withoutStaging (r.recordCycle id cycle)
  recordResult result := withoutStaging (r.recordResult result)

/-- The candidates that a session puts into files, in their order. -/
def sessionStagings (config : SessionConfig) (c : Collaborators W) (r : Recorder W) (id : String)
    (d : Document) (w : W) : List Staging :=
  (runWith config (c.staged settings cwd tree) r.staged id d (w, [])).2.2

theorem runWith_staged (config : SessionConfig) (c : Collaborators W) (r : Recorder W) (id : String)
    (d : Document) (w : W) (notes : List Staging) :
    (runWith config (c.staged settings cwd tree) r.staged id d (w, notes)).1 = (runWith config c r id d w).1 ∧
    (runWith config (c.staged settings cwd tree) r.staged id d (w, notes)).2.1 =
      (runWith config c r id d w).2 := by
  have hwith {α : Type} (d : Document) (call : StateM W α) :
      Mirrors (fun s w => s.1 = w) (withStaging settings cwd tree d call) call := by
    rintro s w rfl
    exact ⟨rfl, rfl⟩
  have hwithout {α : Type} (call : StateM W α) :
      Mirrors (fun s w => s.1 = w) (withoutStaging call) call := by
    rintro s w rfl
    exact ⟨rfl, rfl⟩
  have hc : (c.staged settings cwd tree).Alike (fun s w => s.1 = w) c :=
    { diagnose := fun d _ => hwith d _
      propose := fun _ => hwithout _
      plan := fun _ _ => hwithout _
      edit := fun _ _ => hwithout _
      verify := fun d _ => hwith d _
      isCancelled := hwithout _
      now := fun s w hw => by rw [← hw]; rfl }
  have hr : r.staged.Alike (fun s w => s.1 = w) id r :=
    { recordCycle := fun _ => hwithout _
      recordResult := fun _ _ => hwithout _ }
  exact mirrors_runWith config hc hr d _ _ rfl

end Staged

/-! ### The latest report -/

/-- The document of the latest check after one more call, if that check has given a report. -/
def Call.reportedOn (latest : Option Document) : Call → Option Document
  | diagnosed d _ (.ok _) => some d
  | diagnosed _ _ (.error _) => none
  | verified d _ (.ok _) => some d
  | verified _ _ (.error _) => none
  | _ => latest

/-- The document of the latest check, if that check has given a report. -/
def latestReported (calls : List Call) : Option Document :=
  calls.foldl Call.reportedOn none

theorem latestReported_concat (calls : List Call) (call : Call) :
    latestReported (calls ++ [call]) = call.reportedOn (latestReported calls) :=
  List.foldl_concat _ _ _ _

theorem IsMended.latestReported {config : SessionConfig} {d document : Document} {cycle : Cycle}
    {during : List Call} (hm : IsMended config d cycle document during) (before : List Call) :
    latestReported (before ++ during) = some document := by
  cases hm with
  | clean evidence => rw [latestReported_concat]; rfl
  | fixed => rw [← List.append_assoc, latestReported_concat]; rfl

theorem latestReported_sessionCalls {W : Type} (config : SessionConfig) (c : Collaborators W)
    (r : Recorder W) (id : String) (d : Document) (w : W)
    (hsuccess : (sessionResult config c r id d w).outcome = .succeeded) :
    latestReported (sessionCalls config c r id d w) = some (sessionResult config c r id d w).document := by
  obtain ⟨history, calls, answer', hcourse, -, hcalls⟩ := sessionCourse config c r id d w
  obtain ⟨cycle, before, during, answer, -, rfl, hmended⟩ := hcourse.mended hsuccess
  rw [hcalls, latestReported_concat, latestReported_concat]
  exact hmended.latestReported before

/-! ### Checks that go through files -/

section Files

variable {W : Type}

/-- The checks are checks by a command on the files of the world, and nothing else touches these files. -/
structure Collaborators.ChecksFiles (c : Collaborators W) (h : Host) (settings : CheckSettings)
    (config : SessionConfig) (tree : W → FileTree) : Prop where
  diagnose : ∀ d evidence, Mirrors (tree · = ·) (c.diagnose d evidence)
    (diagnoseBy (h.check settings) config.command config.contextRadius d evidence)
  verify : ∀ d command, Mirrors (tree · = ·) (c.verify d command) (h.check settings d command)
  propose : ∀ context w, tree (c.propose context w).2 = tree w
  plan : ∀ explanation context w, tree (c.plan explanation context w).2 = tree w
  edit : ∀ plan context w, tree (c.edit plan context w).2 = tree w
  isCancelled : ∀ w, tree (c.isCancelled w).2 = tree w

/-- Records of the session `id` leave the file at the path as it is. -/
structure Recorder.SparesFile (r : Recorder W) (id : String) (p : Path) (tree : W → FileTree) : Prop where
  recordCycle : ∀ cycle w content, (tree w).node? p = some (.file content) →
    (tree (r.recordCycle id cycle w).2).node? p = some (.file content)
  recordResult : ∀ result w content, result.sessionId = id → (tree w).node? p = some (.file content) →
    (tree (r.recordResult result w).2).node? p = some (.file content)

/-- All candidates went to one file, which holds the last of them if it is spared by others; and if the
latest check has given a report, it was the check of the last of them. -/
structure IsKept (tree : W → FileTree) (spared : Prop) (p : Path) (s : (W × List Staging) × List Call) :
    Prop where
  path : ∀ staging ∈ s.1.2, staging.path = p
  held : spared → ∀ latest ∈ s.1.2.getLast?, (tree s.1.1).Holds p latest.document
  reported : ∀ d ∈ latestReported s.2, s.1.2.getLast?.map Staging.document = some d

variable {h : Host} {settings : CheckSettings} {config : SessionConfig} {tree : W → FileTree}
  {c : Collaborators W} {r : Recorder W} {name id : String} {spared : Prop} {p : Path}
  {s : (W × List Staging) × List Call}

theorem IsKept.checked (hs : IsKept tree spared (destination h.cwd name) s)
    (hquiet : Launcher.IsQuiet h.launcher) (htarget : settings.target = some name) {d : Document}
    {command : List String} {α : Type} {call : StateM W α} {entry : α → Call}
    (hworld : tree (call s.1.1).2 = (h.check settings d command (tree s.1.1)).2)
    (hentry : ∀ latest, (entry (call s.1.1).1).reportedOn latest =
      (h.check settings d command (tree s.1.1)).1.toOption.map fun _ => d) :
    IsKept tree spared (destination h.cwd name)
      (noted (withStaging settings h.cwd tree d call) entry s).2 := by
  obtain ⟨⟨w, notes⟩, calls⟩ := s
  show IsKept tree spared _ (((call w).2, notes ++ (settings.staging? h.cwd d (tree w)).toList),
    calls ++ [entry (call w).1])
  have hreported : latestReported (calls ++ [entry (call w).1]) = _ :=
    (latestReported_concat _ _).trans (hentry _)
  cases hstaging : settings.staging? h.cwd d (tree w) with
  | none =>
    -- The file could not be written: all is as it was, and there is no report.
    obtain ⟨e, hrun⟩ := CheckSettings.run_of_unstaged h.launcher command hstaging
    have hcheck : h.check settings d command (tree w) = (.error e.toCallError, tree w) := by
      simp only [Host.check, hrun, Except.mapError]
    rw [hcheck] at hworld hreported
    rw [Option.toList_none, List.append_nil]
    refine ⟨hs.path, fun hspared => ?_, by rw [hreported]; exact nofun⟩
    rw [hworld]
    exact hs.held hspared
  | some staging =>
    -- Whether or not there is a report, the candidate stays in the file.
    obtain ⟨rfl, hheld⟩ := CheckSettings.run_of_staged hquiet htarget command hstaging
    rw [Option.toList_some]
    refine ⟨List.forall_mem_append.mpr ⟨hs.path, by simp⟩, ?_, ?_⟩
    · rw [List.getLast?_concat, hworld]
      rintro - _ ⟨⟩
      exact hheld
    · rw [List.getLast?_concat, hreported]
      intro document hdocument
      obtain ⟨-, -, rfl⟩ := Option.map_eq_some_iff.mp hdocument
      rfl

theorem IsKept.unchecked (hs : IsKept tree spared p s) {α : Type} {call : StateM W α} {entry : α → Call}
    (hentry : ∀ a latest, (entry a).reportedOn latest = latest)
    (hfile : spared → ∀ content, (tree s.1.1).node? p = some (.file content) →
      (tree (call s.1.1).2).node? p = some (.file content)) :
    IsKept tree spared p (noted (withoutStaging call) entry s).2 where
  path := hs.path
  held hspared latest hlatest := hfile hspared _ (hs.held hspared latest hlatest)
  reported := by
    show ∀ d ∈ latestReported (s.2 ++ [entry _]), _
    rw [latestReported_concat, hentry]
    exact hs.reported

theorem Collaborators.ChecksFiles.keeps (hc : c.ChecksFiles h settings config tree)
    (hquiet : Launcher.IsQuiet h.launcher) (htarget : settings.target = some name) :
    (c.staged settings h.cwd tree).observed.Keeps (IsKept tree spared (destination h.cwd name)) where
  diagnose d evidence s hs := by
    obtain ⟨hanswer, hworld⟩ := hc.diagnose d evidence s.1.1 _ rfl
    rw [diagnoseBy_eq] at hanswer hworld
    refine hs.checked hquiet htarget hworld fun latest => ?_
    rw [hanswer]
    cases (h.check settings d config.command (tree s.1.1)).1 <;> rfl
  verify d command s hs := by
    obtain ⟨hanswer, hworld⟩ := hc.verify d command s.1.1 _ rfl
    refine hs.checked hquiet htarget hworld fun latest => ?_
    rw [hanswer]
    cases (h.check settings d command (tree s.1.1)).1 <;> rfl
  propose context s hs :=
    hs.unchecked (fun _ _ => rfl) fun _ _ hfile => by rw [hc.propose context s.1.1]; exact hfile
  plan explanation context s hs :=
    hs.unchecked (fun _ _ => rfl) fun _ _ hfile => by rw [hc.plan explanation context s.1.1]; exact hfile
  edit plan context s hs :=
    hs.unchecked (fun _ _ => rfl) fun _ _ hfile => by rw [hc.edit plan context s.1.1]; exact hfile
  isCancelled s hs :=
    hs.unchecked (fun _ _ => rfl) fun _ _ hfile => by rw [hc.isCancelled s.1.1]; exact hfile

theorem Recorder.keeps_of_sparesFile (hspared : spared → r.SparesFile id p tree) :
    r.staged.observed.Keeps (IsKept tree spared p) id where
  recordCycle cycle _ hs := hs.unchecked (fun _ _ => rfl) fun hyes content =>
    (hspared hyes).recordCycle cycle _ content
  recordResult result _ hid hs := hs.unchecked (fun _ _ => rfl) fun hyes content =>
    (hspared hyes).recordResult result _ content hid

/-- Whatever a session is advised and whenever it is asked to stop: all its candidates go to one file, and
it holds the last of them in the end if no record goes there. If the session succeeds, the last of them is
its final document. -/
theorem sessionStagings_last (hc : c.ChecksFiles h settings config tree)
    (hquiet : Launcher.IsQuiet h.launcher) (htarget : settings.target = some name) (d : Document) (w : W) :
    (∀ staging ∈ sessionStagings settings h.cwd tree config c r id d w,
      staging.path = destination h.cwd name) ∧
    (r.SparesFile id (destination h.cwd name) tree →
      ∀ latest ∈ (sessionStagings settings h.cwd tree config c r id d w).getLast?,
        (tree (runWith config c r id d w).2).Holds (destination h.cwd name) latest.document) ∧
    ((sessionResult config c r id d w).outcome = .succeeded →
      (sessionStagings settings h.cwd tree config c r id d w).getLast?.map Staging.document =
        some (sessionResult config c r id d w).document) := by
  have hkept : IsKept tree (r.SparesFile id (destination h.cwd name) tree) (destination h.cwd name)
      (runWith config (c.staged settings h.cwd tree).observed r.staged.observed id d ((w, []), [])).2 :=
    runWith_keeps (hc.keeps hquiet htarget) (Recorder.keeps_of_sparesFile fun hspared => hspared) config d
      ⟨nofun, nofun, nofun⟩
  -- The invariant speaks of the session with both kinds of notes. Neither kind changes the session.
  obtain ⟨calls, hrun, -⟩ :=
    observes_runWith config (c.staged settings h.cwd tree) r.staged id d (w, []) []
  obtain ⟨hresult, hworld⟩ := runWith_staged settings h.cwd tree config c r id d w []
  rw [← hworld, sessionResult, ← hresult]
  have hreported := hkept.reported
  rw [hrun] at hkept
  refine ⟨hkept.path, hkept.held, fun hsuccess => ?_⟩
  have hlatest := hreported _ (latestReported_sessionCalls config _ _ id d (w, []) hsuccess)
  rwa [hrun] at hlatest

end Files

/-! ### Sessions on files -/

namespace Workshop

variable {h : Host}

theorem collaborators_checksFiles (settings : CheckSettings) (config : SessionConfig) :
    (collaborators h settings config).ChecksFiles h settings config Workshop.tree where
  diagnose d evidence := by
    rintro w _ rfl
    simp only [collaborators, diagnoseBy_eq]
    exact ⟨rfl, rfl⟩
  verify d command := by
    rintro w _ rfl
    exact ⟨rfl, rfl⟩
  propose _ _ := rfl
  plan _ _ _ := rfl
  edit _ _ _ := rfl
  isCancelled _ := rfl

theorem recorder_sparesFile (recording : Option Recording) {id : String} {p : Path}
    (hspared : recording ≠ none → IsPlain id ∧ id ∉ p) :
    (recorder h recording).SparesFile id p Workshop.tree := by
  cases recording with
  | none => exact ⟨fun _ _ _ hfile => hfile, fun _ _ _ _ hfile => hfile⟩
  | some r =>
    obtain ⟨hid, hp⟩ := hspared nofun
    refine ⟨fun cycle w content hfile => ?_, fun result w content hresult hfile => ?_⟩
    · exact Recording.leaves_recordCycle hid hp cycle _ _ hfile
    · subst hresult
      exact Recording.leaves_recordResult hid hp h.now _ _ hfile

end Workshop

end TextRepair
