import TextRepair.Check
import TextRepair.Proofs.FileTree

/-!
# What a check leaves on the files

A check puts its candidate into a file, if that can be written (`CheckSettings.staging?`). If the command
changes no file (`Launcher.IsQuiet`) and the settings name the file, then the candidate is all that the check
leaves (`CheckSettings.run_of_staged`, `run_of_unstaged`).
-/

namespace TextRepair

open FileTree

/-- A command that leaves the files as it finds them, whether it ends in time or not. -/
structure Launcher.IsQuiet (launcher : Launcher) : Prop where
  result : ∀ tree cwd program args millis r,
    launcher tree cwd program args millis = .ok r → r.tree = tree
  timeout : ∀ tree cwd program args millis after,
    launcher tree cwd program args millis = .error (.timeout after) → after = tree

/-- A document that was put into a file. -/
structure Staging where
  path : Path
  document : Document

/-- The file at a path holds the text of a document. -/
def FileTree.Holds (t : FileTree) (p : Path) (d : Document) : Prop :=
  t.node? p = some (.file d.toText.toUTF8)

namespace FileTree

variable {t t' : FileTree} {p cwd : Path} {name : String} {d d' : Document}

theorem Holds.toText_eq (hd : t.Holds p d) (hd' : t.Holds p d') : d.toText = d'.toText := by
  have hcontent : Node.file d.toText.toUTF8 = .file d'.toText.toUTF8 := Option.some.inj (hd.symm.trans hd')
  exact String.toByteArray_inj.mp (Node.file.inj hcontent)

theorem holds_written (h : t.writeText cwd name d.toText = .ok t') : t'.Holds (destination cwd name) d := by
  rw [Holds, node?_write h, if_pos rfl]

theorem holds_iff_of_written (h : t.writeText cwd name d.toText = .ok t') (hne : p ≠ destination cwd name) :
    t'.Holds p d' ↔ t.Holds p d' := by
  rw [Holds, Holds, node?_write h, if_neg hne]

theorem holds_all_iff {stagings : List Staging} (hpath : ∀ staging ∈ stagings, staging.path = p)
    (hheld : ∀ latest ∈ stagings.getLast?, t.Holds p latest.document) :
    (∀ staging ∈ stagings, t.Holds staging.path d) ↔
      ∀ latest ∈ stagings.getLast?, latest.document.toText = d.toText := by
  constructor
  · intro hall latest hlatest
    have hmem := List.mem_of_getLast? hlatest
    refine (hheld latest hlatest).toText_eq ?_
    rw [← hpath latest hmem]
    exact hall latest hmem
  · intro htext staging hstaging
    obtain ⟨latest, hlatest⟩ := Option.isSome_iff_exists.mp
      (List.getLast?_isSome.mpr (List.ne_nil_of_mem hstaging))
    rw [hpath staging hstaging, Holds, ← htext latest hlatest]
    exact hheld latest hlatest

end FileTree

namespace CheckSettings

variable {s : CheckSettings} {launcher : Launcher} {cwd : Path} {name : String} {d : Document}
  {command : List String} {tree : FileTree} {staging : Staging}

/-- What a check of the document puts into a file, if it can. -/
def staging? (s : CheckSettings) (cwd : Path) (d : Document) (tree : FileTree) : Option Staging :=
  Except.toOption do
    let path ← tree.resolve cwd (s.stagingName tree)
    let _ ← tree.writeAt path d.toText.toUTF8
    return { path, document := d }

theorem launch_world (hquiet : Launcher.IsQuiet launcher) : (s.launch launcher cwd tree command).2 = tree := by
  unfold launch
  split
  · rfl
  · split
    · rfl
    · split
      · rename_i hresult
        exact hquiet.result _ _ _ _ _ _ hresult
      · rfl
      · rename_i htimeout
        exact hquiet.timeout _ _ _ _ _ _ htimeout

theorem staging?_eq :
    s.staging? cwd d tree =
      ((tree.writeText cwd (s.stagingName tree) d.toText).map fun _ =>
        (⟨destination cwd (s.stagingName tree), d⟩ : Staging)).toOption := by
  unfold staging? writeText write
  cases hresolve : tree.resolve cwd (s.stagingName tree) with
  | error e => rfl
  | ok path =>
    obtain rfl := resolve_eq_ok hresolve
    show Except.toOption (tree.writeAt _ _ >>= fun _ => _) = Except.toOption (Except.map _ (tree.writeAt _ _))
    cases tree.writeAt (destination cwd (s.stagingName tree)) d.toText.toUTF8 <;> rfl

theorem run_of_unstaged (launcher : Launcher) (command : List String)
    (h : s.staging? cwd d tree = none) :
    ∃ e, s.run launcher cwd d command tree = (.error e, tree) := by
  rw [staging?_eq] at h
  cases hwrite : tree.writeText cwd (s.stagingName tree) d.toText with
  | error e => exact ⟨.staging e, by simp only [run, hwrite]⟩
  | ok staged =>
    rw [hwrite] at h
    cases h

/-- A check by a quiet command leaves the candidate in the named file. -/
theorem run_of_staged (hquiet : Launcher.IsQuiet launcher) (htarget : s.target = some name)
    (command : List String) (h : s.staging? cwd d tree = some staging) :
    staging = ⟨destination cwd name, d⟩ ∧
      (s.run launcher cwd d command tree).2.Holds (destination cwd name) d := by
  have hname : s.stagingName tree = name := by
    rw [stagingName, htarget, Option.getD_some]
  rw [staging?_eq, hname] at h
  cases hwrite : tree.writeText cwd name d.toText with
  | error e =>
    rw [hwrite] at h
    cases h
  | ok staged =>
    rw [hwrite] at h
    obtain rfl : ⟨destination cwd name, d⟩ = staging := Option.some.inj h
    have hafter : (s.run launcher cwd d command tree).2 = staged := by
      simp only [run, hname, hwrite, unstage, htarget, launch_world hquiet]
    refine ⟨rfl, ?_⟩
    rw [Holds, hafter, node?_write hwrite, if_pos rfl]

end CheckSettings

end TextRepair
