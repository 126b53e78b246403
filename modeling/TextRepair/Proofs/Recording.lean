import TextRepair.Proofs.FileTree
import TextRepair.Proofs.Programs
import TextRepair.Recording

/-!
# What recording leaves alone

The files of a session have names below the directory of the session, whatever the root is called
(`Recording.mem_destination_fileName`). So recording leaves every file alone whose path does not go
through a directory with the name of the session (`Recording.leaves_recordCycle`, `leaves_recordResult`).
-/

namespace TextRepair

open FileTree

/-! ### Names of files of a session -/

theorem endsWith_iff {name ending : String} :
    name.endsWith ending = true ↔ ending.toList <:+ name.toList := by
  rw [String.endsWith_eq_endsWith_toSlice, String.Slice.endsWith_string_iff, String.copy_toSlice]

theorem endsWith_slash_iff {name : String} : name.endsWith "/" = true ↔ ['/'] <:+ name.toList :=
  endsWith_iff

namespace FileTree.IsPlain

variable {directory name : String}

theorem not_startsWith (h : IsPlain name) : name.startsWith "/" = false := by
  rw [String.startsWith_string_eq_false_iff]
  rintro ⟨rest, hrest⟩
  exact h.slash (by rw [← hrest]; exact List.mem_cons_self)

theorem ne_empty (h : IsPlain name) : name.toList ≠ [] := by
  intro hnil
  exact h.special (by simp [String.toList_eq_nil_iff.mp hnil])

theorem toList_joinName (h : IsPlain name) (directory : String) :
    (joinName directory name).toList = name.toList ∨
      ∃ before, (joinName directory name).toList = before ++ '/' :: name.toList := by
  rw [joinName, h.not_startsWith, Bool.false_or]
  split_ifs with hempty hslash
  · exact Or.inl rfl
  · obtain ⟨before, hbefore⟩ := endsWith_slash_iff.mp hslash
    refine Or.inr ⟨before, ?_⟩
    rw [String.toList_append, ← hbefore, List.append_assoc]
    rfl
  · refine Or.inr ⟨directory.toList, ?_⟩
    rw [String.toList_append, String.toList_append, List.append_assoc]
    rfl

theorem parts_joinName (h : IsPlain name) (directory : String) :
    ∃ before, parts (joinName directory name) = before ++ [name] := by
  have hname : splitName [] name.toList = [name] := parts_of_isPlain h
  rw [parts]
  rcases h.toList_joinName directory with hjoined | ⟨before, hjoined⟩
  · exact ⟨[], by rw [hjoined, hname]; rfl⟩
  · exact ⟨splitName [] before, by rw [hjoined, splitName_append_slash, hname]⟩

theorem joinName_joinName (h : IsPlain name) (directory other : String) (hother : IsPlain other) :
    joinName (joinName directory name) other = joinName directory name ++ "/" ++ other := by
  obtain ⟨start, hstart⟩ : ∃ start, (joinName directory name).toList = start ++ name.toList := by
    rcases h.toList_joinName directory with hjoined | ⟨before, hjoined⟩
    · exact ⟨[], hjoined⟩
    · exact ⟨before ++ ['/'], by rw [hjoined, List.append_assoc]; rfl⟩
  have hempty : (joinName directory name).isEmpty = false := by
    rw [← Bool.not_eq_true, String.isEmpty_iff, ← String.toList_eq_nil_iff, hstart]
    simp [h.ne_empty]
  have hslash : ¬(joinName directory name).endsWith "/" = true := by
    rw [endsWith_slash_iff, hstart]
    rintro ⟨rest, hrest⟩
    have hlast := congrArg List.getLast? hrest
    rw [List.getLast?_concat, List.getLast?_append_of_ne_nil _ h.ne_empty] at hlast
    exact h.slash (List.mem_of_getLast? hlast.symm)
  rw [joinName.eq_def (joinName directory name), hother.not_startsWith, hempty, Bool.or_self, if_neg nofun,
    if_neg hslash]

end FileTree.IsPlain

namespace Recording

theorem isDigit_of_mem_padded {index : Nat} {c : Char} (hc : c ∈ (padded index).toList) :
    c.isDigit = true := by
  rw [padded, String.toList_ofList] at hc
  rcases List.mem_append.mp hc with hc | hc
  · rw [List.eq_of_mem_replicate hc]
    rfl
  · exact Nat.isDigit_of_mem_toDigits (by decide) (by decide) hc

theorem toList_cycleName (index : Nat) :
    (cycleName index).toList = "cycle-".toList ++ (padded index).toList ++ ".json".toList := by
  rw [cycleName, String.toList_append, String.toList_append]
  rfl

theorem isPlain_cycleName (index : Nat) : IsPlain (cycleName index) := by
  constructor
  · rw [toList_cycleName, List.mem_append, List.mem_append, not_or, not_or]
    exact ⟨⟨by decide, fun hslash => absurd (isDigit_of_mem_padded hslash) (by decide)⟩, by decide⟩
  · intro hspecial
    have hlength := congrArg List.length (toList_cycleName index)
    simp only [List.mem_cons, List.not_mem_nil, or_false] at hspecial
    rcases hspecial with h | h | h <;> rw [h] at hlength <;> simp at hlength

variable {r : Recording} {id name : String} {p : Path}

theorem mem_destination_fileName (hid : IsPlain id) (hname : IsPlain name) :
    id ∈ destination r.cwd (r.fileName id name) := by
  obtain ⟨before, hbefore⟩ := hid.parts_joinName r.root
  have hparts : parts (r.fileName id name) = before ++ [id] ++ [name] := by
    rw [fileName, directory, hid.joinName_joinName _ _ hname, parts, String.toList_append,
      String.toList_append, List.append_assoc]
    show splitName [] (_ ++ '/' :: name.toList) = _
    rw [splitName_append_slash]
    exact congrArg₂ _ hbefore (parts_of_isPlain hname)
  rw [destination, hparts, List.foldl_concat, List.foldl_concat, step_of_isPlain hid, step_of_isPlain hname]
  simp

/-! ### Programs that leave a file alone -/

/-- A file at the path stays as it is. -/
def Leaves {α : Type} (p : Path) (m : OnFiles α) : Prop :=
  ∀ tree content, tree.node? p = some (.file content) →
    (m.run tree).2.node? p = some (.file content)

namespace Leaves

variable {α β : Type}

theorem pure (a : α) : Leaves p (Pure.pure a) :=
  fun _ _ h => h

theorem bind {m : OnFiles α} {f : α → OnFiles β} (hm : Leaves p m) (hf : ∀ a, Leaves p (f a)) :
    Leaves p (m >>= f) := by
  intro tree content h
  have hmiddle := hm tree content h
  rcases hrun : m.run tree with ⟨answer, after⟩
  rw [hrun] at hmiddle
  cases answer with
  | ok a =>
    rw [run_bind_ok hrun]
    exact hf a _ _ hmiddle
  | error e =>
    rw [run_bind_error hrun]
    exact hmiddle

theorem look (f : FileTree → Except FileError α) : Leaves p (Recording.look f) := by
  intro tree content h
  rw [Recording.look, run_get_bind]
  cases f tree <;> exact h

theorem change {f : FileTree → Except FileError FileTree}
    (hf : ∀ tree tree' content, f tree = .ok tree' → tree.node? p = some (.file content) →
      tree'.node? p = some (.file content)) : Leaves p (Recording.change f) := by
  intro tree content h
  rw [Recording.change, run_get_bind]
  cases hchange : f tree with
  | ok tree' => exact hf tree tree' content hchange h
  | error e => exact h

theorem mapM {f : α → OnFiles β} (hf : ∀ a, Leaves p (f a)) (as : List α) : Leaves p (as.mapM f) := by
  induction as with
  | nil => exact pure _
  | cons a as ih =>
    rw [List.mapM_cons]
    exact (hf a).bind fun b => ih.bind fun bs => pure _

theorem writeFile (hid : IsPlain id) (hp : id ∉ p) (hname : IsPlain name) (text : String) :
    Leaves p (r.writeFile id name text) := by
  refine change fun tree tree' content hwrite hfile => ?_
  have hne : p ≠ destination r.cwd (r.fileName id name) := by
    rintro rfl
    exact hp (mem_destination_fileName hid hname)
  rw [node?_write hwrite, if_neg hne]
  exact hfile

theorem makeDirectory : Leaves p (Recording.change (·.makeDirs r.cwd (r.directory id))) :=
  change fun _ _ _ hmake hfile => node?_makeDirs hmake hfile

end Leaves

theorem leaves_recordCycle (hid : IsPlain id) (hp : id ∉ p) (cycle : Cycle) :
    Leaves p (r.recordCycle id cycle) :=
  Leaves.makeDirectory.bind fun _ => .writeFile hid hp (isPlain_cycleName _) _

theorem leaves_recordResult {result : SessionResult} (hid : IsPlain result.sessionId)
    (hp : result.sessionId ∉ p) (now : Timestamp) : Leaves p (r.recordResult now result) := by
  have hresult : IsPlain resultName := ⟨by decide, by decide⟩
  have hdigest : IsPlain "result.digest" := ⟨by decide, by decide⟩
  have hmanifest : IsPlain "manifest.json" := ⟨by decide, by decide⟩
  exact Leaves.makeDirectory.bind fun _ => (Leaves.writeFile hid hp hresult _).bind fun _ =>
    (Leaves.writeFile hid hp hdigest _).bind fun _ => (Leaves.look _).bind fun _ =>
      (Leaves.mapM (fun _ => .look _) _).bind fun _ => .writeFile hid hp hmanifest _

end Recording

end TextRepair
