import TextRepair.Proofs.FileTree.Directory
import TextRepair.Proofs.Recording

/-!
# The files in the directory of a session

The invariant of a recording is that the directory of the session holds what has been written and nothing else
(`Recording.Stores`). A file with a new name is added to the others (`Stores.writeFile`). Each call first makes
the directory, which changes nothing where it is there, so that a call starts from `Recording.Prepared`, and
cycles with names of their own are recorded one after the other (`Prepared.recordCycles`).
-/

namespace TextRepair

open FileTree

/-! ### Names in a directory -/

namespace FileTree

variable {t : FileTree} {p cwd : Path} {directory name : String}

theorem IsPlain.toList_joinName_eq (hname : IsPlain name) (hdirectory : directory ≠ "") :
    ∃ before, (joinName directory name).toList = before ++ '/' :: name.toList ∧
      (before = directory.toList ∨ before ++ ['/'] = directory.toList) := by
  have hempty : directory.isEmpty = false := by rwa [← Bool.not_eq_true, String.isEmpty_iff]
  rw [joinName, hname.not_startsWith, hempty, Bool.or_self, if_neg Bool.false_ne_true]
  split_ifs with hslash
  · obtain ⟨before, hbefore⟩ := endsWith_slash_iff.mp hslash
    refine ⟨before, ?_, Or.inr hbefore⟩
    rw [String.toList_append, ← hbefore, List.append_assoc]
    rfl
  · refine ⟨directory.toList, ?_, Or.inl rfl⟩
    rw [String.toList_append, String.toList_append, List.append_assoc]
    rfl

theorem IsPlain.resolve_joinName (hname : IsPlain name) (hresolve : t.resolve cwd directory = .ok p)
    (hp : t.node? p = some .directory) : t.resolve cwd (joinName directory name) = .ok (p ++ [name]) := by
  have hdirectory : directory ≠ "" := by
    rintro rfl
    cases hresolve
  obtain ⟨before, hjoined, hbefore⟩ := hname.toList_joinName_eq hdirectory
  have hparts : parts (joinName directory name) = splitName [] before ++ [name] := by
    rw [parts, hjoined, splitName_append_slash]
    exact congrArg _ (parts_of_isPlain hname)
  have horigin : origin cwd (joinName directory name) = origin cwd directory := by
    obtain ⟨more, hmore⟩ : ∃ more, (joinName directory name).toList = directory.toList ++ more := by
      rcases hbefore with hbefore | hbefore
      · exact ⟨_, hjoined.trans (by rw [hbefore])⟩
      · exact ⟨name.toList, by rw [hjoined, ← hbefore, List.append_assoc]; rfl⟩
    exact origin_eq_of_append hdirectory hmore
  have hwalk : t.walk (origin cwd directory) (splitName [] before) = .ok p := by
    rw [resolve_eq_walk hdirectory, parts] at hresolve
    rcases hbefore with rfl | hbefore
    · exact hresolve
    · rw [← hbefore, splitName_append_slash, walk_append] at hresolve
      cases hfront : t.walk (origin cwd directory) (splitName [] before) with
      | error e =>
        rw [hfront] at hresolve
        cases hresolve
      | ok q =>
        rw [hfront] at hresolve
        rw [eq_of_walk_blank hresolve]
  have hjoin : joinName directory name ≠ "" := by
    intro hempty
    rw [hempty] at hjoined
    simp at hjoined
  rw [resolve_eq_walk hjoin, horigin, hparts, walk_append, hwalk]
  exact walk_of_isPlain hname hp

end FileTree

namespace Recording

/-! ### Writing one file after the other -/

/-- The directory of a session is at `p`, and it holds the given files and no other ones. -/
structure Stores (r : Recording) (id : String) (p : Path) (files : List (String × String)) (t : FileTree) :
    Prop where
  resolve : t.resolve r.cwd (r.directory id) = .ok p
  directory : t.node? p = some .directory
  names : (t.names p).Perm (files.map Prod.fst)
  content : ∀ file ∈ files, t.node? (p ++ [file.1]) = some (.file file.2.toUTF8)

/-- Once the directory of a session is made, it holds the given files and no other ones. -/
def Prepared (r : Recording) (id : String) (p : Path) (files : List (String × String)) (t : FileTree) : Prop :=
  ∃ made, t.makeDirs r.cwd (r.directory id) = .ok made ∧ r.Stores id p files made

variable {r : Recording} {id name text : String} {p : Path} {files : List (String × String)}
  {t t' : FileTree}

theorem run_change {f : FileTree → Except FileError FileTree} (h : f t = .ok t') :
    (change f).run t = (.ok (), t') := by
  rw [change, run_get_bind, h]
  rfl

theorem run_look {α : Type} {f : FileTree → Except FileError α} {a : α} (h : f t = .ok a) :
    (look f).run t = (.ok a, t) := by
  rw [look, run_get_bind, h]
  rfl

namespace Stores

theorem prepared (h : r.Stores id p files t) : r.Prepared id p files t :=
  ⟨t, makeDirs_self h.resolve h.directory, h⟩

theorem read (h : r.Stores id p files t) (hname : IsPlain name) (hfile : (name, text) ∈ files) :
    t.read r.cwd (r.fileName id name) = .ok text.toUTF8 := by
  rw [FileTree.read, fileName, hname.resolve_joinName h.resolve h.directory]
  exact readAt_eq_ok_iff.mpr (h.content _ hfile)

theorem node?_eq_none (h : r.Stores id p files t) (hnew : name ∉ files.map Prod.fst) :
    t.node? (p ++ [name]) = none := by
  by_contra hnode
  exact hnew (h.names.mem_iff.mp (mem_names_iff.mpr hnode))

theorem writeFile (h : r.Stores id p files t) (hname : IsPlain name) (hnew : name ∉ files.map Prod.fst)
    (text : String) :
    ∃ t', (r.writeFile id name text).run t = (.ok (), t') ∧ r.Stores id p (files ++ [(name, text)]) t' := by
  have hnode := h.node?_eq_none hnew
  have hpath : p ++ [name] ≠ [] := by simp
  have hwrite : t.writeText r.cwd (r.fileName id name) text =
      .ok (t.put (p ++ [name]) (.file text.toUTF8)) := by
    rw [writeText, write, fileName, hname.resolve_joinName h.resolve h.directory]
    show t.writeAt (p ++ [name]) _ = _
    rw [writeAt, List.dropLast_concat, h.directory, hnode]
  have hkeeps : t.KeepsDirectories (t.put (p ++ [name]) (.file text.toUTF8)) :=
    keepsDirectories_put hpath (hnode ▸ (Option.some_ne_none _).symm)
  refine ⟨_, run_change hwrite, hkeeps.resolve h.resolve, hkeeps p h.directory, ?_, ?_⟩
  · rw [List.map_append]
    exact (names_put hnode).trans ((h.names.cons name).trans (List.perm_append_singleton name _).symm)
  · intro file hfile
    rw [node?_put _ hpath]
    rcases List.mem_append.mp hfile with hfile | hfile
    · have hne : p ++ [file.1] ≠ p ++ [name] := by
        intro hsame
        rw [List.append_cancel_left_eq, List.singleton_inj] at hsame
        exact hnew (hsame ▸ List.mem_map_of_mem hfile)
      rw [if_neg hne]
      exact h.content file hfile
    · rw [List.mem_singleton.mp hfile, if_pos rfl]

end Stores

/-! ### Cycles -/

/-- The file of a cycle, its name and its text. -/
def cycleFile (cycle : Cycle) : String × String :=
  (cycleName cycle.index, cycle.toJson.pretty)

theorem startsWith_cycleName (index : Nat) : (cycleName index).startsWith "cycle-" = true := by
  rw [String.startsWith_string_iff, toList_cycleName, List.append_assoc]
  exact List.prefix_append _ _

theorem endsWith_cycleName (index : Nat) : (cycleName index).endsWith ".json" = true := by
  rw [endsWith_iff, toList_cycleName]
  exact List.suffix_append _ _

theorem isCycleName_cycleName (index : Nat) : isCycleName (cycleName index) = true := by
  rw [isCycleName, startsWith_cycleName, endsWith_cycleName, Bool.and_self]

theorem isCycleName_eq_false (hname : ¬"cycle-".toList <+: name.toList) : isCycleName name = false := by
  rw [isCycleName, String.startsWith_string_eq_false_iff.mpr hname, Bool.false_and]

theorem map_fst_cycleFile (cycles : List Cycle) :
    (cycles.map cycleFile).map Prod.fst = cycles.map (cycleName ·.index) :=
  List.map_map

theorem Prepared.recordCycle (h : r.Prepared id p files t) (cycle : Cycle)
    (hnew : cycleName cycle.index ∉ files.map Prod.fst) :
    ∃ t', (r.recordCycle id cycle).run t = (.ok (), t') ∧
      r.Stores id p (files ++ [cycleFile cycle]) t' := by
  obtain ⟨made, hmake, hmade⟩ := h
  obtain ⟨t', hrun, ht'⟩ := hmade.writeFile (isPlain_cycleName cycle.index) hnew cycle.toJson.pretty
  refine ⟨t', ?_, ht'⟩
  rw [Recording.recordCycle, run_bind_ok (run_change hmake), hrun]

theorem Prepared.recordCycles (h : r.Prepared id p files t) (cycles : List Cycle)
    (hnodup : (files.map Prod.fst ++ cycles.map (cycleName ·.index)).Nodup) :
    ∃ t', (cycles.forM (r.recordCycle id)).run t = (.ok (), t') ∧
      r.Prepared id p (files ++ cycles.map cycleFile) t' := by
  -- What the first cycle leaves is where the others start, so the files already there are arbitrary.
  induction cycles generalizing files t with
  | nil => exact ⟨t, rfl, by rwa [List.map_nil, List.append_nil]⟩
  | cons cycle cycles ih =>
    rw [List.map_cons, List.append_cons] at hnodup
    have hnew : cycleName cycle.index ∉ files.map Prod.fst := by
      rw [List.append_assoc, List.nodup_append] at hnodup
      exact fun hold => hnodup.2.2 _ hold _ List.mem_cons_self rfl
    obtain ⟨t₁, hfirst, ht₁⟩ := h.recordCycle cycle hnew
    have hrest : ((files ++ [cycleFile cycle]).map Prod.fst ++ cycles.map (cycleName ·.index)).Nodup := by
      rwa [List.map_append]
    obtain ⟨t₂, hmore, ht₂⟩ := ih ht₁.prepared hrest
    rw [List.append_assoc] at ht₂
    refine ⟨t₂, ?_, ht₂⟩
    show ((r.recordCycle id cycle) >>= fun _ => cycles.forM (r.recordCycle id)).run t = _
    rw [run_bind_ok hfirst, hmore]

end Recording

end TextRepair
