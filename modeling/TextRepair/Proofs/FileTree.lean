import TextRepair.FileTree
import Mathlib.Data.List.Basic

/-!
# Names, paths and writes

Where a name leads depends on its parts alone (`FileTree.destination`): the tree decides only whether the
way can be gone, for which every part on it has to be a directory (`resolve_eq_ok`). A write changes what
one path leads to and nothing else (`write_eq_ok`, `node?_put`), and making directories changes no file
(`node?_makeDirs`).
-/

namespace TextRepair.FileTree

variable {t t' : FileTree} {p q cwd : Path} {name : String} {content : ByteArray}

/-! ### Where a name leads -/

/-- The way from a path along one part of a name. -/
def step (p : Path) (part : String) : Path :=
  if part = "" ∨ part = "." then p else if part = ".." then p.dropLast else p ++ [part]

/-- The parts of a name. -/
def parts (name : String) : List String :=
  splitName [] name.toList

/-- The path of a name, relative ones starting at `cwd`, if the tree lets one go there. -/
def destination (cwd : Path) (name : String) : Path :=
  (parts name).foldl step (if name.startsWith "/" then [] else cwd)

theorem walk_eq_ok {names : List String} (h : t.walk p names = .ok q) : q = names.foldl step p := by
  induction names generalizing p with
  | nil => exact (Except.ok.inj h).symm
  | cons part rest ih =>
    unfold walk at h
    rw [List.foldl_cons, step]
    split at h
    · cases h
    · cases h
    · split_ifs at h ⊢ <;> exact ih h

theorem resolve_eq_ok (h : t.resolve cwd name = .ok p) : p = destination cwd name := by
  unfold resolve at h
  unfold destination
  split_ifs at h ⊢
  · exact walk_eq_ok h
  · exact walk_eq_ok h

theorem readAt_eq_ok_iff : t.readAt p = .ok content ↔ t.node? p = some (.file content) := by
  unfold readAt
  cases t.node? p with
  | none => exact ⟨nofun, nofun⟩
  | some node => cases node <;> simp

/-! ### What a write changes -/

theorem find?_replace (entries : List (Path × Node)) (node : Node) (q : Path) :
    ((entries.map fun entry => if entry.1 = p then (p, node) else entry).find? (·.1 = q)).map Prod.snd =
      (entries.find? (·.1 = q)).map fun entry => if q = p then node else entry.2 := by
  have hkey : ((fun entry : Path × Node => decide (entry.1 = q)) ∘
      fun entry => if entry.1 = p then (p, node) else entry) = fun entry => decide (entry.1 = q) := by
    funext entry
    rw [Function.comp_apply]
    split_ifs with hentry
    · rw [hentry]
    · rfl
  rw [List.find?_map, hkey]
  cases hfound : entries.find? (·.1 = q) with
  | none => rfl
  | some entry =>
    have hentry : entry.1 = q := by simpa using List.find?_some hfound
    rw [Option.map_some, Option.map_some, Option.map_some, hentry]
    split_ifs <;> rfl

theorem node?_put (node : Node) (hp : p ≠ []) (q : Path) :
    (t.put p node).node? q = if q = p then some node else t.node? q := by
  have hroot : p.isEmpty = false := List.isEmpty_eq_false_iff.mpr hp
  by_cases hq : q.isEmpty = true
  · have hne : q ≠ p := by
      rintro rfl
      rw [hq] at hroot
      cases hroot
    rw [node?, node?, if_pos hq, if_neg hne, if_pos hq]
  rw [node?, node?, if_neg hq, if_neg hq, put]
  split_ifs with hany hsame hsame
  · obtain ⟨entry, hfound⟩ := Option.isSome_iff_exists.mp (List.find?_isSome.mpr (List.any_eq_true.mp hany))
    rw [find?_replace, hsame, hfound, Option.map_some, if_pos rfl]
  · rw [find?_replace]
    simp only [if_neg hsame]
  all_goals
    rw [Bool.not_eq_true, List.any_eq_false] at hany
    rw [List.find?_append]
  · have hnone : t.entries.find? (·.1 = q) = none := by
      rw [List.find?_eq_none, hsame]
      exact hany
    rw [hnone, Option.none_or, hsame]
    simp
  · rw [List.find?_singleton, if_neg (by simpa using Ne.symm hsame), Option.or_none]

theorem writeAt_eq_ok (h : t.writeAt p content = .ok t') :
    p ≠ [] ∧ t.node? p ≠ some .directory ∧ t' = t.put p (.file content) := by
  unfold writeAt at h
  split at h
  · cases h
  · cases h
  · cases h
  · rename_i hdirectory hfile
    refine ⟨?_, ?_, (Except.ok.inj h).symm⟩
    · rintro rfl
      exact hfile rfl
    · exact hfile

theorem write_eq_ok (h : t.write cwd name content = .ok t') :
    t.resolve cwd name = .ok (destination cwd name) ∧ destination cwd name ≠ [] ∧
      t' = t.put (destination cwd name) (.file content) := by
  unfold write at h
  cases hresolve : t.resolve cwd name with
  | error e =>
    rw [hresolve] at h
    cases h
  | ok p =>
    rw [hresolve] at h
    obtain rfl := resolve_eq_ok hresolve
    obtain ⟨hroot, -, hput⟩ := writeAt_eq_ok h
    exact ⟨rfl, hroot, hput⟩

/-- A write leaves its content where the name leads, and everything else as it is. -/
theorem node?_write (h : t.write cwd name content = .ok t') (q : Path) :
    t'.node? q = if q = destination cwd name then some (.file content) else t.node? q := by
  obtain ⟨-, hroot, rfl⟩ := write_eq_ok h
  exact node?_put _ hroot q

theorem node?_makeDirsFrom {names : List String} (h : t.makeDirsFrom p names = .ok t')
    (hq : t.node? q = some (.file content)) : t'.node? q = some (.file content) := by
  induction names generalizing t p with
  | nil =>
    cases h
    exact hq
  | cons part rest ih =>
    unfold makeDirsFrom at h
    by_cases hstay : part = "" ∨ part = "."
    · rw [if_pos hstay] at h
      exact ih h hq
    by_cases hup : part = ".."
    · rw [if_neg hstay, if_pos hup] at h
      exact ih h hq
    rw [if_neg hstay, if_neg hup] at h
    cases hnode : t.node? (p ++ [part]) with
    | some node =>
      rw [hnode] at h
      cases node with
      | directory => exact ih h hq
      | file => cases h
    | none =>
      rw [hnode] at h
      have hne : q ≠ p ++ [part] := by
        rintro rfl
        rw [hnode] at hq
        cases hq
      refine ih h ?_
      rw [node?_put _ (by simp), if_neg hne]
      exact hq

theorem node?_makeDirs (h : t.makeDirs cwd name = .ok t') (hq : t.node? q = some (.file content)) :
    t'.node? q = some (.file content) :=
  node?_makeDirsFrom h hq

/-! ### Names inside a directory -/

/-- A name that goes one step down from its directory. -/
structure IsPlain (name : String) : Prop where
  slash : '/' ∉ name.toList
  special : name ∉ ["", ".", ".."]

theorem step_of_isPlain (h : IsPlain name) (p : Path) : step p name = p ++ [name] := by
  have hspecial := h.special
  simp only [List.mem_cons, List.not_mem_nil, or_false, not_or] at hspecial
  rw [step, if_neg (not_or.mpr ⟨hspecial.1, hspecial.2.1⟩), if_neg hspecial.2.2]

theorem splitName_append_slash (current cs rest : List Char) :
    splitName current (cs ++ '/' :: rest) = splitName current cs ++ splitName [] rest := by
  induction cs generalizing current with
  | nil => simp [splitName]
  | cons c cs ih =>
    rw [List.cons_append, splitName, splitName]
    split_ifs
    · rw [ih, List.cons_append]
    · exact ih _

theorem splitName_of_no_slash {current cs : List Char} (h : '/' ∉ cs) :
    splitName current cs = [String.ofList (current.reverse ++ cs)] := by
  induction cs generalizing current with
  | nil => simp [splitName]
  | cons c cs ih =>
    have hne : ¬c = '/' := fun hc => h (by simp [hc])
    rw [splitName, if_neg hne, ih fun hcs => h (List.mem_cons_of_mem _ hcs)]
    simp

theorem parts_of_isPlain (h : IsPlain name) : parts name = [name] := by
  rw [parts, splitName_of_no_slash h.slash]
  simp

end TextRepair.FileTree
