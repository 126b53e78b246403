import TextRepair.Proofs.FileTree

/-!
# The files in a directory

A name that leads to a directory still does after any change that keeps directories
(`FileTree.KeepsDirectories`), and making this directory again changes nothing (`makeDirs_self`). The names
in a directory are those under which something can be found there (`mem_names_iff`), in order
(`pairwise_names`), and putting something under a new name adds that name (`names_put`).
-/

namespace TextRepair.FileTree

variable {t t' : FileTree} {p q cwd : Path} {directory name : String} {node : Node}

/-! ### Ways that stay open -/

/-- What is a directory in the first tree is one in the second. -/
def KeepsDirectories (t t' : FileTree) : Prop :=
  ∀ q, t.node? q = some .directory → t'.node? q = some .directory

theorem keepsDirectories_put (hp : p ≠ []) (hnode : t.node? p ≠ some .directory) :
    t.KeepsDirectories (t.put p node) := by
  intro q hq
  rw [node?_put node hp, if_neg]
  · exact hq
  · rintro rfl
    exact hnode hq

theorem KeepsDirectories.walk (h : t.KeepsDirectories t') {names : List String}
    (hwalk : t.walk p names = .ok q) : t'.walk p names = .ok q := by
  induction names generalizing p with
  | nil => exact hwalk
  | cons part rest ih =>
    rw [FileTree.walk] at hwalk ⊢
    cases hnode : t.node? p with
    | none =>
      rw [hnode] at hwalk
      cases hwalk
    | some node =>
      rw [hnode] at hwalk
      cases node with
      | file => cases hwalk
      | directory =>
        rw [h p hnode]
        dsimp only at hwalk ⊢
        split_ifs at hwalk ⊢ <;> exact ih hwalk

theorem KeepsDirectories.resolve (h : t.KeepsDirectories t') (hresolve : t.resolve cwd name = .ok p) :
    t'.resolve cwd name = .ok p := by
  rw [FileTree.resolve] at hresolve ⊢
  split_ifs at hresolve ⊢
  · exact h.walk hresolve
  · exact h.walk hresolve

theorem walk_append (t : FileTree) (p : Path) (names more : List String) :
    t.walk p (names ++ more) = t.walk p names >>= (t.walk · more) := by
  induction names generalizing p with
  | nil => rfl
  | cons part rest ih =>
    rw [List.cons_append, walk, walk]
    cases t.node? p with
    | none => rfl
    | some node =>
      cases node with
      | file => rfl
      | directory =>
        dsimp only
        split_ifs <;> exact ih _

/-- Where the way along the parts of a name starts. -/
def origin (cwd : Path) (name : String) : Path :=
  if name.startsWith "/" then [] else cwd

theorem resolve_eq_walk (hname : name ≠ "") (t : FileTree) (cwd : Path) :
    t.resolve cwd name = t.walk (origin cwd name) (parts name) := by
  rw [resolve, if_neg (by rwa [String.isEmpty_iff]), origin]
  split_ifs <;> rfl

theorem origin_eq_of_append {more : List Char} (hdirectory : directory ≠ "")
    (hname : name.toList = directory.toList ++ more) : origin cwd name = origin cwd directory := by
  have hslash : name.startsWith "/" = directory.startsWith "/" := by
    rw [Bool.eq_iff_iff, String.startsWith_string_iff, String.startsWith_string_iff, hname]
    obtain ⟨c, cs, hcs⟩ := List.exists_cons_of_ne_nil (mt String.toList_eq_nil_iff.mp hdirectory)
    show ['/'] <+: _ ↔ ['/'] <+: _
    rw [hcs, List.cons_append, List.cons_prefix_cons, List.cons_prefix_cons]
    simp
  rw [origin, origin, hslash]

theorem eq_of_walk_blank (h : t.walk q [""] = .ok p) : q = p := by
  rw [walk] at h
  split at h
  · cases h
  · cases h
  · exact Except.ok.inj h

theorem walk_of_isPlain (hname : IsPlain name) (hp : t.node? p = some .directory) :
    t.walk p [name] = .ok (p ++ [name]) := by
  have hspecial := hname.special
  simp only [List.mem_cons, List.not_mem_nil, or_false, not_or] at hspecial
  rw [walk, hp]
  dsimp only
  rw [if_neg (not_or.mpr ⟨hspecial.1, hspecial.2.1⟩), if_neg hspecial.2.2, walk]

theorem node?_of_walk {names : List String} (hwalk : t.walk p names = .ok q)
    (hq : t.node? q = some .directory) : t.node? p = some .directory := by
  cases names with
  | nil => rwa [← Except.ok.inj hwalk] at hq
  | cons part rest =>
    rw [walk] at hwalk
    cases hnode : t.node? p with
    | none =>
      rw [hnode] at hwalk
      cases hwalk
    | some node =>
      rw [hnode] at hwalk
      cases node with
      | file => cases hwalk
      | directory => rfl

theorem makeDirsFrom_of_walk {names : List String} (hwalk : t.walk p names = .ok q)
    (hq : t.node? q = some .directory) : t.makeDirsFrom p names = .ok t := by
  induction names generalizing p with
  | nil => rfl
  | cons part rest ih =>
    have hnode := node?_of_walk hwalk hq
    rw [walk, hnode] at hwalk
    dsimp only at hwalk
    rw [makeDirsFrom]
    by_cases hstay : part = "" ∨ part = "."
    · rw [if_pos hstay] at hwalk ⊢
      exact ih hwalk
    by_cases hup : part = ".."
    · rw [if_neg hstay, if_pos hup] at hwalk ⊢
      exact ih hwalk
    rw [if_neg hstay, if_neg hup] at hwalk ⊢
    rw [node?_of_walk hwalk hq]
    exact ih hwalk

theorem makeDirs_self (hresolve : t.resolve cwd name = .ok p) (hp : t.node? p = some .directory) :
    t.makeDirs cwd name = .ok t := by
  rw [resolve] at hresolve
  rw [makeDirs]
  split_ifs at hresolve ⊢
  · exact makeDirsFrom_of_walk hresolve hp
  · exact makeDirsFrom_of_walk hresolve hp

/-! ### Names in a directory -/

/-- The name of an entry in the directory at a path. -/
def nameIn? (p : Path) (entry : Path × Node) : Option String :=
  if entry.1.length = p.length + 1 && p.isPrefixOf entry.1 then entry.1.getLast? else none

theorem nameIn?_eq_some_iff {entry : Path × Node} : nameIn? p entry = some name ↔ entry.1 = p ++ [name] := by
  rw [nameIn?]
  constructor
  · intro h
    split_ifs at h with hentry
    rw [Bool.and_eq_true, decide_eq_true_eq, List.isPrefixOf_iff_prefix] at hentry
    obtain ⟨hlength, rest, hrest⟩ := hentry
    have hone : rest.length = 1 := by
      rw [← hrest, List.length_append] at hlength
      omega
    obtain ⟨last, rfl⟩ := List.length_eq_one_iff.mp hone
    rw [← hrest, List.getLast?_concat] at h
    rw [← hrest, Option.some.inj h]
  · intro h
    rw [h, if_pos (by simp), List.getLast?_concat]

theorem names_perm (t : FileTree) (p : Path) : (t.names p).Perm (t.entries.filterMap (nameIn? p)) :=
  List.mergeSort_perm _ _

theorem node?_concat (t : FileTree) (p : Path) (name : String) :
    t.node? (p ++ [name]) = (t.entries.find? (·.1 = p ++ [name])).map Prod.snd := by
  rw [node?, if_neg (by simp)]

theorem mem_names_iff : name ∈ t.names p ↔ t.node? (p ++ [name]) ≠ none := by
  rw [(names_perm t p).mem_iff, List.mem_filterMap, node?_concat, Ne, Option.map_eq_none_iff,
    List.find?_eq_none]
  push Not
  simp only [nameIn?_eq_some_iff, decide_eq_true_eq]

theorem names_put (hnew : t.node? (p ++ [name]) = none) :
    ((t.put (p ++ [name]) node).names p).Perm (name :: t.names p) := by
  have hany : t.entries.any (fun entry => decide (entry.1 = p ++ [name])) = false := by
    rw [node?_concat, Option.map_eq_none_iff, List.find?_eq_none] at hnew
    rw [List.any_eq_false]
    exact hnew
  have hput : (t.put (p ++ [name]) node).entries = t.entries ++ [(p ++ [name], node)] := by
    rw [put, hany, if_neg Bool.false_ne_true]
  have hadded : [(p ++ [name], node)].filterMap (nameIn? p) = [name] := by
    rw [List.filterMap_cons, nameIn?_eq_some_iff.mpr rfl, List.filterMap_nil]
  refine (names_perm _ p).trans ?_
  rw [hput, List.filterMap_append, hadded]
  exact (List.perm_append_singleton name _).trans ((names_perm t p).symm.cons name)

theorem pairwise_names (t : FileTree) (p : Path) : (t.names p).Pairwise (· ≤ ·) := by
  have hle : ∀ a b : String, (!decide (b < a)) = true ↔ a ≤ b := fun a b => by
    rw [Bool.not_eq_true', decide_eq_false_iff_not, String.not_lt]
  refine (List.pairwise_mergeSort ?_ ?_ _).imp fun hab => (hle _ _).mp hab
  · intro a b c hab hbc
    exact (hle a c).mpr (String.le_trans ((hle a b).mp hab) ((hle b c).mp hbc))
  · intro a b
    rw [Bool.or_eq_true, hle, hle]
    exact String.le_total a b

end TextRepair.FileTree
