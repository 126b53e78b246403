import TextRepair.Text.Blank
import TextRepair.Text.Lowercase
import Mathlib.Data.List.Basic
import Mathlib.Data.List.DropRight

/-!
# Normalized lines of blank texts

A text has no words, and so an empty normal form, just in case all its characters are blank
(`collapse_eq_nil_iff`). Words have no blanks, so they can be read off the normal form, and it tells texts apart by
their words (`collapse_eq_iff`). Lower case empties no text. A text without its outer blanks has no outer
blanks left (`trim_trim`).
-/

namespace TextRepair.Text

theorem wordsFrom_eq_nil_iff (current cs : List Char) :
    wordsFrom current cs = [] ↔ current = [] ∧ cs.all isBlank = true := by
  fun_induction wordsFrom current cs with
  | case1 current hcurrent => simpa using hcurrent
  | case2 current hcurrent => simpa using hcurrent
  | case3 current c cs hblank hcurrent ih =>
    rw [ih, List.all_cons, hblank, Bool.true_and]
    simpa using fun _ => hcurrent
  | case4 current c cs hblank hcurrent ih =>
    refine ⟨nofun, fun h => absurd (List.isEmpty_iff.mpr h.1) hcurrent⟩
  | case5 current c cs hblank ih =>
    rw [ih, List.all_cons, Bool.and_eq_true]
    exact ⟨fun h => absurd h.1 (List.cons_ne_nil _ _), fun h => absurd h.2.1 hblank⟩

theorem ne_nil_of_mem_wordsFrom {current cs word : List Char} (hword : word ∈ wordsFrom current cs) :
    word ≠ [] := by
  fun_induction wordsFrom current cs with
  | case1 => exact absurd hword List.not_mem_nil
  | case2 current hcurrent =>
    rw [List.mem_singleton.mp hword]
    simpa using hcurrent
  | case3 current c cs hblank hcurrent ih => exact ih hword
  | case4 current c cs hblank hcurrent ih =>
    rcases List.mem_cons.mp hword with rfl | hword
    · simpa using hcurrent
    · exact ih hword
  | case5 current c cs hblank ih => exact ih hword

theorem collapse_eq_nil_iff (s : String) : collapse s = [] ↔ isBlankText s = true := by
  have hwords : words s = [] ↔ isBlankText s = true := by
    rw [words, wordsFrom_eq_nil_iff, isBlankText]
    exact and_iff_right rfl
  rw [← hwords, collapse]
  cases hcases : words s with
  | nil => simp [List.intercalate]
  | cons word rest =>
    have hword : word ∈ wordsFrom [] s.toList := by
      rw [← words, hcases]
      exact List.mem_cons_self
    have hne := ne_nil_of_mem_wordsFrom hword
    cases rest <;> simp [List.intercalate, hne]

theorem isBlank_of_mem_wordsFrom {current cs word : List Char} (hcurrent : ∀ c ∈ current, isBlank c = false)
    (hword : word ∈ wordsFrom current cs) : ∀ c ∈ word, isBlank c = false := by
  fun_induction wordsFrom current cs with
  | case1 => exact absurd hword List.not_mem_nil
  | case2 current =>
    rw [List.mem_singleton.mp hword]
    exact fun c hc => hcurrent c (List.mem_reverse.mp hc)
  | case3 current c cs hblank hempty ih => exact ih (by simp) hword
  | case4 current c cs hblank hempty ih =>
    rcases List.mem_cons.mp hword with rfl | hword
    · exact fun c hc => hcurrent c (List.mem_reverse.mp hc)
    · exact ih (by simp) hword
  | case5 current c cs hblank ih =>
    exact ih (List.forall_mem_cons.mpr ⟨Bool.eq_false_iff.mpr hblank, hcurrent⟩) hword

theorem filter_splitOn_collapse (s : String) :
    ((collapse s).splitOn ' ').filter (fun word => !word.isEmpty) = words s := by
  have hne : ∀ word ∈ words s, word ≠ [] := fun word hword => ne_nil_of_mem_wordsFrom hword
  have hspace : ∀ word ∈ words s, ' ' ∉ word := by
    intro word hword hmem
    have hblank := isBlank_of_mem_wordsFrom (by simp) hword ' ' hmem
    cases hblank
  by_cases hwords : words s = []
  · rw [collapse, hwords]
    rfl
  · rw [collapse, List.splitOn_intercalate ' ' hspace hwords, List.filter_eq_self]
    exact fun word hword => by simpa using hne word hword

theorem collapse_eq_iff (s t : String) : collapse s = collapse t ↔ words s = words t := by
  constructor
  · intro h
    rw [← filter_splitOn_collapse s, h, filter_splitOn_collapse]
  · intro h
    rw [collapse, collapse, h]

theorem lowercase_eq_nil_iff (cs : List Char) : lowercase cs = [] ↔ cs = [] := by
  cases cs with
  | nil => simp [lowercase, lowercaseFrom]
  | cons c cs =>
    simp only [lowercase, lowercaseFrom, List.append_eq_nil_iff, List.cons_ne_nil, iff_false,
      not_and]
    intro hmapped
    split_ifs at hmapped

theorem dropEndWhile_eq_rdropWhile (p : Char → Bool) (cs : List Char) :
    dropEndWhile p cs = cs.rdropWhile p := rfl

theorem trim_trim (s : String) : trim (trim s) = trim s := by
  have hstart (cs : List Char) (hcs : cs.dropWhile isBlank = cs) :
      (cs.rdropWhile isBlank).dropWhile isBlank = cs.rdropWhile isBlank := by
    rw [List.dropWhile_eq_self_iff] at hcs ⊢
    intro hpos
    rw [(List.rdropWhile_prefix isBlank cs).getElem hpos]
    exact hcs _
  unfold trim
  rw [String.toList_ofList, dropEndWhile_eq_rdropWhile, dropEndWhile_eq_rdropWhile,
    hstart _ (List.dropWhile_idempotent _ _), List.rdropWhile_idempotent]

end TextRepair.Text
