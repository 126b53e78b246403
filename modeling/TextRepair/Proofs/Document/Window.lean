import TextRepair.Document
import Mathlib.Data.List.Nodup

/-!
# Numbered windows

Main statement, `Document.window_showsAround`: the window of a line has one row for each line within the
radius, in order, with the numbers flush right in fields of one width, and the mark stands in the row of
that line and in no other (`Document.ShowsAround`).

The width is that of the last number shown, and a smaller number has no more digits.
-/

namespace TextRepair

/-- A text flush right in a field. -/
def flushRight (width : Nat) (text : String) : String :=
  String.ofList (List.replicate (width - text.length) ' ') ++ text

theorem length_flushRight {width : Nat} {text : String} (h : text.length ≤ width) :
    (flushRight width text).length = width := by
  rw [flushRight, String.length_append, String.length_ofList, List.length_replicate]
  omega

theorem length_toString_le {m n : Nat} (h : m ≤ n) : (toString m).length ≤ (toString n).length := by
  rw [Nat.toString_eq_ofList_toDigits, Nat.toString_eq_ofList_toDigits, String.length_ofList,
    String.length_ofList, Nat.length_toDigits_le_iff (by decide) Nat.length_toDigits_pos]
  have hn : n < 10 ^ (Nat.toDigits 10 n).length :=
    (Nat.length_toDigits_le_iff (by decide) Nat.length_toDigits_pos).mp (Nat.le_refl _)
  omega

namespace Document

/-- The row of a line in a window about the line `center`. -/
def rowOf (d : Document) (center width i : Nat) : String :=
  (if i = center then ">" else " ") ++ flushRight width (toString (i + 1)) ++ " | "
    ++ d.texts.getD i "" ++ "\n"

/-- The text consists of one row for each line at most `radius` away from the line `center`, in order;
all numbers stand in fields of one width, and one row is marked, that of `center`. -/
def ShowsAround (d : Document) (center radius : Nat) (text : String) : Prop :=
  ∃ first count width, text = String.join ((List.range' first count).map (d.rowOf center width)) ∧
    (∀ i, i ∈ List.range' first count ↔ i < d.size ∧ center ≤ i + radius ∧ i ≤ center + radius) ∧
    (∀ i ∈ List.range' first count, (flushRight width (toString (i + 1))).length = width) ∧
    (List.range' first count).count center = 1

theorem row_eq_rowOf {d : Document} {i : Nat} {line : Line} (hline : d.lines[i]? = some line)
    (center width : Nat) : row (i = center) width (i + 1) line.text = d.rowOf center width i := by
  have htext : d.texts.getD i "" = line.text := by
    rw [texts, List.getD_eq_getElem?_getD, List.getElem?_map, hline]
    rfl
  rw [row, rowOf, htext, flushRight, String.append_assoc]
  simp only [decide_eq_true_eq, String.append_assoc]

theorem mapIdx_rows (d : Document) (center width first count : Nat) (hcount : first + count ≤ d.size) :
    (((d.lines.drop first).take count).mapIdx fun i line =>
        row (first + i = center) width (first + i + 1) line.text)
      = (List.range' first count).map (d.rowOf center width) := by
  have hsize : first + count ≤ d.lines.length := hcount
  apply List.ext_getElem
  · simp only [List.length_mapIdx, List.length_take, List.length_drop, List.length_map,
      List.length_range']
    omega
  · intro i hi hi'
    rw [List.length_map, List.length_range'] at hi'
    have hline : d.lines[first + i]? = some d.lines[first + i] := List.getElem?_eq_getElem (by omega)
    rw [List.getElem_mapIdx, List.getElem_map, List.getElem_range', Nat.one_mul, List.getElem_take,
      List.getElem_drop]
    exact row_eq_rowOf hline center width

/-- The window of a line shows what is around it; a line beyond the end counts as the last one. -/
theorem window_showsAround (d : Document) (hne : d.isEmpty = false) (center radius : Nat) :
    d.ShowsAround (min center (d.size - 1)) radius (d.window center radius) := by
  have hsize : 0 < d.size := by
    rw [isEmpty, List.isEmpty_eq_false_iff] at hne
    exact List.length_pos_iff.mpr hne
  obtain ⟨c, hc⟩ : ∃ c, c = min center (d.size - 1) := ⟨_, rfl⟩
  obtain ⟨stop, hstop⟩ : ∃ stop, stop = min (c + radius + 1) d.size := ⟨_, rfl⟩
  rw [← hc]
  refine ⟨c - radius, stop - (c - radius), (toString stop).length, ?_, ?_, ?_, ?_⟩
  · rw [← mapIdx_rows d c _ _ _ (by omega), window, if_neg (by simp [hne])]
    simp only [← hc, ← hstop]
  · intro i
    rw [List.mem_range'_1]
    omega
  · intro i hi
    rw [List.mem_range'_1] at hi
    exact length_flushRight (length_toString_le (by omega))
  · apply List.count_eq_one_of_mem List.nodup_range'
    rw [List.mem_range'_1]
    omega

end Document

end TextRepair
