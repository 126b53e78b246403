import Mathlib.Data.List.Induction
import Mathlib.Data.List.Nodup

/-!
# Lists without copies

What `List.eraseDups` keeps when an entry comes at the end: one that was not there before.
-/

namespace TextRepair

section

variable {α : Type} [BEq α] [LawfulBEq α]

theorem eraseDups_append_of_mem {xs : List α} {x : α} (hx : x ∈ xs) : (xs ++ [x]).eraseDups = xs.eraseDups := by
  have hold : [x].removeAll xs = [] := by
    simpa [List.removeAll] using hx
  rw [List.eraseDups_append, hold, List.eraseDups_nil, List.append_nil]

theorem eraseDups_append_of_notMem {xs : List α} {x : α} (hx : x ∉ xs) :
    (xs ++ [x]).eraseDups = xs.eraseDups ++ [x] := by
  have hnew : [x].removeAll xs = [x] := by
    simpa [List.removeAll] using hx
  rw [List.eraseDups_append, hnew]
  rfl

theorem nodup_eraseDups (xs : List α) : xs.eraseDups.Nodup := by
  induction xs using List.reverseRecOn with
  | nil => exact .nil
  | append_singleton xs x ih =>
    by_cases hx : x ∈ xs
    · rwa [eraseDups_append_of_mem hx]
    · rw [eraseDups_append_of_notMem hx, ← List.concat_eq_append]
      exact ih.concat fun h => hx (List.mem_eraseDups.mp h)

end

end TextRepair
