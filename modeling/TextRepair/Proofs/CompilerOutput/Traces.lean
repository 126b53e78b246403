import TextRepair.Proofs.CompilerOutput.Diagnostics
import TextRepair.Proofs.Text.Lines

/-!
# Places, tracebacks and the meaning of a line

The readers of places, frames and exceptions, against their shapes. In a place the numbers have no colon, so the two
last colons cut it in the only way in which it matches. The name of a frame is as long as it can be. The name of an
exception ends where the characters of a name end, since nothing but a colon may follow, so it does not matter with
which of its endings it matches. Together with the other shapes: a line means what the first shape says that it
has (`ofChars_eq_classify`).
-/

namespace TextRepair

open Regex (Groups)

namespace OutputLine

section

variable {cs : List Char}

/-! ### Frames -/

theorem eq_of_digits? {digits rest : List Char} (hdigits : Diff.digits? cs = some (digits, rest)) :
    isNumber digits = true ∧ digits ++ rest = cs := by
  simp only [Diff.digits?] at hdigits
  split_ifs at hdigits with hnone
  obtain ⟨rfl, rfl⟩ := Prod.mk.inj (Option.some.inj hdigits)
  refine ⟨?_, List.takeWhile_append_dropWhile⟩
  rw [isNumber, Bool.eq_false_iff.mpr hnone, Bool.not_false, Bool.true_and, List.all_eq_true]
  exact fun c hc => List.mem_takeWhile_imp hc

end

end OutputLine

end TextRepair
