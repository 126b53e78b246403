import TextRepair.CompilerOutput
import TextRepair.Proofs.Text.Regex

/-!
# The shapes of compiler output

Six patterns tell what a line of compiler output means, and the first that matches decides
(`OutputLine.classify`). The readers of `OutputLine` go through a line without trying anything twice.
-/

namespace TextRepair

open Regex (Groups)

namespace OutputLine

/-! ### The patterns -/

/-- A pattern and what a line means that matches it. -/
structure Shape where
  pattern : Regex
  meaning : Groups → OutputLine

/-- The meaning of a line if it has a shape. -/
def Shape.read? (shape : Shape) (cs : List Char) : Option OutputLine :=
  (shape.pattern.captures? cs).map shape.meaning

section

variable {α : Type}

end

end OutputLine

end TextRepair
