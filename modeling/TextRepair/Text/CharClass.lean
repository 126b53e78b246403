import TextRepair.Text.Table.Word
import TextRepair.Text.Blank

/-!
# Character classes of patterns

The classes that recognise compiler output and hunk headers: decimal digits of any script and word
characters. Both agree with the ASCII classes on ASCII.
-/

namespace TextRepair.Text

/-- Membership in a table of inclusive ranges of code points. -/
def inTable (table : List (Nat × Nat)) (c : Char) : Bool :=
  table.any fun range => range.1 ≤ c.toNat && c.toNat ≤ range.2

/-- A decimal digit of any script. -/
def isDigit (c : Char) : Bool :=
  if c.toNat < 128 then c.isDigit else inTable Table.digit c

/-- A letter, mark, decimal digit, connector or joiner. -/
def isWord (c : Char) : Bool :=
  if c.toNat < 128 then c.isAlphanum || c == '_' else inTable Table.word c

/-- An ASCII letter, an ASCII digit or an underscore. -/
def isAsciiWord (c : Char) : Bool :=
  c.isAlphanum || c == '_'

/-- The number written by a non-empty run of ASCII digits. -/
def natOfDigits? (cs : List Char) : Option Nat :=
  if !cs.isEmpty && cs.all Char.isDigit then
    some (cs.foldl (fun n c => 10 * n + (c.toNat - '0'.toNat)) 0)
  else none

/-- The same, if the number is below `bound`. -/
def natBelow? (bound : Nat) (cs : List Char) : Option Nat :=
  (natOfDigits? cs).filter (· < bound)

end TextRepair.Text
