import TextRepair.Text.Table.Print
import TextRepair.Text.CharClass

/-!
# Quoted texts

A text between double quotes in which every character stays recognisable: quote, backslash and the
common controls have short escapes, and a character that has no visible form, or that would attach
to the character before it, is written by its code point in hexadecimal.
-/

namespace TextRepair.Text

/-- Lower-case hexadecimal digits, without leading zeros. -/
def hexDigits (n : Nat) : List Char :=
  Nat.toDigits 16 n

/-- One character as it stands between the quotes. -/
def quotedChar (c : Char) : List Char :=
  if c = '\x00' then ['\\', '0']
  else if c = '\t' then ['\\', 't']
  else if c = '\r' then ['\\', 'r']
  else if c = '\n' then ['\\', 'n']
  else if c = '"' then ['\\', '"']
  else if c = '\\' then ['\\', '\\']
  else if inTable Table.extender c || inTable Table.unprintable c then
    ['\\', 'u', '\x7b'] ++ hexDigits c.toNat ++ ['\x7d']
  else [c]

/-- The text between double quotes, with escapes. -/
def quoted (s : String) : String :=
  String.ofList ('"' :: s.toList.flatMap quotedChar ++ ['"'])

end TextRepair.Text
