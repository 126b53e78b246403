/-!
# Bytes as text

`decodeLossy` reads bytes as UTF-8. Where they are not, each longest start of a character that cannot
be completed, or else each single byte, becomes a replacement character.
-/

namespace TextRepair.Text

/-- The replacement character. -/
def replacement : Char := '\ufffd'

/-- What the first byte of a character promises: the payload of that byte, the number of bytes to
follow, and the range of the next one. -/
def leadOf? (b : Nat) : Option (Nat × Nat × Nat × Nat) :=
  if 0xC2 ≤ b ∧ b ≤ 0xDF then some (b - 0xC0, 1, 0x80, 0xBF)
  else if b = 0xE0 then some (0, 2, 0xA0, 0xBF)
  else if b = 0xED then some (0xD, 2, 0x80, 0x9F)
  else if 0xE1 ≤ b ∧ b ≤ 0xEF then some (b - 0xE0, 2, 0x80, 0xBF)
  else if b = 0xF0 then some (0, 3, 0x90, 0xBF)
  else if b = 0xF4 then some (4, 3, 0x80, 0x8F)
  else if 0xF1 ≤ b ∧ b ≤ 0xF3 then some (b - 0xF0, 3, 0x80, 0xBF)
  else none

/-- A character under way: its payload, the bytes to follow, and the range of the next one. -/
abbrev Partial := Nat × Nat × Nat × Nat

/-- A byte where a character starts: what it finishes and what it begins. -/
def startChar (b : UInt8) : List Char × Option Partial :=
  if b.toNat < 0x80 then ([Char.ofNat b.toNat], none)
  else
    match leadOf? b.toNat with
    | some lead => ([], some lead)
    | none => ([replacement], none)

/-- The characters of bytes, with a character under way. -/
def decodeFrom (current : Option Partial) : List UInt8 → List Char
  | [] => if current.isSome then [replacement] else []
  | b :: bs =>
    match current with
    | none =>
      let (done, current) := startChar b
      done ++ decodeFrom current bs
    | some (payload, left, low, high) =>
      if low ≤ b.toNat ∧ b.toNat ≤ high then
        let payload := payload * 64 + b.toNat % 64
        if left ≤ 1 then Char.ofNat payload :: decodeFrom none bs
        else decodeFrom (some (payload, left - 1, 0x80, 0xBF)) bs
      else
        let (done, current) := startChar b
        replacement :: done ++ decodeFrom current bs

/-- Bytes as a text. -/
def decodeLossy (bytes : List UInt8) : String :=
  String.ofList (decodeFrom none bytes)

end TextRepair.Text
