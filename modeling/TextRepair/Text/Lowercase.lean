import TextRepair.Text.Table.Case
import TextRepair.Text.CharClass

/-!
# Lower case

`lowercase` maps a whole text. All mappings are one to one but two: a capital I with a dot becomes
an i and a combining dot, and a capital sigma becomes a final sigma at the end of a word, that is
after a cased letter and not before one, characters that ignore case not counted.
-/

namespace TextRepair.Text

/-- The one-to-one lower-case mapping; a character without one stays. -/
def lowerChar (c : Char) : Char :=
  if c.toNat < 128 then c.toLower
  else
    match Table.lower.find? fun (lo, hi, step, _) =>
        lo ≤ c.toNat && c.toNat ≤ hi && (c.toNat - lo) % step == 0 with
    | some (_, _, _, shift) => Char.ofNat (Int.toNat (c.toNat + shift))
    | none => c

/-- Some cased letter comes before anything but case-ignorable characters. -/
def startsCased (cs : List Char) : Bool :=
  match cs.dropWhile (inTable Table.caseIgnorable) with
  | [] => false
  | c :: _ => inTable Table.cased c

/-- Lower case of `cs`, where `before` is what precedes it, nearest character first. -/
def lowercaseFrom (before : List Char) : List Char → List Char
  | [] => []
  | c :: cs =>
    let mapped :=
      if c = 'Σ' then [if startsCased before && !startsCased cs then 'ς' else 'σ']
      else if c = 'İ' then ['i', '\u0307']
      else [lowerChar c]
    mapped ++ lowercaseFrom (c :: before) cs

/-- The text in lower case. -/
def lowercase (cs : List Char) : List Char :=
  lowercaseFrom [] cs

end TextRepair.Text
