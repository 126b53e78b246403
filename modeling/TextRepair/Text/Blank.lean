/-!
# Blank characters

* `isBlank` : the characters with the Unicode property White_Space.
* `trimStart`, `trimEnd`, `trim` : a text without its outer blanks.
* `words`, `collapse` : the maximal runs of non-blank characters, and those runs joined by single
  spaces. Two texts with the same `collapse` differ in blanks only.
-/

namespace TextRepair.Text

/-- The characters with the Unicode property White_Space. -/
def isBlank (c : Char) : Bool :=
  let n := c.toNat
  (9 ≤ n && n ≤ 13) || n == 0x20 || n == 0x85 || n == 0xA0 || n == 0x1680 ||
    (0x2000 ≤ n && n ≤ 0x200A) || n == 0x2028 || n == 0x2029 || n == 0x202F || n == 0x205F ||
    n == 0x3000

/-- No character of the text is visible; true of the empty text. -/
def isBlankText (s : String) : Bool :=
  s.toList.all isBlank

/-- The text from its first non-blank character on. -/
def trimStart (s : String) : String :=
  String.ofList (s.toList.dropWhile isBlank)

/-- Everything up to the last character that fails `p`. -/
def dropEndWhile (p : Char → Bool) (cs : List Char) : List Char :=
  (cs.reverse.dropWhile p).reverse

/-- The text up to its last non-blank character. -/
def trimEnd (s : String) : String :=
  String.ofList (dropEndWhile isBlank s.toList)

/-- The text between its first and its last non-blank character, both included. -/
def trim (s : String) : String :=
  String.ofList (dropEndWhile isBlank (s.toList.dropWhile isBlank))

/-- The blanks before the first non-blank character. -/
def indentOf (s : String) : List Char :=
  s.toList.takeWhile isBlank

/-- The words of `cs`, where `current` holds the reversed start of a word. -/
def wordsFrom (current : List Char) : List Char → List (List Char)
  | [] => if current.isEmpty then [] else [current.reverse]
  | c :: cs =>
    if isBlank c then
      if current.isEmpty then wordsFrom [] cs else current.reverse :: wordsFrom [] cs
    else
      wordsFrom (c :: current) cs

/-- The maximal runs of non-blank characters, in order. -/
def words (s : String) : List (List Char) :=
  wordsFrom [] s.toList

/-- The words of a text with one space between neighbours. -/
def collapse (s : String) : List Char :=
  [' '].intercalate (words s)

/-- A text with every run of blanks made one space and none left at either end. -/
def collapseBlanks (s : String) : String :=
  String.ofList (collapse s)

theorem isBlank_of_isWhitespace {c : Char} (h : c.isWhitespace = true) : isBlank c = true := by
  simp only [Char.isWhitespace, Bool.or_eq_true, decide_eq_true_eq] at h
  rcases h with ((rfl | rfl) | rfl) | rfl <;> decide

@[simp] theorem wordsFrom_nil_nil : wordsFrom [] [] = [] := rfl

@[simp] theorem words_empty : words "" = [] := rfl

end TextRepair.Text
