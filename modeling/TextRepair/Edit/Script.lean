import TextRepair.Document
import TextRepair.Edit.Diff

/-!
# Edit scripts

A script is a hunk as a diff writes it: the numbers of its header and the body lines in order. Diffs are
read in `Diff.hunks`; here they are written, in all the ways in which they are handed over.

* `EditScript.lines` : the header and the body lines.
* `EditScript.hunk` : the change that a script stands for.
* `Diff.written` : the lines of a diff, possibly with the names of the files.
* `Diff.Presents` : a text with a diff in it, bare or in a fence with prose around it.
-/

namespace TextRepair

namespace Change

/-- The text of the line, whether or not it changes. -/
def text : Change → List Char
  | context text | delete text | insert text => text

/-- Whether the rendered line starts like the old name in the header of a file. -/
def IsOldName (c : Change) : Prop :=
  ∃ name, c = delete ("-- ".toList ++ name)

/-- Whether the rendered line starts like the new name in the header of a file. -/
def IsNewName (c : Change) : Prop :=
  ∃ name, c = insert ("++ ".toList ++ name)

end Change

/-- A hunk of a diff. Lines count from 1, and the counts need not fit the body. -/
structure EditScript where
  oldStart : Nat
  oldCount : Nat
  newStart : Nat
  newCount : Nat
  changes : List Change

namespace EditScript

/-- A line number and a count. -/
def range (start count : Nat) : List Char :=
  Nat.toDigits 10 start ++ ',' :: Nat.toDigits 10 count

/-- The header with both ranges. -/
def header (s : EditScript) : List Char :=
  "@@ -".toList ++ (range s.oldStart s.oldCount ++
    (" +".toList ++ (range s.newStart s.newCount ++ " @@".toList)))

/-- The lines as a diff shows them. -/
def lines (s : EditScript) : List (List Char) :=
  s.header :: s.changes.map Change.render

/-- The context and deleted lines. -/
def old (s : EditScript) : List String :=
  (s.changes.filterMap Change.old?).map String.ofList

/-- The context and inserted lines. -/
def new (s : EditScript) : List String :=
  (s.changes.filterMap Change.new?).map String.ofList

/-- How many empty lines a list ends with. -/
def blankEnd (ls : List String) : Nat :=
  (ls.reverse.takeWhile (· = "")).length

/-- How many empty lines both versions end with. -/
def commonBlankEnd (s : EditScript) : Nat :=
  min (blankEnd s.old) (blankEnd s.new)

/-- The change that a script stands for: the empty lines that both versions end with are left out, and
where there are no old lines the new ones go after the line that the header names. -/
def hunk (s : EditScript) : Hunk where
  anchor := s.old.take (s.old.length - s.commonBlankEnd)
  replacement := s.new.take (s.new.length - s.commonBlankEnd)
  hint := some (s.oldStart - 1)
  insertionPoint := if s.old = [] then some s.oldStart else none

/-- A script none of whose lines can be taken for something else: no terminator in a line or at its end,
no context line that is a fence, and no two lines that are the header of a file. -/
structure IsPlain (s : EditScript) : Prop where
  start : s.oldStart < UInt64.size
  unbroken : ∀ c ∈ s.changes, '\n' ∉ c.text ∧ c.text.getLast? ≠ some '\r'
  unfenced : ∀ text, .context text ∈ s.changes → Diff.isFence text = false
  unnamed : ∀ before c next after, s.changes = before ++ c :: next :: after →
    ¬(c.IsOldName ∧ next.IsNewName)

end EditScript

namespace Diff

/-- The lines of a diff: the names of the files, if they are given, and the scripts. -/
def written (names : Option (List Char × List Char)) (scripts : List EditScript) : List (List Char) :=
  (match names with
    | some (old, new) => ["--- ".toList ++ old, "+++ ".toList ++ new]
    | none => []) ++ scripts.flatMap EditScript.lines

/-- The text consists of these lines, each with a line feed or a carriage return and a line feed. -/
def Holds (d : Document) (lines : List (List Char)) : Prop :=
  d.lines.map (fun line => line.text.toList) = lines ∧
    ∀ line ∈ d.lines, line.ending = .lf ∨ line.ending = .crlf

/-- The text ends with a fence and has no other one. -/
def OpensFence (text : String) : Prop :=
  text.toList.getLast? = some '\n' ∧ ∃ prose fence, Text.lines text = prose ++ [fence] ∧
    isFence fence.toList = true ∧ ∀ line ∈ prose, isFence line.toList = false

/-- The text starts with a fence and has no other one. -/
def ClosesFence (text : String) : Prop :=
  ∃ fence prose, Text.lines text = fence :: prose ∧
    isFence fence.toList = true ∧ ∀ line ∈ prose, isFence line.toList = false

/-- A text in which a diff is handed over: the diff itself, or prose with the diff in a fence. -/
inductive Presents (diff : String) : String → Prop
  | bare : Presents diff diff
  | fenced {before after : String} (hbefore : OpensFence before) (hafter : ClosesFence after) :
    Presents diff (before ++ diff ++ after)

end Diff

end TextRepair
