import TextRepair.Edit.Hunk
import TextRepair.Text.CharClass
import TextRepair.Text.Lines

/-!
# Unified diffs

A diff is read for its hunks only: file headers, prose and wrong counts do not matter, and line
numbers become hints. If the text has fences of three backquotes, only what stands between an odd one
and the next one is read.

* `Change` : a body line, with `Change.render` and `Change.ofLine?` between the two forms.
* `Diff.hunks` : the hunks of a diff, in order.
-/

namespace TextRepair

/-- Why a text is not a diff. Lines count from 1, fences and what is outside them left out. -/
inductive DiffError where
  /-- There is no hunk header at all. -/
  | noHunk
  /-- A hunk without old lines has a header without a line range. -/
  | noRange (line : Nat)
  /-- The old start of a header is not a line number. -/
  | badStart (line : Nat)
  deriving DecidableEq, Repr

namespace DiffError

/-- The line at fault, 0 for the text as a whole. -/
def line : DiffError → Nat
  | noHunk => 0
  | noRange line | badStart line => line

/-- What is wrong. -/
def reason : DiffError → String
  | noHunk => "no hunk headers found"
  | noRange _ => "insertion hunk has no line range in its header"
  | badStart _ => "invalid old start line number"

def message (e : DiffError) : String :=
  s!"unified diff parse error at line {e.line}: {e.reason}"

end DiffError

/-- A body line of a hunk. -/
inductive Change where
  | context (text : List Char)
  | delete (text : List Char)
  | insert (text : List Char)
  deriving DecidableEq, Repr

namespace Change

/-- The text of the line before the change, if it was there. -/
def old? : Change → Option (List Char)
  | context text | delete text => some text
  | insert _ => none

/-- The text of the line after the change, if it is there. -/
def new? : Change → Option (List Char)
  | context text | insert text => some text
  | delete _ => none

/-- The line as a diff shows it. -/
def render : Change → List Char
  | context text => ' ' :: text
  | delete text => '-' :: text
  | insert text => '+' :: text

/-- Reads a body line. A line without a mark is context; a line that starts with a backslash speaks
about the line before it and is none of its own. -/
def ofLine? : List Char → Option Change
  | '+' :: text => some (insert text)
  | '-' :: text => some (delete text)
  | '\\' :: _ => none
  | ' ' :: text => some (context text)
  | text => some (context text)

theorem ofLine?_render (c : Change) : ofLine? c.render = some c := by
  cases c <;> rfl

end Change

namespace Diff

/-- The mark that starts and ends a fenced part. -/
def fence : List Char := List.replicate 3 (Char.ofNat 0x60)

/-- Whether a line, its indentation aside, starts with a fence. -/
def isFence (line : List Char) : Bool :=
  fence.isPrefixOf (line.dropWhile Text.isBlank)

/-- The lines inside fences; `inside` tells whether a fence is open. -/
def insideFences (inside : Bool) : List (List Char) → List (List Char)
  | [] => []
  | line :: rest =>
    if isFence line then insideFences (!inside) rest
    else if inside then line :: insideFences inside rest
    else insideFences inside rest

/-- The lines that are read: all of them, or those inside fences if there is a fence. -/
def unfenced (lines : List (List Char)) : List (List Char) :=
  if lines.any isFence then insideFences false lines else lines

/-- Whether a line starts a hunk. -/
def isHeader (line : List Char) : Bool :=
  ['@', '@'].isPrefixOf line

/-- Whether the first line and the line after it are the header of a file. -/
def isFileHeader (line next : List Char) : Bool :=
  "--- ".toList.isPrefixOf line && "+++ ".toList.isPrefixOf next

/-- What follows a given start, if the text starts so. -/
def after? (start : List Char) (cs : List Char) : Option (List Char) :=
  if start.isPrefixOf cs then some (cs.drop start.length) else none

/-- A non-empty run of digits and what follows it. -/
def digits? (cs : List Char) : Option (List Char × List Char) :=
  let digits := cs.takeWhile Text.isDigit
  if digits.isEmpty then none else some (digits, cs.dropWhile Text.isDigit)

/-- A line number, possibly with a count after a comma; the number and what follows. -/
def range? (cs : List Char) : Option (List Char × List Char) :=
  (digits? cs).map fun (start, rest) =>
    match (after? [','] rest).bind digits? with
    | some (_, rest) => (start, rest)
    | none => (start, rest)

/-- The digits of the old start in a header that names both ranges. -/
def oldStart? (line : List Char) : Option (List Char) := do
  let rest ← after? "@@ -".toList line
  let (start, rest) ← range? rest
  let rest ← after? " +".toList rest
  let (_, rest) ← range? rest
  let _ ← after? " @@".toList rest
  return start

/-- A hunk being read: the line of its header, the old start if the header names one, and its body
lines, last one first. -/
structure Draft where
  line : Nat
  start : Option Nat
  body : List Change
  deriving Repr

/-- The first draft of a hunk with the given header. -/
def Draft.ofHeader (number : Nat) (line : List Char) : Except DiffError Draft :=
  match oldStart? line with
  | none => .ok ⟨number, none, []⟩
  | some digits =>
    match Text.natBelow? UInt64.size digits with
    | some start => .ok ⟨number, some start, []⟩
    | none => .error (.badStart number)

/-- The draft with one more body line. -/
def Draft.push (d : Draft) (line : List Char) : Draft :=
  match Change.ofLine? line with
  | some change => { d with body := change :: d.body }
  | none => d

/-- The hunk of a draft. A hunk without old lines goes after the line that its header names. -/
def Draft.finish (d : Draft) : Except DiffError Hunk :=
  let body := d.body.reverse
  let anchor := (body.filterMap Change.old?).map String.ofList
  let replacement := (body.filterMap Change.new?).map String.ofList
  let hint := d.start.map (· - 1)
  if anchor.isEmpty then
    match d.start with
    | some start => .ok { anchor, replacement, hint, insertionPoint := some start }
    | none => .error (.noRange d.line)
  else .ok { anchor, replacement, hint, insertionPoint := none }

/-- The hunk of the current draft, if there is one. -/
def close : Option Draft → Except DiffError (List Hunk)
  | none => .ok []
  | some d => d.finish.map fun h => [h]

/-- A line without carriage returns at its end. -/
def stripReturns (line : List Char) : List Char :=
  Text.dropEndWhile (· = '\r') line

/-- Reads the lines from number `number` on, `current` being the draft of the last header. A file
header ends it, and lines before the first hunk header are passed over. -/
def read (number : Nat) (current : Option Draft) :
    List (List Char) → Except DiffError (List Hunk)
  | [] => close current
  | line :: rest =>
    let line := stripReturns line
    if isFileHeader line (rest.headD []) then
      match rest with
      | [] => close current
      | _ :: rest => do
        let done ← close current
        let more ← read (number + 2) none rest
        return done ++ more
    else if isHeader line then do
      let done ← close current
      let draft ← Draft.ofHeader number line
      let more ← read (number + 1) (some draft) rest
      return done ++ more
    else
      read (number + 1) (current.map (·.push line)) rest

/-- Two lists without the empty lines that both end with, given in reverse. -/
def dropCommonBlank : List String → List String → List String × List String
  | "" :: xs, "" :: ys => dropCommonBlank xs ys
  | xs, ys => (xs, ys)

/-- A hunk without the empty context lines at its end. -/
def trimEnd (h : Hunk) : Hunk :=
  let (anchor, replacement) := dropCommonBlank h.anchor.reverse h.replacement.reverse
  { h with anchor := anchor.reverse, replacement := replacement.reverse }

/-- Whether the text has a hunk header. -/
def isDiff (raw : String) : Bool :=
  (Text.lines raw).any fun line => isHeader line.toList

/-- The hunks of a diff. -/
def hunks (raw : String) : Except DiffError (List Hunk) := do
  let found ← read 1 none (unfenced ((Text.lines raw).map String.toList))
  if found.isEmpty then .error .noHunk else return found.map trimEnd

end Diff

end TextRepair
