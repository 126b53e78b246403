import TextRepair.Text.Blank

/-!
# Hunks

A hunk is one localised change: the lines to look for, the lines that take their place, and advice on
the place. `Hunk.check` refuses the hunks that no search can place.
-/

namespace TextRepair

/-- A localised change. Line numbers count from 0. -/
structure Hunk where
  /-- The lines before the change, by which its place is found. -/
  anchor : List String
  /-- The lines after the change. -/
  replacement : List String
  /-- Where the anchor is expected to start; advice only. -/
  hint : Option Nat
  /-- Where the lines of a hunk without an anchor go. -/
  insertionPoint : Option Nat
  deriving DecidableEq, Repr, Inhabited

/-- What makes an edit impossible before any search, with the index of the hunk at fault. -/
inductive MalformedEdit where
  /-- A line holds a line feed. -/
  | lineBreak (hunk : Nat)
  /-- There is neither an anchor nor an insertion point. -/
  | nowhere (hunk : Nat)
  /-- All lines of the anchor are blank. -/
  | blankAnchor (hunk : Nat)
  /-- The edit has more hunks than allowed. -/
  | tooMany (count limit : Nat)
  /-- A text meant as a diff has no hunk header. -/
  | notDiff
  deriving DecidableEq, Repr

namespace MalformedEdit

/-- The index of the hunk at fault; an edit that is too long is at fault from its limit on. -/
def hunk : MalformedEdit → Nat
  | lineBreak hunk | nowhere hunk | blankAnchor hunk => hunk
  | tooMany _ limit => limit
  | notDiff => 0

/-- What is wrong. -/
def reason : MalformedEdit → String
  | lineBreak _ => "anchor and replacement lines must not contain line breaks"
  | nowhere _ => "empty anchor without an insertion point"
  | blankAnchor _ => "anchor contains only blank lines"
  | tooMany count limit => s!"edit has {count} hunks, limit is {limit}"
  | notDiff => "input is not diff-shaped; supply a before/after snippet pair"

def message (e : MalformedEdit) : String :=
  s!"malformed edit at hunk {e.hunk}: {e.reason}"

end MalformedEdit

namespace Hunk

/-- A hunk that replaces `anchor` by `replacement` wherever the anchor is found. -/
def replacing (anchor replacement : List String) : Hunk :=
  { anchor, replacement, hint := none, insertionPoint := none }

/-- Whether the hunk only inserts lines. -/
def isInsertion (h : Hunk) : Bool :=
  h.anchor.isEmpty

/-- Refuses a hunk with a line feed in a line, a hunk without any place, and a hunk whose anchor is
blank. The first fault in this order is reported. -/
def check (h : Hunk) (index : Nat) : Except MalformedEdit Unit :=
  if (h.anchor ++ h.replacement).any fun line => line.toList.contains '\n' then
    .error (.lineBreak index)
  else if h.anchor.isEmpty then
    if h.insertionPoint.isNone then .error (.nowhere index) else .ok ()
  else if h.anchor.all Text.isBlankText then .error (.blankAnchor index)
  else .ok ()

end Hunk

end TextRepair
