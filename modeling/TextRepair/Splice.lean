import TextRepair.Alignment
import TextRepair.Document
import TextRepair.Edit.Hunk

/-!
# Splicing a hunk into a span

The hunk's replacement takes the place of a span of lines. Where the span is as long as the anchor, a
replacement line that is also in the anchor keeps the document's own line; other lines take the
document's dominant terminator and, if wanted, move from the anchor's indentation to the span's.
-/

namespace TextRepair

namespace Splice

/-- The indentation of the first line with a visible character. -/
def firstIndent? (lines : List String) : Option (List Char) :=
  (lines.find? fun line => !Text.isBlankText line).map Text.indentOf

/-- The indentation of the anchor and that of the span, if both exist and differ. -/
def indentShift? (anchor span : List String) : Option (List Char × List Char) :=
  match firstIndent? anchor, firstIndent? span with
  | some a, some d => if a = d then none else some (a, d)
  | _, _ => none

/-- A line with the indentation `shift.1` replaced by `shift.2`; a blank line and a line that does
not start with `shift.1` stay. -/
def reindented (shift : Option (List Char × List Char)) (text : String) : String :=
  match shift with
  | none => text
  | some (old, new) =>
    if Text.isBlankText text then text
    else if old.isPrefixOf text.toList then
      String.ofList (new ++ text.toList.drop old.length)
    else text

/-- The lines put in place of `span`, before the terminators are adjusted. -/
def newLines (span : List Line) (h : Hunk) (dominant : Ending) (reindent : Bool) : List Line :=
  let pairs := if span.length = h.anchor.length then alignment h.anchor h.replacement else []
  let shift := if reindent then indentShift? h.anchor (span.map Line.text) else none
  h.replacement.mapIdx fun j text =>
    match (pairs.find? fun pair => pair.2 = j).bind fun pair => span[pair.1]? with
    | some line => line
    | none => ⟨reindented shift text, dominant⟩

/-- All lines but the last one terminated. -/
def terminateInner (dominant : Ending) : List Line → List Line
  | [] => []
  | [line] => [line]
  | line :: rest =>
    (if line.ending = .none then { line with ending := dominant } else line) ::
      terminateInner dominant rest

/-- The last line with the terminator `ending`. -/
def endWith (ending : Ending) : List Line → List Line
  | [] => []
  | [line] => [{ line with ending }]
  | line :: rest => line :: endWith ending rest

end Splice

open Splice

/-- The document with the lines from `start` up to `stop` replaced by the hunk. The last new line
ends as the last old one did. Lines put after an unterminated last line leave the new last line
unterminated instead. -/
def Document.spliceHunk (d : Document) (start stop : Nat) (h : Hunk) (reindent : Bool) : Document :=
  let stop := min stop d.size
  let start := min start stop
  let span := (d.lines.drop start).take (stop - start)
  let dominant := d.dominantEnding
  let new := terminateInner dominant (newLines span h dominant reindent)
  match span.getLast? with
  | some last => d.splice start stop (endWith last.ending new)
  | none =>
    match d.lines.getLast? with
    | some previous =>
      if start = d.size ∧ previous.ending = .none ∧ new ≠ [] then
        d.splice (start - 1) start
          ({ previous with ending := dominant } :: endWith .none new)
      else d.splice start start new
    | none => d.splice start start new

end TextRepair
