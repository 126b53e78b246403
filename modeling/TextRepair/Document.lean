/-!
# Documents

A document is a list of lines, and each line keeps the terminator it was read with, so a document
read from a text writes that text back. Edits never change a document in place: `Document.splice`
builds a new one.

* `Document.parse`, `Document.toText` : reading and writing.
* `Document.texts` : the lines without their terminators.
* `Document.dominantEnding` : the terminator that new lines take.
* `Document.window` : numbered lines around a line, that line marked.
-/

namespace TextRepair

/-- How a line ends. A line feed after a carriage return belongs to one terminator. -/
inductive Ending where
  | lf
  | crlf
  | cr
  /-- No terminator: the end of the text. -/
  | none
  deriving DecidableEq, Repr, Inhabited

namespace Ending

/-- The characters of a terminator. -/
def terminator : Ending → List Char
  | lf => ['\n']
  | crlf => ['\r', '\n']
  | cr => ['\r']
  | none => []

end Ending

/-- A line: its text and its terminator. -/
structure Line where
  text : String
  ending : Ending
  deriving DecidableEq, Repr, Inhabited

/-- A sequence of lines. -/
structure Document where
  lines : List Line
  deriving DecidableEq, Repr, Inhabited

namespace Document

/-- The lines of a text, where `current` holds the reversed start of the first line. A rest without
terminator is a line of its own unless it is empty. -/
def linesFrom (current : List Char) : List Char → List Line
  | [] => if current.isEmpty then [] else [⟨String.ofList current.reverse, .none⟩]
  | '\n' :: cs => ⟨String.ofList current.reverse, .lf⟩ :: linesFrom [] cs
  | '\r' :: '\n' :: cs => ⟨String.ofList current.reverse, .crlf⟩ :: linesFrom [] cs
  | '\r' :: cs => ⟨String.ofList current.reverse, .cr⟩ :: linesFrom [] cs
  | c :: cs => linesFrom (c :: current) cs

/-- The document of a text: a line ends at a line feed, at a carriage return, or at both together. -/
def parse (text : String) : Document :=
  ⟨linesFrom [] text.toList⟩

/-- The characters of all lines and terminators in order. -/
def toChars (d : Document) : List Char :=
  d.lines.flatMap fun line => line.text.toList ++ line.ending.terminator

/-- The text of a document. -/
def toText (d : Document) : String :=
  String.ofList d.toChars

/-- The number of lines. -/
def size (d : Document) : Nat :=
  d.lines.length

/-- Whether there is no line at all. -/
def isEmpty (d : Document) : Bool :=
  d.lines.isEmpty

/-- The lines without their terminators. -/
def texts (d : Document) : List String :=
  d.lines.map Line.text

/-- The number of lines that end with `e`. -/
def countEnding (d : Document) (e : Ending) : Nat :=
  d.lines.countP (·.ending = e)

/-- The terminator for new lines: a kind other than the line feed if it outnumbers the line feeds
and the other kind; a tie of the two that outnumber the line feeds goes to `crlf`. -/
def dominantEnding (d : Document) : Ending :=
  let lf := d.countEnding .lf
  let crlf := d.countEnding .crlf
  let cr := d.countEnding .cr
  if lf < crlf ∧ cr ≤ crlf then .crlf
  else if lf < cr ∧ crlf < cr then .cr
  else .lf

/-- The document with the lines from `start` up to `stop` replaced; both are cut to its size. -/
def splice (d : Document) (start stop : Nat) (new : List Line) : Document :=
  let stop := min stop d.size
  let start := min start stop
  ⟨d.lines.take start ++ new ++ d.lines.drop stop⟩

/-- One row of a window: a mark for the centre, the number flush right in `width` columns, the text. -/
def row (marked : Bool) (width number : Nat) (text : String) : String :=
  let digits := toString number
  let pad := String.ofList (List.replicate (width - digits.length) ' ')
  (if marked then ">" else " ") ++ pad ++ digits ++ " | " ++ text ++ "\n"

/-- The lines at most `radius` away from line `center`, with line numbers from 1 on and a mark at
the centre. A centre beyond the end is the last line. -/
def window (d : Document) (center radius : Nat) : String :=
  if d.isEmpty then "" else
    let center := min center (d.size - 1)
    let start := center - radius
    let stop := min (center + radius + 1) d.size
    let width := (toString stop).length
    let shown := (d.lines.drop start).take (stop - start)
    String.join (shown.mapIdx fun i line =>
      row (start + i = center) width (start + i + 1) line.text)

end Document

end TextRepair
