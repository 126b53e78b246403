import TextRepair.Edit
import TextRepair.Options
import TextRepair.Report
import TextRepair.Splice
import TextRepair.Word

/-!
# Applying edits

For each hunk the strategies run in order until one accepts a span. Hunks go one after another into
the document as the earlier ones left it, and places given in the old document's lines move with
them. If any hunk finds no place, the result is the old document together with all reports.

* `Options.locate` : the cascade for one hunk.
* `Options.apply`, `applyEdit`, `applyText` : hunks, edits and texts.
-/

namespace TextRepair

namespace Options

variable {S : Type} [Score S]

/-- The first accepted span among the given strategies, and what each strategy tried reached. -/
def locateWith (d : Document) (h : Hunk) (hint : Option Nat) :
    List (Matcher S) → Option (Candidate S) × List (Attempt S)
  | [] => (none, [])
  | m :: rest =>
    let scan := m.scan d h.anchor hint
    let attempt : Attempt S := ⟨m.strategy, scan.map fun s => s.candidate.confidence⟩
    match scan.filter fun s => m.accepts s.score with
    | some scan => (some scan.candidate, [attempt])
    | none =>
      let (found, attempts) := locateWith d h hint rest
      (found, attempt :: attempts)

/-- The cascade for one hunk. -/
def locate (o : Options S) (d : Document) (h : Hunk) (hint : Option Nat) :
    Option (Candidate S) × List (Attempt S) :=
  locateWith d h hint o.matchers

end Options

/-- A span changed by an earlier hunk: its start, and how many lines were added or taken away. -/
structure Shift where
  start : Nat
  delta : Int
  deriving DecidableEq, Repr

/-- The first number of a line that does not fit into a signed 64-bit word: from here on, the cast to such
a word gives a negative number. -/
def lineBound : Nat := UInt64.size / 2

/-- A line number of the old document in the document after some changes: each change at or before
the line moves it. The number is a signed machine word on the way, so sums wrap around. A number that
is negative in the end becomes 0; one that is cast to a negative word is never moved, for no change
starts before the first line. -/
def shiftLine (line : Nat) (shifts : List Shift) : Nat :=
  if line < lineBound then
    (shifts.foldl (fun n s => if (s.start : Int) ≤ n then Word.addSigned n s.delta else n)
      (line : Int)).toNat
  else 0

variable {S : Type} [Score S]

/-- The place of an insertion in a document of `size` lines. -/
def insertionAt (point size : Nat) (shifts : List Shift) :
    Option (Candidate S) × List (Attempt S) :=
  let place := min (shiftLine point shifts) size
  (some ⟨place, place, Score.inexactCap, .insertion, 0⟩, [⟨.insertion, some Score.inexactCap⟩])

/-- An application under way. -/
structure Progress (S : Type) where
  document : Document
  /-- The changes made so far, first one first. -/
  shifts : List Shift
  /-- The reports so far, first one first. -/
  reports : List (HunkReport S)

/-- The place of a hunk in the document so far. -/
def Progress.place (o : Options S) (p : Progress S) (h : Hunk) :
    Option (Candidate S) × List (Attempt S) :=
  match h.insertionPoint with
  | some point =>
    if h.isInsertion then insertionAt point p.document.size p.shifts
    else o.locate p.document h (h.hint.map (shiftLine · p.shifts))
  | none => o.locate p.document h (h.hint.map (shiftLine · p.shifts))

theorem Progress.place_of_anchor (o : Options S) (p : Progress S) {h : Hunk} (hanchor : h.anchor ≠ []) :
    p.place o h = o.locate p.document h (h.hint.map (shiftLine · p.shifts)) := by
  have hsearched : h.isInsertion = false := List.isEmpty_eq_false_iff.mpr hanchor
  unfold Progress.place
  rw [hsearched]
  cases h.insertionPoint <;> rfl

/-- The application with one more hunk. -/
def Progress.step (o : Options S) (p : Progress S) (h : Hunk) : Progress S :=
  let index := p.reports.length
  match p.place o h with
  | (some c, attempts) =>
    let document := p.document.spliceHunk c.start c.stop h o.reindent
    { document
      shifts := p.shifts ++ [⟨c.start, (document.size : Int) - p.document.size⟩]
      reports := p.reports ++ [.placed index c attempts] }
  | (none, attempts) => { p with reports := p.reports ++ [.unplaced index attempts] }

namespace Options

/-- Refuses an edit with too many hunks, then the first malformed hunk. -/
def checkHunks (o : Options S) (hunks : List Hunk) : Except MalformedEdit Unit := do
  if let some limit := o.maxHunks then
    if limit < hunks.length then .error (.tooMany hunks.length limit)
  hunks.zipIdx.forM fun (h, index) => h.check index

/-- Applies hunks in order, all of them or none. -/
def apply (o : Options S) (d : Document) (hunks : List Hunk) :
    Except MalformedEdit (Outcome S) := do
  o.checkHunks hunks
  let p := hunks.foldl (Progress.step o) ⟨d, [], []⟩
  let success := p.reports.all (·.matched)
  return { reports := p.reports, document := if success then p.document else d, success }

/-- Applies an edit. -/
def applyEdit (o : Options S) (d : Document) (e : Edit) : Except MalformedEdit (Outcome S) :=
  o.apply d e.hunks

end Options

/-- Why an edit was not tried. -/
inductive ApplyError (S : Type) where
  | options (e : OptionsError S)
  | malformed (e : MalformedEdit)
  deriving Repr

/-- Applies an edit to a text with settings that are checked first. -/
def applyText (o : Options S) (text : String) (e : Edit) :
    Except (ApplyError S) (TextOutcome S) := do
  o.check.mapError .options
  let outcome ← (o.applyEdit (Document.parse text) e).mapError .malformed
  return outcome.toText

end TextRepair
