import TextRepair.Distance
import TextRepair.Document
import TextRepair.Locate.Candidate
import TextRepair.Text.Lowercase
import TextRepair.Word

/-!
# Searching for an anchor

One search per strategy. `exactWindows` and `blankWindows` compare line for line; the other two score
windows of several lengths by the similarity of whole texts. That search keeps the best score so far
as a floor and drops every window that provably falls below it (`similarWindows`).
-/

namespace TextRepair

namespace Locate

/-- The starts of all windows of `size` lines among `total` lines. -/
def starts (total size : Nat) : List Nat :=
  if size ≤ total then List.range (total - size + 1) else []

/-- The `size` entries of `xs` from `start` on. -/
def slice {α : Type} (xs : List α) (start size : Nat) : List α :=
  (xs.drop start).take size

/-- A line without differences in blanks. -/
def normalized (line : String) : List Char :=
  Text.collapse line

/-- A line without differences in blanks and letter case. -/
def folded (line : String) : List Char :=
  Text.lowercase (Text.collapse line)

/-- Lines as one text. -/
def joined (lines : List (List Char)) : List Char :=
  ['\n'].intercalate lines

variable {S : Type} [Score S]

/-- The windows whose lines are the anchor. -/
def exactWindows (lines anchor : List String) : List (Window S) :=
  ((starts lines.length anchor.length).filter fun start =>
      slice lines start anchor.length = anchor).map
    fun start => ⟨start, anchor.length, Score.ofNat 1⟩

/-- The number of positions at which two lists differ. -/
def differing (xs ys : List String) : Nat :=
  (List.zip xs ys).countP fun (x, y) => x ≠ y

/-- The windows whose lines are the anchor up to blanks. The score drops with the share of lines that
are not verbatim. -/
def blankWindows (lines anchor : List String) : List (Window S) :=
  let wanted := anchor.map normalized
  let given := lines.map normalized
  ((starts lines.length anchor.length).filter fun start =>
      slice given start anchor.length = wanted).map
    fun start =>
      let share : S :=
        Score.ofNat (differing (slice lines start anchor.length) anchor) /
          Score.ofNat anchor.length
      ⟨start, anchor.length, Score.blankCap - Score.decimal 1 1 * share⟩

/-- The windows of an approximate search, in the order in which it visits them: lengths from `least`
to `most`, and for each length all starts. -/
def spans (total least most : Nat) : List (Nat × Nat) :=
  (List.range' least (min most total + 1 - least)).flatMap fun size =>
    (starts total size).map fun start => (start, size)

/-- Whether a window counts as a block: neither its first nor its last line is blank. -/
def isBlock (window : List (List Char)) : Bool :=
  !(window.headD []).isEmpty && !(window.getLastD []).isEmpty

/-- The text of a window; a block search leaves its blank lines out. -/
def windowText (blocks : Bool) (window : List (List Char)) : List Char :=
  joined (if blocks then window.filter (!·.isEmpty) else window)

/-- The best score so far and the windows kept, last one first. -/
structure Sieve (S : Type) where
  floor : S
  kept : List (Window S)

/-- One window of an approximate search: it is kept if its similarity reaches the floor. -/
def Sieve.visit (blocks : Bool) (lines : List (List Char)) (wanted : List Char)
    (sieve : Sieve S) (span : Nat × Nat) : Sieve S :=
  let (start, size) := span
  let window := slice lines start size
  if blocks && !isBlock window then sieve
  else
    match similarityAtLeast wanted (windowText blocks window) sieve.floor with
    | none => sieve
    | some score =>
      { floor := Score.greatest sieve.floor score
        kept := ⟨start, size, score⟩ :: sieve.kept }

/-- The windows of `least` to `most` lines that tied or beat the best similarity found before them. -/
def similarWindows (blocks : Bool) (lines : List (List Char)) (wanted : List Char)
    (least most : Nat) : List (Window S) :=
  ((spans lines.length least most).foldl (Sieve.visit blocks lines wanted)
    ⟨Score.ofNat 0, []⟩).kept.reverse

end Locate

open Locate

/-- A strategy with its settings. -/
inductive Matcher (S : Type) where
  | exact
  | blanks
  /-- Windows may be `slack` lines longer or shorter than the anchor. The greatest length is a sum of
  machine words. -/
  | approximate (threshold : S) (slack : Nat)
  | intent (threshold : S)

namespace Matcher

variable {S : Type}

/-- The strategy of a matcher. -/
def strategy : Matcher S → Strategy
  | exact => .exact
  | blanks => .blanks
  | approximate .. => .approximate
  | intent .. => .intent

variable [Score S]

/-- Whether a raw score is good enough. Line for line comparison accepts whatever it finds. -/
def accepts : Matcher S → S → Bool
  | exact, _ | blanks, _ => true
  | approximate threshold _, score | intent threshold, score => Score.reaches score threshold

/-- The best span for an anchor, whether or not it is good enough. -/
def scan (m : Matcher S) (d : Document) (anchor : List String) (hint : Option Nat) :
    Option (Scan S) :=
  let size := anchor.length
  match m with
  | exact =>
    if size = 0 then none
    else Window.report? (exactWindows d.texts anchor) size hint .exact (Score.ofNat 1)
  | blanks =>
    if size = 0 then none
    else Window.report? (blankWindows d.texts anchor) size hint .blanks Score.blankCap
  | approximate _ slack =>
    if size = 0 then none
    else
      let windows := similarWindows false (d.texts.map normalized)
        (joined (anchor.map normalized)) (max (size - slack) 1) (Word.add size slack)
      Window.report? windows size hint .approximate Score.inexactCap
  | intent _ =>
    let wanted := (anchor.map folded).filter (!·.isEmpty)
    if wanted.isEmpty then none
    else
      let windows := similarWindows true (d.texts.map folded) (joined wanted)
        ((wanted.length + 1) / 2) (2 * wanted.length)
      Window.report? windows size hint .intent Score.inexactCap

/-- The best span for an anchor, if it is good enough. -/
def locate (m : Matcher S) (d : Document) (anchor : List String) (hint : Option Nat) :
    Option (Candidate S) :=
  ((m.scan d anchor hint).filter fun scan => m.accepts scan.score).map Scan.candidate

end Matcher

end TextRepair
