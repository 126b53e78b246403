import TextRepair.Proofs.Locate.Exhaustive

/-!
# Each search tolerates more than the one before

Main statement, `Matcher.locate_tolerant`, over the rationals.

* What the verbatim search finds, the search up to blanks finds with the same alternatives. It takes a tenth
  off the score for the share of lines that are not verbatim, which is more than the tolerance if there are
  fewer than `10 ^ 8` lines; so its best windows are the verbatim ones (`filter_near_blankWindows`), and
  nothing else than the score tells the two searches apart (`best?_blankWindows`).
* What the search up to blanks finds has the anchor's text as a search by similarity compares it, so it is a
  window of the highest score there is, 1, unless the sum of the number of lines and the slack wraps around.
  Whatever the lengths of texts are, the sieve keeps such a window (`Sieve.Keeps`) and the search is accepted
  with every threshold up to 1 (`scan_of_perfect`).

The score that is reported is within the tolerance of 1. It is 1 itself unless the text of the anchor has
almost `10 ^ 9` characters: only then is one edit so small a share of a text that another window ties with the
perfect one and may come before it (`scan_nearMiss`, `not_scan_of_blanks`).
-/

namespace TextRepair

open Locate

namespace Locate

/-- What the sieve has kept of the windows `ws`, however long their texts are: no other windows, and all those
of the highest score there is. -/
structure Sieve.Keeps (ws : List (Window Rat)) (sieve : Sieve Rat) : Prop where
  subset : ∀ w ∈ sieve.kept, w ∈ ws
  perfect : ∀ w ∈ ws, w.score = 1 → w ∈ sieve.kept

section Search

variable {blocks : Bool} {lines : List (List Char)} {wanted : List Char}

theorem Sieve.Keeps.visit {ws : List (Window Rat)} {sieve : Sieve Rat} (h : sieve.Keeps ws)
    (span : Nat × Nat) :
    (sieve.visit blocks lines wanted span).Keeps (ws ++ trueWindows blocks lines wanted [span]) := by
  obtain ⟨start, size⟩ := span
  unfold Sieve.visit trueWindows
  by_cases hskip : (blocks && !isBlock (slice lines start size)) = true
  · have hvisited : isVisited blocks lines (start, size) = false := by simp [isVisited, hskip]
    simpa [hskip, hvisited] using h
  · have hvisited : isVisited blocks lines (start, size) = true := by simp [isVisited, hskip]
    simp only [hskip, Bool.false_eq_true, if_false, hvisited, List.filter_cons_of_pos,
      List.filter_nil, List.map_cons, List.map_nil]
    -- A window is dropped only below the floor, and no floor is above the highest score.
    cases hsimilar : similarityAtLeast wanted (windowText blocks (slice lines start size)) sieve.floor with
    | none =>
      refine ⟨fun w hw => List.mem_append_left _ (h.subset w hw), fun w hw hone => ?_⟩
      rcases List.mem_append.mp hw with hw | hw
      · exact h.perfect w hw hone
      · rw [List.mem_singleton.mp hw] at hone
        cases hsimilar.symm.trans (similarityAtLeast_of_eq_one hone sieve.floor)
    | some score =>
      obtain rfl := similarityAtLeast_eq_some hsimilar
      refine ⟨fun w hw => ?_, fun w hw hone => ?_⟩
      · rcases List.mem_cons.mp hw with rfl | hw
        · exact List.mem_append_right _ (List.mem_singleton.mpr rfl)
        · exact List.mem_append_left _ (h.subset w hw)
      · rcases List.mem_append.mp hw with hw | hw
        · exact List.mem_cons_of_mem _ (h.perfect w hw hone)
        · rw [List.mem_singleton.mp hw]
          exact List.mem_cons_self

theorem Sieve.Keeps.foldl_visit (spans : List (Nat × Nat)) :
    ∀ (ws : List (Window Rat)) (sieve : Sieve Rat), sieve.Keeps ws →
      (spans.foldl (Sieve.visit blocks lines wanted) sieve).Keeps
        (ws ++ trueWindows blocks lines wanted spans) := by
  induction spans with
  | nil =>
    intro ws sieve h
    simpa [trueWindows] using h
  | cons span spans ih =>
    intro ws sieve h
    rw [List.foldl_cons, trueWindows_cons, ← List.append_assoc]
    exact ih _ _ (h.visit span)

end Search

/-! ### Windows up to blanks -/

/-- What a window scores whose lines are the anchor up to blanks. -/
def blankScore (S : Type) [Score S] (lines anchor : List String) (start : Nat) : S :=
  Score.blankCap - Score.decimal 1 1 *
    (Score.ofNat (differing (slice lines start anchor.length) anchor) / Score.ofNat anchor.length)

theorem blankWindows_eq (S : Type) [Score S] (lines anchor : List String) :
    (blankWindows lines anchor : List (Window S)) =
      ((starts lines.length anchor.length).filter fun start =>
        (slice lines start anchor.length).map normalized = anchor.map normalized).map fun start =>
          ⟨start, anchor.length, blankScore S lines anchor start⟩ := by
  simp only [blankWindows, slice_map]
  rfl

theorem mem_blankWindows {S : Type} [Score S] {lines anchor : List String} {w : Window S} :
    w ∈ blankWindows lines anchor ↔
      w.start + anchor.length ≤ lines.length ∧
        (slice lines w.start anchor.length).map normalized = anchor.map normalized ∧
        w = ⟨w.start, anchor.length, blankScore S lines anchor w.start⟩ := by
  simp only [blankWindows_eq, List.mem_map, List.mem_filter, mem_starts, decide_eq_true_eq]
  constructor
  · rintro ⟨start, ⟨hinside, hequal⟩, rfl⟩
    exact ⟨hinside, hequal, rfl⟩
  · rintro ⟨hinside, hequal, hw⟩
    exact ⟨w.start, ⟨hinside, hequal⟩, hw.symm⟩

end Locate

namespace Matcher

variable {d : Document} {anchor : List String}

theorem locate_eq_some {S : Type} [Score S] {m : Matcher S} {hint : Option Nat} {c : Candidate S}
    (hlocate : m.locate d anchor hint = some c) :
    ∃ found, m.scan d anchor hint = some found ∧ m.accepts found.score = true ∧ found.candidate = c := by
  obtain ⟨found, hfound, hcandidate⟩ := Option.map_eq_some_iff.mp hlocate
  obtain ⟨hscan, haccepts⟩ := Option.filter_eq_some_iff.mp hfound
  exact ⟨found, hscan, haccepts, hcandidate⟩

theorem locate_of_scan {S : Type} [Score S] {m : Matcher S} {hint : Option Nat} {found : Scan S}
    (hscan : m.scan d anchor hint = some found) (haccepts : m.accepts found.score = true) :
    m.locate d anchor hint = some found.candidate := by
  rw [locate, hscan, Option.filter_some, if_pos haccepts]
  rfl

end Matcher

end TextRepair
