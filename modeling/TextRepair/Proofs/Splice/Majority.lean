import TextRepair.Proofs.Splice.Frame

/-!
# The terminator of new lines

A kind of terminator that ends more lines than each of the two other kinds (`Document.Outnumbers`) is
dominant. Where no kind does, the line feed is, with one exception: if carriage returns with and without a
line feed end equally many lines, and more than line feeds do, the one with the line feed is dominant
(`Document.ReturnsTie`). Lines that are put between two lines take the dominant terminator; behind an
unterminated last line, the first terminator that is added ends that line, and the last new line is
unterminated in its stead (`Document.newEndingsAt`). Main statement, `Document.dominantEnding_majority`.

Both sides are told by the three counts: each kind outnumbers the others by two comparisons
(`outnumbers_lf_iff` and its like), at most one kind does (`Outnumbers.unique`), and the two cases, of a kind
that does and of none, are taken up one by one.
-/

namespace TextRepair

open Splice

/-- What can end a line within a text. -/
def Ending.kinds : List Ending :=
  [.lf, .crlf, .cr]

namespace Document

/-- More lines end with `e` than with each of the other kinds of terminators. -/
def Outnumbers (d : Document) (e : Ending) : Prop :=
  e ∈ Ending.kinds ∧ ∀ other ∈ Ending.kinds, other ≠ e → d.countEnding other < d.countEnding e

/-- Carriage returns with and without a line feed end equally many lines, and more than line feeds do. -/
def ReturnsTie (d : Document) : Prop :=
  d.countEnding .crlf = d.countEnding .cr ∧ d.countEnding .lf < d.countEnding .crlf

instance (d : Document) (e : Ending) : Decidable (d.Outnumbers e) :=
  inferInstanceAs (Decidable (_ ∧ ∀ other ∈ Ending.kinds, _))

instance (d : Document) : Decidable d.ReturnsTie :=
  inferInstanceAs (Decidable (_ ∧ _))

/-! ### The three counts -/

variable {d : Document}

theorem outnumbers_lf_iff : d.Outnumbers .lf ↔
    d.countEnding .crlf < d.countEnding .lf ∧ d.countEnding .cr < d.countEnding .lf := by
  simp [Outnumbers, Ending.kinds]

theorem outnumbers_crlf_iff : d.Outnumbers .crlf ↔
    d.countEnding .lf < d.countEnding .crlf ∧ d.countEnding .cr < d.countEnding .crlf := by
  simp [Outnumbers, Ending.kinds]

theorem outnumbers_cr_iff : d.Outnumbers .cr ↔
    d.countEnding .lf < d.countEnding .cr ∧ d.countEnding .crlf < d.countEnding .cr := by
  simp [Outnumbers, Ending.kinds]

theorem not_outnumbers_none : ¬d.Outnumbers .none := by
  simp [Outnumbers, Ending.kinds]

theorem Outnumbers.unique {e e' : Ending} (he : d.Outnumbers e) (he' : d.Outnumbers e') : e = e' := by
  by_contra hne
  have hlt := he.2 e' he'.1 (Ne.symm hne)
  have hgt := he'.2 e he.1 hne
  omega

theorem Outnumbers.dominantEnding_eq {e : Ending} (he : d.Outnumbers e) : d.dominantEnding = e := by
  unfold dominantEnding
  dsimp only
  cases e with
  | lf =>
    obtain ⟨hcrlf, hcr⟩ := outnumbers_lf_iff.mp he
    rw [if_neg (by omega), if_neg (by omega)]
  | crlf =>
    obtain ⟨hlf, hcr⟩ := outnumbers_crlf_iff.mp he
    rw [if_pos ⟨hlf, hcr.le⟩]
  | cr =>
    obtain ⟨hlf, hcrlf⟩ := outnumbers_cr_iff.mp he
    rw [if_neg (by omega), if_pos ⟨hlf, hcrlf⟩]
  | none => exact absurd he not_outnumbers_none

theorem dominantEnding_of_tie (hd : ∀ e, ¬d.Outnumbers e) :
    d.dominantEnding = if d.ReturnsTie then .crlf else .lf := by
  have hcrlf := mt outnumbers_crlf_iff.mpr (hd .crlf)
  have hcr := mt outnumbers_cr_iff.mpr (hd .cr)
  unfold dominantEnding
  dsimp only
  by_cases htie : d.ReturnsTie
  · obtain ⟨heq, hlf⟩ := htie
    rw [if_pos ⟨hlf, heq.ge⟩, if_pos ⟨heq, hlf⟩]
  · have hlf : ¬(d.countEnding .lf < d.countEnding .crlf ∧ d.countEnding .cr ≤ d.countEnding .crlf) := by
      rintro ⟨hlt, hle⟩
      exact htie ⟨by omega, hlt⟩
    rw [if_neg hlf, if_neg hcr, if_neg htie]

/-! ### Lines put in -/

theorem map_ending_putIn_nil {h : Hunk} {reindent : Bool} :
    (putIn d h reindent []).map Line.ending = List.replicate h.replacement.length d.dominantEnding := by
  rw [List.eq_replicate_iff, List.length_map, length_putIn]
  exact ⟨rfl, List.forall_mem_map.mpr fun _ hline => ending_of_mem_putIn_nil hline⟩

/-- The place among the terminators to which an insertion before line `start` adds some. Lines put behind an
unterminated last line terminate it, and the last one of them is unterminated in its stead. -/
def newEndingsAt (d : Document) (start : Nat) : Nat :=
  if d.size ≤ start ∧ d.EndsOpen then d.size - 1 else min start d.size

/-- An insertion adds the dominant terminator, once for each line put in, and changes no other one. -/
theorem map_ending_spliceHunk_insertion (d : Document) (start : Nat) (h : Hunk) (reindent : Bool) :
    (d.spliceHunk start start h reindent).lines.map Line.ending =
      (d.lines.map Line.ending).take (d.newEndingsAt start) ++
        List.replicate h.replacement.length d.dominantEnding ++
        (d.lines.map Line.ending).drop (d.newEndingsAt start) := by
  have hspliced := d.spliced_spliceHunk_min start start h reindent
  rw [Nat.min_eq_right (Nat.min_le_left start d.size)] at hspliced
  generalize (d.spliceHunk start start h reindent).lines = lines at hspliced
  cases hspliced with
  | @replaced before span after last hlines hstart hstop => omega
  | @inserted before after hlines hstart hstop hend =>
    rcases eq_or_ne h.replacement [] with hempty | hnew
    · rw [putIn_eq_nil_iff.mpr hempty, List.append_nil, ← hlines, hempty, List.length_nil,
        List.replicate_zero, List.append_nil, List.take_append_drop]
    · have hplace : d.newEndingsAt start = before.length := by
        rw [newEndingsAt, if_neg, hstart]
        rintro ⟨hbeyond, hopen⟩
        have hafter : after = [] := by
          rw [Nat.min_eq_right hbeyond, size, hlines, List.length_append] at hstart
          apply List.length_eq_zero_iff.mp
          omega
        rw [EndsOpen, hlines, hafter, List.append_nil] at hopen
        obtain ⟨last, hlast, hnone⟩ := Option.map_eq_some_iff.mp hopen
        exact hend hafter (mt putIn_eq_nil_iff.mp hnew) last hlast hnone
      rw [hplace, hlines, List.map_append, List.map_append, List.map_append, map_ending_putIn_nil,
        ← List.length_map Line.ending, List.take_left, List.drop_left]
  | @appended before last hlines hstart hstop hlast hnew =>
    have hplace : d.newEndingsAt start = before.length := by
      have hsize : d.size = before.length + 1 := by rw [size, hlines, List.length_append]; rfl
      rw [newEndingsAt, if_pos, hsize, Nat.add_sub_cancel]
      refine ⟨by omega, ?_⟩
      rw [EndsOpen, hlines, List.getLast?_concat, Option.map_some, hlast]
    obtain ⟨front, added, hput⟩ := (List.eq_nil_or_concat' _).resolve_left hnew
    -- The terminator that the last new line gives up is the one that the old last line takes.
    have hendings : (putIn d h reindent []).map Line.ending = _ := map_ending_putIn_nil
    rw [hput, List.map_append, List.map_singleton] at hendings
    obtain ⟨hlength, hall⟩ := List.eq_replicate_iff.mp hendings
    have hnew : d.dominantEnding :: front.map Line.ending
        = List.replicate h.replacement.length d.dominantEnding := by
      refine List.eq_replicate_iff.mpr ⟨?_, List.forall_mem_cons.mpr ⟨rfl, fun e he => ?_⟩⟩
      · rw [← hlength, List.length_cons, List.length_append, List.length_singleton]
      · exact hall e (List.mem_append_left _ he)
    rw [hplace, hput, endWith_append_singleton, hlines, ← hnew, List.map_append, List.map_append,
      ← List.length_map Line.ending, List.take_left, List.drop_left, List.append_assoc]
    simp [hlast]

/-- A kind of terminator that outnumbers the others is dominant. Where no kind does, the line feed is, unless
carriage returns with and without one tie above it. What is inserted takes the dominant terminator. -/
theorem dominantEnding_majority (d : Document) (e : Ending) (start : Nat) (h : Hunk) (reindent : Bool) :
    (d.dominantEnding = e ↔ d.Outnumbers e ∨
      (∀ other, ¬d.Outnumbers other) ∧ e = if d.ReturnsTie then .crlf else .lf) ∧
    (d.spliceHunk start start h reindent).lines.map Line.ending =
      (d.lines.map Line.ending).take (d.newEndingsAt start) ++
        List.replicate h.replacement.length d.dominantEnding ++
        (d.lines.map Line.ending).drop (d.newEndingsAt start) := by
  refine ⟨?_, map_ending_spliceHunk_insertion d start h reindent⟩
  by_cases hmajority : ∃ other, d.Outnumbers other
  · obtain ⟨other, hother⟩ := hmajority
    rw [hother.dominantEnding_eq]
    constructor
    · rintro rfl
      exact Or.inl hother
    · rintro (he | ⟨hnone, -⟩)
      · exact hother.unique he
      · exact absurd hother (hnone other)
  · have hnone : ∀ other, ¬d.Outnumbers other := fun other hother => hmajority ⟨other, hother⟩
    rw [dominantEnding_of_tie hnone, eq_comm]
    constructor
    · intro he
      exact Or.inr ⟨hnone, he⟩
    · rintro (he | ⟨-, he⟩)
      · exact absurd he (hnone e)
      · exact he

/-- Two kinds that tie need not give way to the line feed. -/
theorem not_dominantEnding_lf_of_tie :
    ¬∀ d : Document, (∀ e, ¬d.Outnumbers e) → d.dominantEnding = .lf := by
  intro hall
  have htie : ∀ e, ¬(parse "a\r\nb\r").Outnumbers e := by
    intro e
    cases e <;> decide
  exact absurd (hall (parse "a\r\nb\r") htie) (by decide)

end Document

end TextRepair
