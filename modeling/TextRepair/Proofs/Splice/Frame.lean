import TextRepair.Proofs.Splice.Lines

/-!
# What a splice leaves alone

A splice replaces a span, and the lines on both sides of it stay as they are, terminators included. There
is one exception: lines that are appended to a document must not run into an unterminated last line, which
therefore takes the dominant terminator, and then the document ends in an unterminated line as before.
Main statement, `spliceHunk_frame`; each of its parts is read off the three cases of a splice
(`Document.Spliced`).
-/

namespace TextRepair

open Splice

/-- The line, terminated by `dominant` if it is unterminated. -/
def Line.terminatedBy (dominant : Ending) (line : Line) : Line :=
  if line.ending = .none then { line with ending := dominant } else line

theorem map_terminatedBy_eq_self {dominant : Ending} {ls : List Line}
    (hls : ∀ line ∈ ls, line.ending ≠ .none) : ls.map (Line.terminatedBy dominant) = ls := by
  apply (List.map_congr_left _).trans (List.map_id ls)
  intro line hline
  rw [Line.terminatedBy, if_neg (hls line hline), id_eq]

namespace Document

/-- The last line is unterminated. -/
def EndsOpen (d : Document) : Prop :=
  d.lines.getLast?.map Line.ending = some .none

instance (d : Document) : Decidable d.EndsOpen :=
  inferInstanceAs (Decidable (_ = _))

namespace Spliced

variable {d : Document} {h : Hunk} {reindent : Bool} {start stop : Nat} {lines : List Line}

theorem length_eq (hspliced : d.Spliced h reindent start stop lines) :
    lines.length = d.size - (stop - start) + h.replacement.length := by
  cases hspliced with
  | @replaced before span after last hlines hstart hstop =>
    rw [size, hlines]
    simp only [List.length_append, length_endWith, length_putIn, List.length_singleton]
    omega
  | @inserted before after hlines hstart hstop hend =>
    rw [size, hlines]
    simp only [List.length_append, length_putIn]
    omega
  | @appended before last hlines hstart hstop hlast hnew =>
    rw [size, hlines]
    simp only [List.length_append, List.length_cons, length_endWith, length_putIn, List.length_nil]
    omega

theorem take_eq (hspliced : d.Spliced h reindent start stop lines)
    (hd : ∀ line ∈ d.lines.dropLast, line.ending ≠ .none) :
    lines.take start =
      if start = d.size ∧ h.replacement ≠ [] then d.lines.map (Line.terminatedBy d.dominantEnding)
      else d.lines.take start := by
  cases hspliced with
  | @replaced before span after last hlines hstart hstop =>
    have hinside : start ≠ d.size := by
      rw [size, hlines, hstart]
      simp only [List.length_append, List.length_singleton]
      omega
    rw [if_neg fun hend => hinside hend.1, hlines, hstart]
    simp only [List.append_assoc, List.take_left]
  | @inserted before after hlines hstart hstop hend =>
    have hbefore : (before ++ putIn d h reindent [] ++ after).take start = before := by
      rw [hstart, List.append_assoc, List.take_left]
    rw [hbefore]
    split_ifs with hcond
    · -- lines are appended, and the last line is terminated
      obtain ⟨hatEnd, hnew⟩ := hcond
      have hafter : after = [] := by
        rw [size, hlines, List.length_append] at hatEnd
        apply List.length_eq_zero_iff.mp
        omega
      rw [hafter, List.append_nil] at hlines
      have hterminated : ∀ line ∈ before, line.ending ≠ .none := by
        intro line hline
        rcases before.eq_nil_or_concat' with rfl | ⟨front, last, rfl⟩
        · exact absurd hline List.not_mem_nil
        · rcases List.mem_append.mp hline with hline | hline
          · apply hd
            rwa [hlines, List.dropLast_concat]
          · rw [List.mem_singleton.mp hline]
            exact hend hafter (mt putIn_eq_nil_iff.mp hnew) last (List.getLast?_concat ..)
      rw [hlines, map_terminatedBy_eq_self hterminated]
    · rw [hlines, hstart, List.take_left]
  | @appended before last hlines hstart hstop hlast hnew =>
    have hterminated : ∀ line ∈ before, line.ending ≠ .none := by
      intro line hline
      apply hd
      rwa [hlines, List.dropLast_concat]
    have hatEnd : start = d.size := by
      rw [size, hlines, List.length_append, List.length_singleton]
      exact hstart
    have htake : (before ++ { last with ending := d.dominantEnding } ::
        endWith .none (putIn d h reindent [])).take start
          = before ++ [{ last with ending := d.dominantEnding }] := by
      rw [hstart, List.take_length_add_append, List.take_succ_cons, List.take_zero]
    rw [if_pos ⟨hatEnd, mt putIn_eq_nil_iff.mpr hnew⟩, htake, hlines, List.map_append,
      map_terminatedBy_eq_self hterminated, List.map_singleton, Line.terminatedBy, if_pos hlast]

theorem drop_eq (hspliced : d.Spliced h reindent start stop lines) :
    lines.drop (start + h.replacement.length) = d.lines.drop stop := by
  cases hspliced with
  | @replaced before span after last hlines hstart hstop =>
    rw [hlines, List.drop_left', List.drop_left']
    · simp only [List.length_append, List.length_singleton]
      omega
    · rw [List.length_append, length_endWith, length_putIn, hstart]
  | @inserted before after hlines hstart hstop hend =>
    rw [hlines, hstop, List.drop_left, List.drop_left']
    rw [List.length_append, length_putIn, hstart]
  | @appended before last hlines hstart hstop hlast hnew =>
    rw [hlines, List.drop_eq_nil_of_le, List.drop_eq_nil_of_le]
    · rw [List.length_append, List.length_singleton, hstop]
    · rw [List.length_append, List.length_cons, length_endWith, length_putIn, hstart]
      omega

/-- Unless the last line is deleted, the document ends as before. -/
theorem endsOpen_iff (hspliced : d.Spliced h reindent start stop lines) (hne : d.lines ≠ [])
    (hkept : ¬(start < stop ∧ stop = d.size ∧ h.replacement = [])) :
    EndsOpen ⟨lines⟩ ↔ d.EndsOpen := by
  unfold EndsOpen
  cases hspliced with
  | @replaced before span after last hlines hstart hstop =>
    rcases after.eq_nil_or_concat' with rfl | ⟨rest, next, rfl⟩
    · -- the last new line takes the terminator of the last line
      have hnew : putIn d h reindent (span ++ [last]) ≠ [] := by
        intro hnil
        refine hkept ⟨by omega, ?_, putIn_eq_nil_iff.mp hnil⟩
        rw [size, hlines, hstop]
        simp only [List.length_append, List.length_singleton, List.length_nil]
        omega
      obtain ⟨front, new, hput⟩ := (List.eq_nil_or_concat' _).resolve_left hnew
      rw [hlines, hput, endWith_append_singleton]
      simp only [List.append_nil, ← List.append_assoc, List.getLast?_concat, Option.map_some]
    · rw [hlines]
      simp only [← List.append_assoc, List.getLast?_concat]
  | @inserted before after hlines hstart hstop hend =>
    rcases after.eq_nil_or_concat' with rfl | ⟨rest, next, rfl⟩
    · rw [List.append_nil] at hlines ⊢
      rw [hlines] at hne ⊢
      obtain ⟨front, last, rfl⟩ := (List.eq_nil_or_concat' _).resolve_left hne
      rcases (putIn d h reindent []).eq_nil_or_concat' with hput | ⟨new, added, hput⟩
      · rw [hput, List.append_nil]
      · -- neither the last line of the document nor the last new one is unterminated
        have hadded : added.ending ≠ .none := terminated_putIn_nil added (by rw [hput]; simp)
        have hlast : last.ending ≠ .none :=
          hend rfl (by rw [hput]; simp) last (List.getLast?_concat ..)
        rw [hput, ← List.append_assoc, List.getLast?_concat, List.getLast?_concat]
        exact iff_of_false (fun h => hadded (Option.some.inj h)) fun h => hlast (Option.some.inj h)
    · rw [hlines]
      simp only [← List.append_assoc, List.getLast?_concat]
  | @appended before last hlines hstart hstop hlast hnew =>
    obtain ⟨front, added, hput⟩ := (List.eq_nil_or_concat' _).resolve_left hnew
    rw [hlines, hput, endWith_append_singleton, ← List.cons_append, ← List.append_assoc,
      List.getLast?_concat, List.getLast?_concat, Option.map_some, Option.map_some, hlast]

end Spliced

/-- A splice into a document of which only the last line may be unterminated. The lines before the span
stay, but for an unterminated last line to which lines are appended; those behind it stay; only the last
line may be unterminated again; and it is unterminated just in case the last line was before, unless that
line is deleted. -/
theorem spliceHunk_frame (d : Document) {start stop : Nat} (h : Hunk) (reindent : Bool)
    (hd : ∀ line ∈ d.lines.dropLast, line.ending ≠ .none) (hle : start ≤ stop) (hstop : stop ≤ d.size) :
    (d.spliceHunk start stop h reindent).size = d.size - (stop - start) + h.replacement.length ∧
    (d.spliceHunk start stop h reindent).lines.take start =
      (if start = d.size ∧ h.replacement ≠ [] then d.lines.map (Line.terminatedBy d.dominantEnding)
        else d.lines.take start) ∧
    (d.spliceHunk start stop h reindent).lines.drop (start + h.replacement.length) =
      d.lines.drop stop ∧
    (∀ line ∈ (d.spliceHunk start stop h reindent).lines.dropLast, line.ending ≠ .none) ∧
    (d.lines ≠ [] → ¬(start < stop ∧ stop = d.size ∧ h.replacement = []) →
      ((d.spliceHunk start stop h reindent).EndsOpen ↔ d.EndsOpen)) := by
  have hspliced := d.spliced_spliceHunk h reindent hle hstop
  exact ⟨hspliced.length_eq, hspliced.take_eq hd, hspliced.drop_eq, hspliced.terminated hd,
    hspliced.endsOpen_iff⟩

/-- Two lines appended to a document with an unterminated last line. -/
theorem spliceHunk_frame_appended :
    (∀ line ∈ (⟨[⟨"a", .crlf⟩, ⟨"b", .none⟩]⟩ : Document).lines.dropLast, line.ending ≠ .none) ∧
    (spliceHunk ⟨[⟨"a", .crlf⟩, ⟨"b", .none⟩]⟩ 2 2 ⟨[], ["c", "d"], none, some 2⟩ true).size = 4 ∧
    (spliceHunk ⟨[⟨"a", .crlf⟩, ⟨"b", .none⟩]⟩ 2 2 ⟨[], ["c", "d"], none, some 2⟩ true).lines.take 2
      = [⟨"a", .crlf⟩, ⟨"b", .crlf⟩] ∧
    (spliceHunk ⟨[⟨"a", .crlf⟩, ⟨"b", .none⟩]⟩ 2 2 ⟨[], ["c", "d"], none, some 2⟩ true).EndsOpen := by
  have hd : ∀ line ∈ (⟨[⟨"a", .crlf⟩, ⟨"b", .none⟩]⟩ : Document).lines.dropLast, line.ending ≠ .none := by
    decide
  obtain ⟨hsize, htake, -, -, hends⟩ :=
    spliceHunk_frame ⟨[⟨"a", .crlf⟩, ⟨"b", .none⟩]⟩ ⟨[], ["c", "d"], none, some 2⟩ true hd
      (Nat.le_refl 2) (by decide)
  exact ⟨hd, hsize, htake, (hends (by decide) (by decide)).mpr (by decide)⟩

end Document

end TextRepair
