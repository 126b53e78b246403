import TextRepair.Proofs.Splice.Frame

/-!
# Lines that anchor and replacement share

Where a span is as long as the anchor, the lines that a hunk's anchor and replacement have in common are
context, and the document's own text of them stays. Main statement, `spliceHunk_keeps_context`: the pairs
that align the anchor with the replacement align the span with what is put in its place.

A hunk that changes nothing, its replacement being its anchor, leaves the document as it is. The alignment
of a list with itself is the diagonal (`alignment_self`), so every line of the span is put back whole, its
terminator included; and no rule about terminators applies to lines that stood between others already.
-/

namespace TextRepair

namespace Splice

variable {span : List Line} {h : Hunk} {dominant : Ending} {reindent : Bool}

theorem getElem?_newLines (hspan : span.length = h.anchor.length) {i j : Nat}
    (hpair : (i, j) ∈ alignment h.anchor h.replacement) :
    (newLines span h dominant reindent)[j]? = span[i]? := by
  obtain ⟨hi, hj, -⟩ := mem_alignment _ _ hpair
  have hline := List.getElem?_eq_getElem (hspan.symm ▸ hi)
  unfold newLines
  rw [if_pos hspan, List.getElem?_mapIdx, List.getElem?_eq_getElem hj, Option.map_some,
    find?_alignment hpair, Option.bind_some, hline]

theorem newLines_of_replacement_eq_anchor (hspan : span.length = h.anchor.length)
    (hsame : h.replacement = h.anchor) : newLines span h dominant reindent = span := by
  have hlength : (newLines span h dominant reindent).length = span.length := by
    rw [newLines, List.length_mapIdx, hsame, hspan]
  refine List.ext_getElem? fun j => ?_
  by_cases hj : j < span.length
  · apply getElem?_newLines hspan
    rw [hsame, alignment_self, ← hspan]
    exact List.mem_map.mpr ⟨j, List.mem_range.mpr hj, rfl⟩
  · rw [List.getElem?_eq_none (by omega), List.getElem?_eq_none (by omega)]

theorem terminateInner_eq_self {ls : List Line} (hls : ∀ line ∈ ls.dropLast, line.ending ≠ .none) :
    terminateInner dominant ls = ls := by
  fun_induction terminateInner dominant ls with
  | case1 => rfl
  | case2 => rfl
  | case3 line rest hrest ih =>
    have hdrop : (line :: rest).dropLast = line :: rest.dropLast := by
      cases rest with
      | nil => exact absurd rfl hrest
      | cons next more => rfl
    rw [hdrop] at hls
    rw [if_neg (hls line List.mem_cons_self), ih fun l hl => hls l (List.mem_cons_of_mem _ hl)]

end Splice

open Splice

namespace Document

variable {d : Document} {h : Hunk} {reindent : Bool} {start stop : Nat}

theorem getElem?_texts_spliceHunk (hle : start ≤ stop) (hstop : stop ≤ d.size)
    (hspan : stop - start = h.anchor.length) {i j : Nat}
    (hpair : (i, j) ∈ alignment h.anchor h.replacement) :
    (d.spliceHunk start stop h reindent).texts[start + j]? = d.texts[start + i]? := by
  obtain ⟨hi, hj, -⟩ := mem_alignment _ _ hpair
  have hlines : ((d.lines.drop start).take (stop - start)).length = h.anchor.length := by
    rw [← hspan, List.length_take_of_le]
    rw [List.length_drop]
    exact Nat.sub_le_sub_right hstop start
  have hnew : (newTexts ((d.texts.drop start).take (stop - start)) h reindent)[j]? = d.texts[start + i]? := by
    rw [texts, ← List.map_drop, ← List.map_take, ← map_text_newLines _ h d.dominantEnding, List.getElem?_map,
      getElem?_newLines hlines hpair, List.getElem?_take_of_lt (by omega), List.getElem?_drop,
      List.getElem?_map]
  have hbefore : (d.texts.take start).length = start := by
    rw [List.length_take_of_le]
    rw [length_texts]
    omega
  have hlength := length_newTexts ((d.texts.drop start).take (stop - start)) h reindent
  rw [d.texts_spliceHunk_eq h reindent hle hstop, List.append_assoc,
    List.getElem?_append_right (by omega), hbefore, Nat.add_sub_cancel_left,
    List.getElem?_append_left (by omega), hnew]

theorem Spliced.eq_of_replacement_eq_anchor {lines : List Line}
    (hspliced : d.Spliced h reindent start stop lines) (hsame : h.replacement = h.anchor)
    (hspan : stop - start = h.anchor.length) (hd : ∀ line ∈ d.lines.dropLast, line.ending ≠ .none) :
    lines = d.lines := by
  cases hspliced with
  | @replaced before span after last hlines hstart hstop =>
    have hlength : (span ++ [last]).length = h.anchor.length := by
      rw [List.length_append, List.length_singleton]
      omega
    have hinner : ∀ line ∈ (span ++ [last]).dropLast, line.ending ≠ .none := by
      intro line hline
      apply hd
      rw [List.dropLast_concat] at hline
      rw [hlines, List.append_assoc, List.append_assoc, ← List.append_assoc before,
        List.dropLast_append_of_ne_nil (by simp)]
      exact List.mem_append_left _ (List.mem_append_right _ hline)
    rw [putIn, newLines_of_replacement_eq_anchor hlength hsame, terminateInner_eq_self hinner,
      endWith_append_singleton, hlines]
  | @inserted before after hlines hstart hstop hend =>
    have hempty : h.replacement = [] := by
      rw [hsame]
      apply List.length_eq_zero_iff.mp
      omega
    rw [putIn_eq_nil_iff.mpr hempty, List.append_nil, hlines]
  | @appended before last hlines hstart hstop hlast hnew =>
    refine absurd (putIn_eq_nil_iff.mpr ?_) hnew
    rw [hsame]
    apply List.length_eq_zero_iff.mp
    omega

/-- A hunk in the place of a span that is as long as its anchor. Every line of the replacement that is
aligned with a line of the anchor has the document's text of that line, so the span and what takes its
place have as much in common, line for line and in order, as anchor and replacement can have; and a hunk
that changes nothing leaves the document as it is. -/
theorem spliceHunk_keeps_context (d : Document) {start stop : Nat} (h : Hunk) (reindent : Bool)
    (hd : ∀ line ∈ d.lines.dropLast, line.ending ≠ .none) (hle : start ≤ stop) (hstop : stop ≤ d.size)
    (hspan : stop - start = h.anchor.length) :
    (∀ pair ∈ alignment h.anchor h.replacement, ∃ text, d.texts[start + pair.1]? = some text ∧
      (d.spliceHunk start stop h reindent).texts[start + pair.2]? = some text) ∧
    (∀ common, IsAlignment h.anchor h.replacement common →
      ∃ survivors, common.length ≤ survivors.length ∧
        IsAlignment ((d.texts.drop start).take h.anchor.length)
          (((d.spliceHunk start stop h reindent).texts.drop start).take h.replacement.length) survivors) ∧
    (h.replacement = h.anchor → d.spliceHunk start stop h reindent = d) := by
  have hspliced := d.spliced_spliceHunk h reindent hle hstop
  refine ⟨fun pair hpair => ?_, fun common hcommon => ?_, fun hsame => ?_⟩
  · obtain ⟨hi, hj, -⟩ := mem_alignment _ _ hpair
    have hinside : start + pair.1 < d.texts.length := by
      rw [length_texts]
      omega
    have htext := List.getElem?_eq_getElem hinside
    exact ⟨_, htext, (getElem?_texts_spliceHunk hle hstop hspan hpair).trans htext⟩
  · refine ⟨alignment h.anchor h.replacement, ?_, ?_, ?_, ?_⟩
    · rw [length_alignment]
      rw [← List.reverse_reverse h.anchor, ← List.reverse_reverse h.replacement] at hcommon
      exact hcommon.length_le
    · intro pair hpair
      obtain ⟨hi, hj, -⟩ := mem_alignment _ _ hpair
      have hsize : (d.spliceHunk start stop h reindent).size = _ := hspliced.length_eq
      simp only [List.length_take, List.length_drop, length_texts, hsize]
      omega
    · intro pair hpair
      obtain ⟨hi, hj, -⟩ := mem_alignment _ _ hpair
      rw [List.getElem?_take_of_lt hi, List.getElem?_take_of_lt hj, List.getElem?_drop, List.getElem?_drop,
        getElem?_texts_spliceHunk hle hstop hspan hpair]
    · exact (isAlignment_alignment h.anchor h.replacement).increasing
  · have hlines := hspliced.eq_of_replacement_eq_anchor hsame hspan hd
    cases d
    exact congrArg Document.mk hlines

/-- The lines that the hunk does not change are spelled differently in the document. -/
theorem spliceHunk_keeps_context_twoSpellings :
    let d : Document := ⟨[⟨"if x:", .lf⟩, ⟨"\ty = 1", .lf⟩, ⟨"end ", .none⟩]⟩
    let h : Hunk := ⟨["if x:", "  y = 1", "end"], ["if x:", "  y = 2", "end"], none, none⟩
    (∀ line ∈ d.lines.dropLast, line.ending ≠ .none) ∧ (2, 2) ∈ alignment h.anchor h.replacement ∧
      (d.spliceHunk 0 3 h true).texts[2]? = some "end " := by
  intro d h
  have hd : ∀ line ∈ d.lines.dropLast, line.ending ≠ .none := by decide
  have hpair : (2, 2) ∈ alignment h.anchor h.replacement := by decide +kernel
  obtain ⟨text, hold, hnew⟩ :=
    (spliceHunk_keeps_context d h true hd (Nat.zero_le 3) (by decide) rfl).1 _ hpair
  exact ⟨hd, hpair, hnew.trans hold.symm⟩

end Document

end TextRepair
