import TextRepair.Proofs.Alignment
import TextRepair.Splice
import Mathlib.Data.List.Infix

/-!
# The texts of a spliced document

A splice does one of three things (`Document.Spliced`): it puts new lines in the place of a span, it puts
them between two lines, or it appends them to an unterminated last line, which is terminated first. What is
proved of splices reaches the definition through these three cases.

The texts of the result are those of the document with a span replaced by texts that the hunk and the texts
of the span determine (`texts_spliceHunk_eq`), whatever the terminators.

Where a hunk's anchor is the text of the span that it replaces, the splice is literal: the texts put in are
the hunk's replacement, whether or not new lines are reindented (`texts_spliceHunk`). A line kept from the
document has the text of the anchor line that it is aligned with, hence of the replacement line for
which it stands, and equal texts have equal indentation, so nothing is shifted.
-/

namespace TextRepair

namespace Splice

@[simp] theorem map_text_terminateInner (dominant : Ending) (ls : List Line) :
    (terminateInner dominant ls).map Line.text = ls.map Line.text := by
  fun_induction terminateInner dominant ls with
  | case1 => rfl
  | case2 => rfl
  | case3 line rest hrest ih =>
    rw [List.map_cons, ih, List.map_cons]
    split_ifs <;> rfl

@[simp] theorem map_text_endWith (ending : Ending) (ls : List Line) :
    (endWith ending ls).map Line.text = ls.map Line.text := by
  fun_induction endWith ending ls with
  | case1 => rfl
  | case2 => rfl
  | case3 line rest hrest ih => rw [List.map_cons, ih, List.map_cons]

@[simp] theorem indentShift?_self (lines : List String) : indentShift? lines lines = none := by
  unfold indentShift?
  cases firstIndent? lines <;> simp

theorem text_of_aligned {h : Hunk} {j : Nat} {pair : Nat × Nat} {text : String}
    (hpair : (alignment h.anchor h.replacement).find? (fun pair => pair.2 = j) = some pair)
    (htext : h.anchor[pair.1]? = some text) : h.replacement[j]? = some text := by
  have hj : pair.2 = j := by simpa using List.find?_some hpair
  obtain ⟨-, -, heq⟩ := mem_alignment _ _ (List.mem_of_find?_eq_some hpair)
  rw [← hj, ← heq, htext]

/-- The texts of the lines put in place of a span, which has the texts `span`. -/
def newTexts (span : List String) (h : Hunk) (reindent : Bool) : List String :=
  let pairs := if span.length = h.anchor.length then alignment h.anchor h.replacement else []
  let shift := if reindent then indentShift? h.anchor span else none
  h.replacement.mapIdx fun j text =>
    ((pairs.find? fun pair => pair.2 = j).bind fun pair => span[pair.1]?).getD (reindented shift text)

@[simp] theorem length_newTexts (span : List String) (h : Hunk) (reindent : Bool) :
    (newTexts span h reindent).length = h.replacement.length := by
  rw [newTexts, List.length_mapIdx]

theorem map_text_newLines (span : List Line) (h : Hunk) (dominant : Ending) (reindent : Bool) :
    (newLines span h dominant reindent).map Line.text = newTexts (span.map Line.text) h reindent := by
  unfold newLines newTexts
  rw [List.length_map]
  refine List.ext_getElem? fun j => ?_
  rw [List.getElem?_map, List.getElem?_mapIdx, List.getElem?_mapIdx, Option.map_map]
  refine congrArg (Option.map · _) (funext fun text => ?_)
  generalize List.find? _ _ = pair?
  have hkept : (pair?.bind fun pair => (span.map Line.text)[pair.1]?) =
      (pair?.bind fun pair => span[pair.1]?).map Line.text := by
    cases pair? <;> simp
  rw [Function.comp_apply, hkept]
  cases pair?.bind fun pair => span[pair.1]? <;> rfl

theorem newTexts_anchor (h : Hunk) (reindent : Bool) : newTexts h.anchor h reindent = h.replacement := by
  unfold newTexts
  rw [if_pos rfl, indentShift?_self, ite_self]
  refine List.ext_getElem? fun j => ?_
  rw [List.getElem?_mapIdx]
  cases htext : h.replacement[j]? with
  | none => rfl
  | some text =>
    simp only [Option.map_some, Option.some.injEq]
    cases hkept : ((alignment h.anchor h.replacement).find? fun pair => pair.2 = j).bind
        fun pair => h.anchor[pair.1]? with
    | none => rfl
    | some kept =>
      obtain ⟨pair, hpair, hline⟩ := Option.bind_eq_some_iff.mp hkept
      have := text_of_aligned hpair hline
      rw [htext] at this
      exact (Option.some.inj this).symm

/-- The lines put in for `span`, before the last one takes its terminator. -/
def putIn (d : Document) (h : Hunk) (reindent : Bool) (span : List Line) : List Line :=
  terminateInner d.dominantEnding (newLines span h d.dominantEnding reindent)

theorem map_text_putIn (d : Document) (h : Hunk) (reindent : Bool) (span : List Line) :
    (putIn d h reindent span).map Line.text = newTexts (span.map Line.text) h reindent := by
  rw [putIn, map_text_terminateInner, map_text_newLines]

theorem length_endWith (ending : Ending) (ls : List Line) : (endWith ending ls).length = ls.length := by
  rw [← List.length_map Line.text, map_text_endWith, List.length_map]

@[simp] theorem length_putIn (d : Document) (h : Hunk) (reindent : Bool) (span : List Line) :
    (putIn d h reindent span).length = h.replacement.length := by
  rw [← List.length_map Line.text, map_text_putIn, length_newTexts]

theorem putIn_eq_nil_iff {d : Document} {h : Hunk} {reindent : Bool} {span : List Line} :
    putIn d h reindent span = [] ↔ h.replacement = [] := by
  rw [← List.length_eq_zero_iff, length_putIn, List.length_eq_zero_iff]

end Splice

open Splice

namespace Document

@[simp] theorem length_texts (d : Document) : d.texts.length = d.size :=
  List.length_map ..

theorem lines_splice (d : Document) {start stop : Nat} (new : List Line) (hle : start ≤ stop)
    (hstop : stop ≤ d.size) :
    (d.splice start stop new).lines = d.lines.take start ++ new ++ d.lines.drop stop := by
  simp only [splice, Nat.min_eq_left hstop, Nat.min_eq_left hle]

theorem spliceHunk_min (d : Document) (start stop : Nat) (h : Hunk) (reindent : Bool) :
    d.spliceHunk (min start (min stop d.size)) (min stop d.size) h reindent =
      d.spliceHunk start stop h reindent := by
  unfold spliceHunk
  simp only [Nat.min_assoc, Nat.min_self]

/-! ### What a splice does -/

/-- What a splice of `h` into the lines from `start` up to `stop` can make of the lines of a document. -/
inductive Spliced (d : Document) (h : Hunk) (reindent : Bool) (start stop : Nat) : List Line → Prop
  | replaced {before span after : List Line} {last : Line}
    (hlines : d.lines = before ++ (span ++ [last]) ++ after) (hstart : start = before.length)
    (hstop : stop = before.length + (span.length + 1)) :
    Spliced d h reindent start stop
      (before ++ endWith last.ending (putIn d h reindent (span ++ [last])) ++ after)
  | inserted {before after : List Line} (hlines : d.lines = before ++ after)
    (hstart : start = before.length) (hstop : stop = before.length)
    (hend : after = [] → putIn d h reindent [] ≠ [] → ∀ line ∈ before.getLast?, line.ending ≠ .none) :
    Spliced d h reindent start stop (before ++ putIn d h reindent [] ++ after)
  | appended {before : List Line} {last : Line} (hlines : d.lines = before ++ [last])
    (hstart : start = before.length + 1) (hstop : stop = before.length + 1)
    (hlast : last.ending = .none) (hnew : putIn d h reindent [] ≠ []) :
    Spliced d h reindent start stop
      (before ++ { last with ending := d.dominantEnding } :: endWith .none (putIn d h reindent []))

theorem spliced_spliceHunk (d : Document) {start stop : Nat} (h : Hunk) (reindent : Bool)
    (hle : start ≤ stop) (hstop : stop ≤ d.size) :
    d.Spliced h reindent start stop (d.spliceHunk start stop h reindent).lines := by
  have hlines : d.lines
      = d.lines.take start ++ (d.lines.drop start).take (stop - start) ++ d.lines.drop stop := by
    rw [← List.take_add, Nat.add_sub_of_le hle, List.take_append_drop]
  have hbefore : (d.lines.take start).length = start :=
    List.length_take_of_le (hle.trans hstop)
  have hsize : ((d.lines.drop start).take (stop - start)).length = stop - start := by
    rw [List.length_take_of_le]
    rw [List.length_drop]
    exact Nat.sub_le_sub_right hstop start
  unfold spliceHunk
  simp only [Nat.min_eq_left hstop, Nat.min_eq_left hle]
  cases hlast : ((d.lines.drop start).take (stop - start)).getLast? with
  | some last =>
    obtain ⟨span, hspan⟩ := List.getLast?_eq_some_iff.mp hlast
    rw [hspan, List.length_append, List.length_singleton] at hsize
    rw [hspan] at hlines
    simp only [hspan]
    rw [lines_splice d _ hle hstop]
    exact .replaced hlines hbefore.symm (by omega)
  | none =>
    -- An empty span. Only if it is at the end may the line before it be an unterminated one.
    have hnil := List.getLast?_eq_none_iff.mp hlast
    have hempty : start = stop := by
      rw [hnil, List.length_nil] at hsize
      omega
    subst hempty
    rw [hnil, List.append_nil] at hlines
    simp only [hnil]
    cases hprevious : d.lines.getLast? with
    | none =>
      simp only
      rw [lines_splice d _ hle hstop]
      refine .inserted hlines hbefore.symm hbefore.symm fun _ _ line hline => ?_
      simp [List.getLast?_eq_none_iff.mp hprevious] at hline
    | some previous =>
      simp only
      split_ifs with hend
      · obtain ⟨hatEnd, hopen, hnew⟩ := hend
        obtain ⟨before, hbefore⟩ := List.getLast?_eq_some_iff.mp hprevious
        have hbound : start = before.length + 1 := by rw [hatEnd, size, hbefore]; simp
        have hrest : (d.splice (start - 1) start ({ previous with ending := d.dominantEnding } ::
              endWith .none (putIn d h reindent []))).lines
            = before ++ { previous with ending := d.dominantEnding } ::
              endWith .none (putIn d h reindent []) := by
          rw [lines_splice d _ (Nat.sub_le _ _) hstop, hbefore, hbound]
          simp
        exact hrest ▸ .appended hbefore hbound hbound hopen hnew
      · rw [lines_splice d _ hle hstop]
        refine .inserted hlines hbefore.symm hbefore.symm fun hafter hnew line hline hopen =>
          hend ⟨?_, ?_, hnew⟩
        · exact Nat.le_antisymm hstop (List.drop_eq_nil_iff.mp hafter)
        · rw [hafter, List.append_nil] at hlines
          rw [← hlines, hprevious] at hline
          rw [Option.mem_some_iff.mp hline]
          exact hopen

theorem spliced_spliceHunk_min (d : Document) (start stop : Nat) (h : Hunk) (reindent : Bool) :
    d.Spliced h reindent (min start (min stop d.size)) (min stop d.size)
      (d.spliceHunk start stop h reindent).lines := by
  rw [← d.spliceHunk_min]
  exact d.spliced_spliceHunk h reindent (Nat.min_le_right _ _) (Nat.min_le_right _ _)

/-! ### Texts -/

theorem Spliced.map_text {d : Document} {h : Hunk} {reindent : Bool} {start stop : Nat} {lines : List Line}
    (hspliced : d.Spliced h reindent start stop lines) :
    lines.map Line.text = d.texts.take start ++
      newTexts ((d.texts.drop start).take (stop - start)) h reindent ++ d.texts.drop stop := by
  cases hspliced with
  | @replaced before span after last hlines hstart hstop =>
    have hsize : stop - start = (span.map Line.text ++ [last.text]).length := by
      rw [List.length_append, List.length_map, List.length_singleton]
      omega
    have htexts : d.texts = before.map Line.text ++
        ((span.map Line.text ++ [last.text]) ++ after.map Line.text) := by
      rw [texts, hlines]
      simp
    have hdrop : d.texts.drop stop = after.map Line.text := by
      rw [htexts, ← List.append_assoc, List.drop_left']
      simp [hstop]
    rw [hdrop, hsize, htexts, hstart, ← List.length_map Line.text, List.take_left, List.drop_left,
      List.take_left, List.map_append, List.map_append, map_text_endWith, map_text_putIn, List.map_append,
      List.map_singleton]
  | @inserted before after hlines hstart hstop hend =>
    have htexts : d.texts = before.map Line.text ++ after.map Line.text := by
      rw [texts, hlines, List.map_append]
    rw [hstart, hstop, Nat.sub_self, List.take_zero, htexts, ← List.length_map Line.text, List.take_left,
      List.drop_left, List.map_append, List.map_append, map_text_putIn, List.map_nil]
  | @appended before last hlines hstart hstop hlast hnew =>
    -- the unterminated last line is written anew with the same text
    have htexts : d.texts = before.map Line.text ++ [last.text] := by
      rw [texts, hlines, List.map_append, List.map_singleton]
    have hlength : before.length + 1 = d.texts.length := by
      rw [htexts, List.length_append, List.length_map, List.length_singleton]
    rw [hstart, hstop, Nat.sub_self, List.take_zero, hlength, List.take_length, List.drop_length, htexts,
      List.map_append, List.map_cons, map_text_endWith, map_text_putIn, List.map_nil, List.append_nil,
      List.append_assoc]
    rfl

theorem texts_spliceHunk_eq (d : Document) {start stop : Nat} (h : Hunk) (reindent : Bool)
    (hle : start ≤ stop) (hstop : stop ≤ d.size) :
    (d.spliceHunk start stop h reindent).texts = d.texts.take start ++
      newTexts ((d.texts.drop start).take (stop - start)) h reindent ++ d.texts.drop stop :=
  (d.spliced_spliceHunk h reindent hle hstop).map_text

/-- Splicing a hunk into a span with the anchor's texts replaces these texts and no other ones. -/
theorem texts_spliceHunk (d : Document) {start stop : Nat} (h : Hunk) (reindent : Bool)
    (hle : start ≤ stop) (hstop : stop ≤ d.size)
    (hspan : (d.texts.drop start).take (stop - start) = h.anchor) :
    (d.spliceHunk start stop h reindent).texts
      = d.texts.take start ++ h.replacement ++ d.texts.drop stop := by
  rw [d.texts_spliceHunk_eq h reindent hle hstop, hspan, newTexts_anchor]

theorem texts_spliceHunk_congr {d d' : Document} (htexts : d'.texts = d.texts) (start stop : Nat)
    (h : Hunk) (reindent : Bool) :
    (d'.spliceHunk start stop h reindent).texts = (d.spliceHunk start stop h reindent).texts := by
  have hsize : d'.size = d.size := by rw [← length_texts, htexts, length_texts]
  have hspliced := (d.spliced_spliceHunk_min start stop h reindent).map_text
  have hspliced' := (d'.spliced_spliceHunk_min start stop h reindent).map_text
  rw [hsize, htexts, ← hspliced] at hspliced'
  exact hspliced'

end Document

end TextRepair
