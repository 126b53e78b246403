import TextRepair.Proofs.Splice.Lines

/-!
# Splices under other terminators

A splice looks at terminators twice: it asks for the dominant one, and whether a line has one at all. So if
each terminator is replaced by another one and the dominant one is replaced with them, a splice does the same
to both documents (`spliceHunk_withEndings`).

This is the case of a document with line feeds and the same document with a carriage return before each of
them, as long as any line is terminated (`spliceHunk_withReturns`). If none is, both are one document, and
new lines get line feeds.
-/

namespace TextRepair

/-! ### Other terminators -/

/-- A carriage return before a line feed, other terminators as they are. -/
def Ending.toCrlf : Ending → Ending
  | .lf => .crlf
  | e => e

def Line.withEndings (f : Ending → Ending) (line : Line) : Line :=
  { line with ending := f line.ending }

theorem Line.ending_withEndings (f : Ending → Ending) (line : Line) :
    (line.withEndings f).ending = f line.ending :=
  rfl

/-- The document with each terminator `e` replaced by `f e`. -/
def Document.withEndings (f : Ending → Ending) (d : Document) : Document :=
  ⟨d.lines.map (Line.withEndings f)⟩

namespace Splice

variable {f : Ending → Ending}

theorem map_text_withEndings (f : Ending → Ending) (ls : List Line) :
    (ls.map (Line.withEndings f)).map Line.text = ls.map Line.text := by
  rw [List.map_map]
  rfl

theorem newLines_withEndings (f : Ending → Ending) (span : List Line) (h : Hunk) (dominant : Ending)
    (reindent : Bool) :
    newLines (span.map (Line.withEndings f)) h (f dominant) reindent =
      (newLines span h dominant reindent).map (Line.withEndings f) := by
  unfold newLines
  rw [List.length_map, map_text_withEndings]
  refine List.ext_getElem? fun j => ?_
  rw [List.getElem?_map, List.getElem?_mapIdx, List.getElem?_mapIdx, Option.map_map]
  refine congrArg (Option.map · _) (funext fun text => ?_)
  generalize List.find? _ _ = pair?
  have hkept : (pair?.bind fun pair => (span.map (Line.withEndings f))[pair.1]?) =
      (pair?.bind fun pair => span[pair.1]?).map (Line.withEndings f) := by
    cases pair? <;> simp
  rw [Function.comp_apply, hkept]
  cases pair?.bind fun pair => span[pair.1]? <;> rfl

theorem terminateInner_withEndings (hf : ∀ e, f e = .none ↔ e = .none) (dominant : Ending) (ls : List Line) :
    terminateInner (f dominant) (ls.map (Line.withEndings f)) =
      (terminateInner dominant ls).map (Line.withEndings f) := by
  fun_induction terminateInner dominant ls with
  | case1 => rfl
  | case2 => rfl
  | case3 line rest hrest ih =>
    obtain ⟨next, more, rfl⟩ := List.exists_cons_of_ne_nil fun h => hrest h
    rw [List.map_cons, List.map_cons, terminateInner, ← List.map_cons, ih, List.map_cons]
    · refine congrArg (· :: _) ?_
      simp only [Line.ending_withEndings, hf]
      split_ifs <;> rfl
    · simp

theorem endWith_withEndings (ending : Ending) (ls : List Line) :
    endWith (f ending) (ls.map (Line.withEndings f)) = (endWith ending ls).map (Line.withEndings f) := by
  rcases ls.eq_nil_or_concat' with rfl | ⟨front, last, rfl⟩
  · rfl
  · rw [List.map_append, List.map_singleton, endWith_append_singleton, endWith_append_singleton,
      List.map_append]
    rfl

end Splice

open Splice

namespace Document

variable {f : Ending → Ending}

theorem texts_withEndings (f : Ending → Ending) (d : Document) : (d.withEndings f).texts = d.texts :=
  map_text_withEndings f d.lines

theorem splice_withEndings (d : Document) (start stop : Nat) (new : List Line) :
    (d.withEndings f).splice start stop (new.map (Line.withEndings f)) =
      (d.splice start stop new).withEndings f := by
  simp only [splice, withEndings, size, List.length_map, List.map_append, List.map_take, List.map_drop]

/-- If the dominant terminator of the other document is the one that stands for that of this document, a
splice does the same to both. -/
theorem spliceHunk_withEndings {d : Document} (hf : ∀ e, f e = .none ↔ e = .none)
    (hdominant : (d.withEndings f).dominantEnding = f d.dominantEnding) (start stop : Nat) (h : Hunk)
    (reindent : Bool) :
    (d.withEndings f).spliceHunk start stop h reindent =
      (d.spliceHunk start stop h reindent).withEndings f := by
  have hsize : (d.withEndings f).size = d.size := List.length_map ..
  have hspan (i j : Nat) : ((d.withEndings f).lines.drop i).take j =
      ((d.lines.drop i).take j).map (Line.withEndings f) := by
    rw [withEndings, List.map_take, List.map_drop]
  have hlast : (d.withEndings f).lines.getLast? = d.lines.getLast?.map (Line.withEndings f) :=
    List.getLast?_map
  unfold spliceHunk
  simp only [hsize, hspan, hlast, hdominant, newLines_withEndings, terminateInner_withEndings hf,
    List.getLast?_map]
  generalize min stop d.size = stop'
  generalize min start stop' = start'
  -- The last line put in takes its terminator from the last line that is replaced. If none is, and the line
  -- before is unterminated, the new last line is unterminated instead of it.
  cases ((d.lines.drop start').take (stop' - start')).getLast? with
  | some last =>
    simp only [Option.map_some]
    rw [← splice_withEndings, ← endWith_withEndings]
    rfl
  | none =>
    simp only [Option.map_none]
    cases d.lines.getLast? with
    | none => exact splice_withEndings ..
    | some previous =>
      simp only [Option.map_some, Line.ending_withEndings, hf, Ne, List.map_eq_nil_iff]
      split_ifs with hend
      · rw [← splice_withEndings, List.map_cons, ← endWith_withEndings, (hf .none).mpr rfl]
        rfl
      · exact splice_withEndings ..

/-! ### Line feeds and carriage returns -/

/-- Every line ends with a line feed or not at all. -/
def HasFeeds (d : Document) : Prop :=
  ∀ line ∈ d.lines, line.ending = .lf ∨ line.ending = .none

/-- No line is terminated. -/
def IsUnterminated (d : Document) : Prop :=
  ∀ line ∈ d.lines, line.ending = .none

instance (d : Document) : Decidable d.HasFeeds :=
  inferInstanceAs (Decidable (∀ line ∈ d.lines, line.ending = .lf ∨ line.ending = .none))

instance (d : Document) : Decidable d.IsUnterminated :=
  inferInstanceAs (Decidable (∀ line ∈ d.lines, line.ending = .none))

/-- The document with a carriage return put before each line feed. -/
def withReturns (d : Document) : Document :=
  d.withEndings Ending.toCrlf

variable {d : Document}

theorem hasFeeds_iff : d.HasFeeds ↔ ∀ line ∈ d.lines, line.ending ≠ .crlf ∧ line.ending ≠ .cr := by
  refine forall₂_congr fun line _ => ?_
  cases line.ending <;> simp

theorem HasFeeds.spliceHunk (hd : d.HasFeeds) (start stop : Nat) (h : Hunk) (reindent : Bool) :
    (d.spliceHunk start stop h reindent).HasFeeds := by
  have hd := hasFeeds_iff.mp hd
  exact hasFeeds_iff.mpr fun line hline =>
    ⟨ending_spliceHunk_ne (by simp) (fun l hl => (hd l hl).1) start stop line hline,
      ending_spliceHunk_ne (by simp) (fun l hl => (hd l hl).2) start stop line hline⟩

theorem HasFeeds.dominantEnding (hd : d.HasFeeds) : d.dominantEnding = .lf := by
  rcases d.dominantEnding_cases with hlf | ⟨line, hline, hending⟩
  · exact hlf
  · rcases hd line hline with hlf | hnone
    · rw [← hending, hlf]
    · exact absurd (hending.symm.trans hnone) d.dominantEnding_ne_none

theorem HasFeeds.dominantEnding_withReturns (hd : d.HasFeeds) (hterminated : ¬d.IsUnterminated) :
    d.withReturns.dominantEnding = .crlf := by
  have hcount (e : Ending) :
      d.withReturns.countEnding e = d.lines.countP fun line => line.ending.toCrlf = e := by
    rw [countEnding, withReturns, withEndings, List.countP_map]
    rfl
  have hnone {e : Ending} (he : e = .lf ∨ e = .cr) : d.withReturns.countEnding e = 0 := by
    rw [hcount, List.countP_eq_zero]
    intro line hline
    rcases hd line hline with h | h <;> rcases he with rfl | rfl <;> simp [h, Ending.toCrlf]
  have hsome : 0 < d.withReturns.countEnding .crlf := by
    rw [hcount, List.countP_pos_iff]
    unfold IsUnterminated at hterminated
    push Not at hterminated
    obtain ⟨line, hline, hending⟩ := hterminated
    refine ⟨line, hline, ?_⟩
    simp [(hd line hline).resolve_right hending, Ending.toCrlf]
  rw [Document.dominantEnding, hnone (.inl rfl), hnone (.inr rfl), if_pos ⟨hsome, Nat.zero_le _⟩]

theorem HasFeeds.spliceHunk_withReturns (hd : d.HasFeeds) (hterminated : ¬d.IsUnterminated)
    (start stop : Nat) (h : Hunk) (reindent : Bool) :
    d.withReturns.spliceHunk start stop h reindent =
      (d.spliceHunk start stop h reindent).withReturns := by
  refine spliceHunk_withEndings (fun e => by cases e <;> simp [Ending.toCrlf]) ?_ start stop h reindent
  rw [hd.dominantEnding]
  exact hd.dominantEnding_withReturns hterminated

theorem IsUnterminated.withReturns (hd : d.IsUnterminated) : d.withReturns = d := by
  refine congrArg Document.mk ((List.map_congr_left fun line hline => ?_).trans (List.map_id _))
  have hending := hd line hline
  cases line
  obtain rfl := hending
  rfl

end Document

end TextRepair
