import TextRepair.Proofs.Splice
import Mathlib.Data.List.Infix

/-!
# The lines of a spliced document

In each of the three things that a splice can do (`Document.Spliced`) all but the last one of the lines put
in are terminated. From this:

* the characters of a spliced document come from the document or from the replacement
  (`not_mem_text_spliceHunk`);
* a terminator other than the line feed comes from the document (`ending_spliceHunk_ne`);
* only the last line may be unterminated if that holds of the document (`terminated_spliceHunk`).
-/

namespace TextRepair

namespace Splice

/-! ### The lines put in -/

theorem mem_terminateInner {dominant : Ending} {ls : List Line} {line : Line}
    (hline : line ∈ terminateInner dominant ls) :
    ∃ l ∈ ls, line.text = l.text ∧ (line.ending = l.ending ∨ line.ending = dominant) := by
  fun_induction terminateInner dominant ls with
  | case1 => exact absurd hline List.not_mem_nil
  | case2 l => exact ⟨line, hline, rfl, .inl rfl⟩
  | case3 l rest hrest ih =>
    rcases List.mem_cons.mp hline with rfl | hline
    · refine ⟨l, List.mem_cons_self, ?_⟩
      split_ifs <;> simp
    · obtain ⟨l', hl', hfrom⟩ := ih hline
      exact ⟨l', List.mem_cons_of_mem _ hl', hfrom⟩

theorem terminated_terminateInner {dominant : Ending} (hdominant : dominant ≠ .none) (ls : List Line) :
    ∀ line ∈ (terminateInner dominant ls).dropLast, line.ending ≠ .none := by
  fun_induction terminateInner dominant ls with
  | case1 => simp
  | case2 => simp
  | case3 l rest hrest ih =>
    intro line hline
    cases hcases : terminateInner dominant rest with
    | nil => simp [hcases] at hline
    | cons next more =>
      rw [hcases, List.dropLast_cons_cons, List.mem_cons] at hline
      rcases hline with rfl | hline
      · split_ifs with hnone
        · exact hdominant
        · exact hnone
      · exact ih line (hcases ▸ hline)

theorem endWith_append_singleton (ending : Ending) (ls : List Line) (line : Line) :
    endWith ending (ls ++ [line]) = ls ++ [{ line with ending }] := by
  induction ls with
  | nil => rfl
  | cons l ls ih =>
    rw [List.cons_append, endWith, ih, List.cons_append]
    simp

theorem mem_endWith {ending : Ending} {ls : List Line} {line : Line} (hline : line ∈ endWith ending ls) :
    ∃ l ∈ ls, line.text = l.text ∧ (line.ending = l.ending ∨ line.ending = ending) := by
  rcases ls.eq_nil_or_concat' with rfl | ⟨front, last, rfl⟩
  · exact absurd hline List.not_mem_nil
  · rw [endWith_append_singleton] at hline
    rcases List.mem_append.mp hline with hline | hline
    · exact ⟨line, List.mem_append_left _ hline, rfl, .inl rfl⟩
    · rw [List.mem_singleton.mp hline]
      exact ⟨last, by simp, rfl, .inr rfl⟩

theorem mem_dropLast_or_of_mem_endWith {ending : Ending} {ls : List Line} {line : Line}
    (hline : line ∈ endWith ending ls) : line ∈ ls.dropLast ∨ line.ending = ending := by
  rcases ls.eq_nil_or_concat' with rfl | ⟨front, last, rfl⟩
  · exact absurd hline List.not_mem_nil
  · rw [endWith_append_singleton] at hline
    rcases List.mem_append.mp hline with hline | hline
    · exact .inl (by simpa using hline)
    · exact .inr (by rw [List.mem_singleton.mp hline])

theorem dropLast_endWith (ending : Ending) (ls : List Line) :
    (endWith ending ls).dropLast = ls.dropLast := by
  rcases ls.eq_nil_or_concat' with rfl | ⟨front, last, rfl⟩
  · rfl
  · rw [endWith_append_singleton]
    simp

theorem mem_reindented {anchor span : List String} {reindent : Bool} {text : String} {c : Char}
    (hc : c ∈ (reindented (if reindent then indentShift? anchor span else none) text).toList) :
    c ∈ text.toList ∨ ∃ line ∈ span, c ∈ line.toList := by
  unfold reindented at hc
  split at hc
  · exact .inl hc
  · rename_i old new hshift
    split_ifs at hc with hblank hprefix
    · exact .inl hc
    · rw [String.toList_ofList, List.mem_append] at hc
      rcases hc with hc | hc
      · cases reindent with
        | false => cases hshift
        | true =>
          rw [if_pos rfl, indentShift?] at hshift
          split at hshift
          · rename_i a d hanchor hspan
            split_ifs at hshift
            cases hshift
            obtain ⟨line, hfind, rfl⟩ := Option.map_eq_some_iff.mp hspan
            exact .inr ⟨line, List.mem_of_find?_eq_some hfind, (List.takeWhile_prefix _).subset hc⟩
          · cases hshift
      · exact .inl (List.mem_of_mem_drop hc)
    · exact .inl hc

theorem mem_newLines {span : List Line} {h : Hunk} {dominant : Ending} {reindent : Bool} {line : Line}
    (hline : line ∈ newLines span h dominant reindent) :
    line ∈ span ∨ (line.ending = dominant ∧ ∃ text ∈ h.replacement,
      ∀ c ∈ line.text.toList, c ∈ text.toList ∨ ∃ l ∈ span, c ∈ l.text.toList) := by
  unfold newLines at hline
  obtain ⟨j, hj, rfl⟩ := List.mem_mapIdx.mp hline
  split
  · rename_i line hkept
    obtain ⟨pair, -, hspan⟩ := Option.bind_eq_some_iff.mp hkept
    exact .inl (List.mem_of_getElem? hspan)
  · refine .inr ⟨rfl, _, List.getElem_mem hj, fun c hc => ?_⟩
    simpa using mem_reindented hc

end Splice

open Splice

namespace Document

/-! ### Where the lines come from -/

theorem dominantEnding_cases (d : Document) :
    d.dominantEnding = .lf ∨ ∃ line ∈ d.lines, line.ending = d.dominantEnding := by
  have hexists : ∀ {e : Ending} {n : Nat}, n < d.countEnding e → ∃ line ∈ d.lines, line.ending = e := by
    intro e n hlt
    obtain ⟨line, hline, hending⟩ := List.countP_pos_iff.mp (Nat.zero_lt_of_lt hlt)
    exact ⟨line, hline, by simpa using hending⟩
  unfold dominantEnding
  dsimp only
  split_ifs with hcrlf hcr
  · exact .inr (hexists hcrlf.1)
  · exact .inr (hexists hcr.1)
  · exact .inl rfl

theorem dominantEnding_ne_none (d : Document) : d.dominantEnding ≠ .none := by
  unfold dominantEnding
  dsimp only
  split_ifs <;> simp

/-- The characters of a line are from the document or from the replacement, and it ends as a line of
the document does or with the dominant terminator. -/
structure IsSource (d : Document) (h : Hunk) (line : Line) : Prop where
  text : ∀ c ∈ line.text.toList,
    (∃ l ∈ d.lines, c ∈ l.text.toList) ∨ ∃ text ∈ h.replacement, c ∈ text.toList
  ending : line.ending = d.dominantEnding ∨ ∃ l ∈ d.lines, line.ending = l.ending

variable {d : Document} {h : Hunk} {reindent : Bool}

theorem isSource_of_mem {line : Line} (hline : line ∈ d.lines) : d.IsSource h line :=
  ⟨fun _ hc => .inl ⟨line, hline, hc⟩, .inr ⟨line, hline, rfl⟩⟩

theorem isSource_of_mem_putIn {span : List Line} (hspan : span ⊆ d.lines) {line : Line}
    (hline : line ∈ putIn d h reindent span) : d.IsSource h line := by
  obtain ⟨l, hl, htext, hending⟩ := mem_terminateInner hline
  have hsource : d.IsSource h l := by
    rcases mem_newLines hl with hl | ⟨hdominant, text, htext, hchars⟩
    · exact isSource_of_mem (hspan hl)
    · refine ⟨fun c hc => ?_, .inl hdominant⟩
      rcases hchars c hc with hc | ⟨l', hl', hc⟩
      · exact .inr ⟨text, htext, hc⟩
      · exact .inl ⟨l', hspan hl', hc⟩
  refine ⟨htext ▸ hsource.text, ?_⟩
  rcases hending with hending | hending
  · exact hending ▸ hsource.ending
  · exact .inl hending

theorem isSource_of_mem_endWith {ls : List Line} (hls : ∀ line ∈ ls, d.IsSource h line) {last : Line}
    (hlast : last ∈ d.lines) {line : Line} (hline : line ∈ endWith last.ending ls) :
    d.IsSource h line := by
  obtain ⟨l, hl, htext, hending⟩ := mem_endWith hline
  refine ⟨htext ▸ (hls l hl).text, ?_⟩
  rcases hending with hending | hending
  · exact hending ▸ (hls l hl).ending
  · exact .inr ⟨last, hlast, hending⟩

theorem Spliced.isSource {start stop : Nat} {lines : List Line}
    (hspliced : d.Spliced h reindent start stop lines) :
    ∀ line ∈ lines, d.IsSource h line := by
  cases hspliced with
  | @replaced before span after last hlines hstart hstop =>
    have hput : ∀ line ∈ endWith last.ending (putIn d h reindent (span ++ [last])), d.IsSource h line :=
      fun line => isSource_of_mem_endWith
        (fun _ => isSource_of_mem_putIn (by simp [hlines])) (by simp [hlines])
    simp only [List.mem_append]
    rintro line ((hline | hline) | hline)
    · exact isSource_of_mem (by simp [hlines, hline])
    · exact hput line hline
    · exact isSource_of_mem (by simp [hlines, hline])
  | @inserted before after hlines hstart hstop hend =>
    simp only [List.mem_append]
    rintro line ((hline | hline) | hline)
    · exact isSource_of_mem (by simp [hlines, hline])
    · exact isSource_of_mem_putIn (List.nil_subset _) hline
    · exact isSource_of_mem (by simp [hlines, hline])
  | @appended before last hlines hstart hstop hlast hnew =>
    simp only [List.mem_append, List.mem_cons]
    rintro line (hline | rfl | hline)
    · exact isSource_of_mem (by simp [hlines, hline])
    · exact ⟨(isSource_of_mem (by simp [hlines]) : d.IsSource h last).text, .inl rfl⟩
    · have hlast' : last ∈ d.lines := by simp [hlines]
      exact isSource_of_mem_endWith (fun _ => isSource_of_mem_putIn (List.nil_subset _)) hlast'
        (hlast ▸ hline)

theorem not_mem_text_spliceHunk {c : Char} (hd : ∀ line ∈ d.lines, c ∉ line.text.toList)
    (hh : ∀ text ∈ h.replacement, c ∉ text.toList) (start stop : Nat) :
    ∀ line ∈ (d.spliceHunk start stop h reindent).lines, c ∉ line.text.toList := by
  intro line hline hc
  rcases ((spliced_spliceHunk_min d start stop h reindent).isSource line hline).text c hc with
    ⟨l, hl, hmem⟩ | ⟨text, htext, hmem⟩
  · exact hd l hl hmem
  · exact hh text htext hmem

theorem ending_spliceHunk_ne {e : Ending} (he : e ≠ .lf) (hd : ∀ line ∈ d.lines, line.ending ≠ e)
    (start stop : Nat) : ∀ line ∈ (d.spliceHunk start stop h reindent).lines, line.ending ≠ e := by
  rintro line hline rfl
  rcases ((spliced_spliceHunk_min d start stop h reindent).isSource line hline).ending with
    hdominant | ⟨l, hl, hending⟩
  · rcases d.dominantEnding_cases with hlf | ⟨l, hl, hending⟩
    · exact he (hdominant.trans hlf)
    · exact hd l hl (hending.trans hdominant.symm)
  · exact hd l hl hending.symm

/-! ### Only the last line may be unterminated -/

theorem terminated_append {a b : List Line} (ha : ∀ line ∈ a, line.ending ≠ .none)
    (hb : ∀ line ∈ b.dropLast, line.ending ≠ .none) :
    ∀ line ∈ (a ++ b).dropLast, line.ending ≠ .none := by
  intro line hline
  rw [List.dropLast_append] at hline
  split at hline
  · exact ha line (List.mem_of_mem_dropLast hline)
  · exact (List.mem_append.mp hline).elim (ha line) (hb line)

theorem terminated_of_append {a b : List Line} (hb : b ≠ [])
    (hab : ∀ line ∈ (a ++ b).dropLast, line.ending ≠ .none) :
    (∀ line ∈ a, line.ending ≠ .none) ∧ ∀ line ∈ b.dropLast, line.ending ≠ .none := by
  rw [List.dropLast_append_of_ne_nil hb] at hab
  exact ⟨fun line hline => hab line (List.mem_append_left _ hline),
    fun line hline => hab line (List.mem_append_right _ hline)⟩

theorem terminated_putIn (span : List Line) :
    ∀ line ∈ (putIn d h reindent span).dropLast, line.ending ≠ .none :=
  terminated_terminateInner d.dominantEnding_ne_none _

theorem ending_of_mem_putIn_nil {line : Line} (hline : line ∈ putIn d h reindent []) :
    line.ending = d.dominantEnding := by
  obtain ⟨l, hl, -, hending⟩ := mem_terminateInner hline
  have hl : l.ending = d.dominantEnding :=
    (mem_newLines hl).elim (fun hl => absurd hl List.not_mem_nil) And.left
  exact hending.elim (fun hending => hending.trans hl) id

theorem terminated_putIn_nil : ∀ line ∈ putIn d h reindent [], line.ending ≠ .none :=
  fun _ hline => ending_of_mem_putIn_nil hline ▸ d.dominantEnding_ne_none

theorem Spliced.terminated {start stop : Nat} {lines : List Line}
    (hspliced : d.Spliced h reindent start stop lines)
    (hd : ∀ line ∈ d.lines.dropLast, line.ending ≠ .none) :
    ∀ line ∈ lines.dropLast, line.ending ≠ .none := by
  cases hspliced with
  | @replaced before span after last hlines hstart hstop =>
    rw [hlines] at hd
    rcases eq_or_ne after [] with rfl | hafter
    · rw [List.append_nil] at hd ⊢
      refine terminated_append (terminated_of_append (by simp) hd).1 ?_
      rw [dropLast_endWith]
      exact terminated_putIn _
    · obtain ⟨hfront, hback⟩ := terminated_of_append hafter hd
      refine terminated_append (fun line hline => ?_) hback
      rcases List.mem_append.mp hline with hline | hline
      · exact hfront line (List.mem_append_left _ hline)
      · rcases mem_dropLast_or_of_mem_endWith hline with hline | hending
        · exact terminated_putIn _ line hline
        · exact hending ▸ hfront last (by simp)
  | @inserted before after hlines hstart hstop hend =>
    rw [hlines] at hd
    rcases eq_or_ne after [] with rfl | hafter
    · rw [List.append_nil] at hd ⊢
      rcases eq_or_ne (putIn d h reindent []) [] with hput | hput
      · rwa [hput, List.append_nil]
      · refine terminated_append (fun line hline => ?_) (terminated_putIn _)
        rcases before.eq_nil_or_concat' with rfl | ⟨front, last, rfl⟩
        · exact absurd hline List.not_mem_nil
        · rcases List.mem_append.mp hline with hline | hline
          · exact hd line (by simpa using hline)
          · exact hend rfl hput line (by simpa [eq_comm] using hline)
    · obtain ⟨hfront, hback⟩ := terminated_of_append hafter hd
      refine terminated_append (fun line hline => ?_) hback
      exact (List.mem_append.mp hline).elim (hfront line) (terminated_putIn_nil line)
  | @appended before last hlines hstart hstop hlast hnew =>
    rw [hlines] at hd
    refine terminated_append (terminated_of_append (by simp) hd).1 ?_
    rw [← List.singleton_append]
    refine terminated_append (fun line hline => ?_) ?_
    · rw [List.mem_singleton.mp hline]
      exact d.dominantEnding_ne_none
    · rw [dropLast_endWith]
      exact terminated_putIn _

/-- If only the last line of a document may be unterminated, this holds of the spliced document. -/
theorem terminated_spliceHunk (hd : ∀ line ∈ d.lines.dropLast, line.ending ≠ .none) (start stop : Nat) :
    ∀ line ∈ (d.spliceHunk start stop h reindent).lines.dropLast, line.ending ≠ .none :=
  (spliced_spliceHunk_min d start stop h reindent).terminated hd

end Document

end TextRepair
