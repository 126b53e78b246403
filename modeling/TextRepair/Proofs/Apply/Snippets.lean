import TextRepair.Proofs.Apply.Verbatim
import TextRepair.Proofs.Text.Lines

/-!
# Snippets copied from a text

A pair of snippets is one hunk, and its lines are the snippets' lines without outer blank lines. A snippet is
read line by line in another way than a document is, and both ways agree on what is copied from a document
whose lines end with a line feed, a carriage return before it or not: consecutive lines of a document that
some text has are such a document again (`Document.IsReadable.of_part`), so they come back from their own text.
The copied lines therefore stand in the document, and the verbatim search, which comes first by the standard
settings, puts the new lines in their first place. Main statement, `applyEdit_copied`.
-/

namespace TextRepair

open Locate

theorem Diff.stripReturns_of_notMem {line : List Char} (hline : '\r' ∉ line) : stripReturns line = line := by
  rw [stripReturns, Text.dropEndWhile_eq_rdropWhile, List.rdropWhile_eq_self_iff]
  intro hne hlast
  have hreturn : line.getLast hne = '\r' := by simpa using hlast
  exact hline (hreturn ▸ List.getLast_mem hne)

theorem Edit.snippetLines_eq {s : String} (hending : ∀ line ∈ (Document.parse s).lines, line.ending ≠ .cr) :
    snippetLines s = Text.dropOuterBlank (Document.parse s).texts := by
  unfold snippetLines
  rw [Text.lines_eq_texts hending]
  refine (List.map_congr_left fun line hline => ?_).trans (List.map_id _)
  obtain ⟨l, hl, rfl⟩ := List.mem_map.mp ((Text.dropOuterBlank_infix _).subset hline)
  have hreturn := ((Document.isReadable_parse s).unbroken l hl).2
  rw [Diff.stripReturns_of_notMem hreturn, String.ofList_toList, id]

theorem Edit.snippetLines_toText {d : Document} (hreadable : d.IsReadable)
    (hending : ∀ line ∈ d.lines, line.ending ≠ .cr) {block : List Line} (hblock : block <:+: d.lines) :
    snippetLines (Document.toText ⟨block⟩) = Text.dropOuterBlank (block.map Line.text) := by
  have hparse := (Document.parse_toText_iff ⟨block⟩).mpr (hreadable.of_part hblock)
  rw [snippetLines_eq, hparse]
  · rfl
  · rw [hparse]
    exact fun line hline => hending line (hblock.subset hline)

theorem Edit.notMem_of_mem_snippetLines {s line : String}
    (hending : ∀ line ∈ (Document.parse s).lines, line.ending ≠ .cr) (hline : line ∈ snippetLines s) :
    '\n' ∉ line.toList := by
  rw [snippetLines_eq hending] at hline
  obtain ⟨l, hl, rfl⟩ := List.mem_map.mp ((Text.dropOuterBlank_infix _).subset hline)
  exact ((Document.isReadable_parse s).unbroken l hl).1

theorem Document.dropOuterBlank_parse {s : String} (hblank : Text.isBlankText s = true) :
    Text.dropOuterBlank (parse s).texts = [] := by
  refine Text.dropOuterBlank_eq_nil fun text htext => ?_
  obtain ⟨line, hline, rfl⟩ := List.mem_map.mp htext
  rw [← toText_parse s, toText, Text.isBlankText, String.toList_ofList, List.all_eq_true] at hblank
  exact List.all_eq_true.mpr fun c hc =>
    hblank c (List.mem_flatMap.mpr ⟨line, hline, List.mem_append_left _ hc⟩)

theorem apply_first {d : Document} {h : Hunk} (hhint : h.hint = none) (hcheck : h.check 0 = .ok ())
    (hne : h.anchor ≠ []) (hpart : h.anchor <:+: d.texts) :
    ∃ (c : Candidate Float) (outcome : Outcome Float), Options.standard.apply d [h] = .ok outcome ∧
      outcome.success = true ∧ outcome.reports = [.placed 0 c [⟨.exact, some c.confidence⟩]] ∧
      c.IsVerbatim d.texts h.anchor none ∧
      outcome.document.texts = d.texts.take c.start ++ h.replacement ++ d.texts.drop c.stop := by
  obtain ⟨start, hocc⟩ := OccursAt.of_infix hpart
  rcases Matcher.scan_exact_cases (S := Float) rfl d hne none with
    ⟨-, hnone⟩ | ⟨found, hfound, hverbatim⟩
  · exact absurd hocc (hnone start)
  have hplace := (⟨d, [], []⟩ : Progress Float).place_of_anchor Options.standard hne
  rw [hhint, Option.map_none, Options.standard.locate_of_scan_exact rfl hfound] at hplace
  refine ⟨found.candidate, _, Options.apply_of_placed (Options.checkHunks_singleton rfl hcheck) hplace,
    rfl, rfl, hverbatim, ?_⟩
  obtain ⟨hinside, hslice⟩ := hverbatim.nearest.occurs
  rw [hverbatim.stop]
  apply d.texts_spliceHunk h _ (Nat.le_add_right _ _)
  · rwa [← Document.length_texts]
  · rw [Nat.add_sub_cancel_left]
    exact hslice

/-- A pair of snippets whose first one is copied from the text that it is applied to, where no carriage
return ends a line by itself, in the text or in the second snippet. By the standard settings the verbatim
search finds the first place where the copied lines stand, outer blank lines apart, and there the lines of
the second snippet take their place, again without outer blank lines. A blank snippet takes them away. -/
theorem applyEdit_copied (t after : String) (block : List Line)
    (hending : ∀ line ∈ (Document.parse t).lines, line.ending ≠ .cr)
    (hafter : ∀ front rest, after.toList = front ++ '\r' :: rest → rest.head? = some '\n')
    (hblock : block <:+: (Document.parse t).lines)
    (hvisible : ∃ line ∈ block, Text.isBlankText line.text = false) :
    ∃ (c : Candidate Float) (outcome : Outcome Float),
      Options.standard.applyEdit (Document.parse t) (.snippets (Document.toText ⟨block⟩) after) = .ok outcome ∧
      outcome.success = true ∧ outcome.reports = [.placed 0 c [⟨.exact, some c.confidence⟩]] ∧
      c.IsVerbatim (Document.parse t).texts (Text.dropOuterBlank (block.map Line.text)) none ∧
      (∀ start, OccursAt (Document.parse t).texts (Text.dropOuterBlank (block.map Line.text)) start →
        c.start ≤ start) ∧
      outcome.document.texts = (Document.parse t).texts.take c.start
        ++ Text.dropOuterBlank (Document.parse after).texts ++ (Document.parse t).texts.drop c.stop ∧
      (Text.isBlankText after = true → outcome.document.texts
        = (Document.parse t).texts.take c.start ++ (Document.parse t).texts.drop c.stop) := by
  have hreadable := Document.isReadable_parse t
  have hpaired := (Document.forall_ending_ne_cr_iff [] after.toList).mpr hafter
  have hbefore := Edit.snippetLines_toText hreadable hending hblock
  rw [Options.applyEdit, Edit.hunks, hbefore]
  obtain ⟨line, hline, hshown⟩ := hvisible
  have hmem : line.text ∈ Text.dropOuterBlank (block.map Line.text) :=
    (Text.mem_dropOuterBlank hshown).mpr (List.mem_map_of_mem hline)
  have hpart : Text.dropOuterBlank (block.map Line.text) <:+: (Document.parse t).texts :=
    (Text.dropOuterBlank_infix _).trans (hblock.map Line.text)
  have hcheck : (Hunk.replacing (Text.dropOuterBlank (block.map Line.text)) (Edit.snippetLines after)).check 0
      = .ok () := by
    refine (Hunk.check_eq_ok_iff _ 0).mpr ⟨fun text htext => ?_, fun h => absurd h (List.ne_nil_of_mem hmem),
      fun _ => ⟨_, hmem, hshown⟩⟩
    rcases List.mem_append.mp htext with htext | htext
    · obtain ⟨l, hl, rfl⟩ := List.mem_map.mp (hpart.subset htext)
      exact (hreadable.unbroken l hl).1
    · exact Edit.notMem_of_mem_snippetLines hpaired htext
  obtain ⟨c, outcome, happly, hsuccess, hreports, hverbatim, htexts⟩ :=
    apply_first rfl hcheck (List.ne_nil_of_mem hmem) hpart
  refine ⟨c, outcome, happly, hsuccess, hreports, hverbatim,
    fun start hstart => hverbatim.nearest.earliest start hstart rfl, ?_, fun hblank => ?_⟩
  · rwa [← Edit.snippetLines_eq hpaired]
  · rw [htexts, Hunk.replacing, Edit.snippetLines_eq hpaired, Document.dropOuterBlank_parse hblank,
      List.append_nil]

/-- The copied lines have blank lines around them and stand in the text twice, with other terminators the
first time. -/
theorem applyEdit_copied_twice :
    (∀ line ∈ (Document.parse "a\nb\n\r\na\r\nb\r\n \r\nc").lines, line.ending ≠ .cr) ∧
    (∀ front rest, "\nx\r\n".toList = front ++ '\r' :: rest → rest.head? = some '\n') ∧
    [⟨"", .crlf⟩, ⟨"a", .crlf⟩, ⟨"b", .crlf⟩, ⟨" ", .crlf⟩] <:+:
      (Document.parse "a\nb\n\r\na\r\nb\r\n \r\nc").lines ∧
    ∃ outcome : Outcome Float,
      Options.standard.applyEdit (Document.parse "a\nb\n\r\na\r\nb\r\n \r\nc")
          (.snippets "\r\na\r\nb\r\n \r\n" "\nx\r\n") = .ok outcome ∧
        outcome.success = true ∧ outcome.document.texts = ["x", "", "a", "b", " ", "c"] := by
  have hending : ∀ line ∈ (Document.parse "a\nb\n\r\na\r\nb\r\n \r\nc").lines, line.ending ≠ .cr := by decide
  have hafter : ∀ front rest, "\nx\r\n".toList = front ++ '\r' :: rest → rest.head? = some '\n' :=
    (Document.forall_ending_ne_cr_iff [] _).mp (by decide)
  have hblock : [⟨"", .crlf⟩, ⟨"a", .crlf⟩, ⟨"b", .crlf⟩, ⟨" ", .crlf⟩] <:+:
      (Document.parse "a\nb\n\r\na\r\nb\r\n \r\nc").lines :=
    ⟨[⟨"a", .lf⟩, ⟨"b", .lf⟩], [⟨"c", .none⟩], by decide⟩
  obtain ⟨c, outcome, happly, hsuccess, -, hverbatim, hfirst, htexts, -⟩ :=
    applyEdit_copied "a\nb\n\r\na\r\nb\r\n \r\nc" "\nx\r\n" _ hending hafter hblock
      ⟨⟨"a", .crlf⟩, by decide, by decide⟩
  have hstart : c.start = 0 := Nat.le_zero.mp (hfirst 0 (by decide))
  rw [hverbatim.stop, hstart] at htexts
  exact ⟨hending, hafter, hblock, outcome, happly, hsuccess, htexts⟩

end TextRepair
