import TextRepair.Proofs.Edit.Header
import TextRepair.Proofs.Text.Lines

/-!
# Reading written scripts

What is written as edit scripts is read as the changes that these stand for, in order and one for each
script (`hunks_presents`). The counts of the headers need not fit, the lines may end with a carriage return
and a line feed, and the diff may stand in a fence with prose around it.

A body line is told from a header by its mark, and from a fence by the mark too, unless it is a context
line; a deleted line is taken for the old name of a file only with the inserted line behind it. So each
header ends the draft before it and opens one of its own, which then takes the body lines as they were
written (`read_lines`), and a file's names end nothing where no draft is open (`read_written`).
-/

namespace TextRepair

namespace Diff

/-! ### Kinds of lines -/

theorem stripReturns_of_getLast? {line : List Char} (hline : line.getLast? ≠ some '\r') :
    stripReturns line = line := by
  rcases line.eq_nil_or_concat' with rfl | ⟨front, c, rfl⟩
  · rfl
  · have hc : c ≠ '\r' := by simpa using hline
    simp [stripReturns, Text.dropEndWhile, hc]

theorem exists_stripReturns_append {start : List Char} (hstart : start.getLast? ≠ some '\r')
    (cs : List Char) : ∃ rest, stripReturns (start ++ cs) = start ++ rest := by
  rcases h : cs.reverse.dropWhile (· = '\r') with _ | ⟨c, rest⟩
  · refine ⟨[], ?_⟩
    have hstrip : stripReturns (start ++ cs) = stripReturns start := by
      simp [stripReturns, Text.dropEndWhile, List.dropWhile_append, h]
    rw [hstrip, stripReturns_of_getLast? hstart, List.append_nil]
  · refine ⟨(c :: rest).reverse, ?_⟩
    simp [stripReturns, Text.dropEndWhile, List.dropWhile_append, h]

theorem isHeader_header (s : EditScript) : isHeader s.header = true := by
  obtain ⟨rest, hrest⟩ := exists_header_eq s
  rw [hrest]
  rfl

theorem isFileHeader_header (s : EditScript) (next : List Char) : isFileHeader s.header next = false := by
  obtain ⟨rest, hrest⟩ := exists_header_eq s
  rw [hrest]
  rfl

theorem isHeader_render (c : Change) : isHeader c.render = false := by
  cases c <;> rfl

theorem of_isFileHeader_render {c : Change} {next : List Char}
    (hnames : isFileHeader c.render next = true) :
    c.IsOldName ∧ ∃ name, next = "+++ ".toList ++ name := by
  rw [isFileHeader, Bool.and_eq_true, List.isPrefixOf_iff_prefix, List.isPrefixOf_iff_prefix] at hnames
  obtain ⟨⟨name, hold⟩, name', hnew⟩ := hnames
  refine ⟨⟨name, ?_⟩, name', hnew.symm⟩
  cases c with
  | context text => cases hold
  | insert text => cases hold
  | delete text =>
    rw [Change.render] at hold
    rw [← (List.cons.inj hold).2]
    rfl

theorem isNewName_of_render {c : Change} {name : List Char} (hc : c.render = "+++ ".toList ++ name) :
    c.IsNewName := by
  refine ⟨name, ?_⟩
  cases c with
  | context text => cases hc
  | delete text => cases hc
  | insert text =>
    rw [(List.cons.inj hc).2]
    rfl

theorem getLast?_render {c : Change} (hc : c.text.getLast? ≠ some '\r') :
    c.render.getLast? ≠ some '\r' := by
  cases c with
  | context text | delete text | insert text =>
    cases text with
    | nil => decide
    | cons d text => simpa [Change.render, Change.text] using hc

/-! ### One script -/

theorem read_cons_body {line : List Char} {rest : List (List Char)} (hstrip : stripReturns line = line)
    (hnames : isFileHeader line (rest.headD []) = false) (hheader : isHeader line = false)
    (number : Nat) (current : Option Draft) :
    read number current (line :: rest) = read (number + 1) (current.map (·.push line)) rest := by
  rw [read.eq_def]
  simp only [hstrip, hnames, hheader, Bool.false_eq_true, if_false]

theorem read_cons_header {line : List Char} {rest : List (List Char)} (hstrip : stripReturns line = line)
    (hnames : isFileHeader line (rest.headD []) = false) (hheader : isHeader line = true)
    (number : Nat) (current : Option Draft) :
    read number current (line :: rest) = do
      let done ← close current
      let draft ← Draft.ofHeader number line
      let more ← read (number + 1) (some draft) rest
      return done ++ more := by
  rw [read.eq_def]
  simp only [hstrip, hnames, hheader, Bool.false_eq_true, if_false, if_true]

theorem read_cons_names {line next : List Char} {rest : List (List Char)}
    (hnames : isFileHeader (stripReturns line) next = true) (number : Nat) (current : Option Draft) :
    read number current (line :: next :: rest) = do
      let done ← close current
      let more ← read (number + 2) none rest
      return done ++ more := by
  rw [read]
  simp [hnames]

theorem read_changes {changes : List Change} {rest : List (List Char)}
    (hreturn : ∀ c ∈ changes, c.text.getLast? ≠ some '\r')
    (hnames : changes.IsChain fun c next => ¬(c.IsOldName ∧ next.IsNewName))
    (hrest : ∀ name, rest.headD [] ≠ "+++ ".toList ++ name) (number : Nat) (draft : Draft) :
    read number (some draft) (changes.map Change.render ++ rest)
      = read (number + changes.length)
          (some { draft with body := changes.reverse ++ draft.body }) rest := by
  induction changes generalizing number draft with
  | nil => rfl
  | cons c changes ih =>
    rw [List.forall_mem_cons] at hreturn
    have hstrip := stripReturns_of_getLast? (getLast?_render hreturn.1)
    -- The line behind `c` is that of the next change, or else the first one of `rest`.
    have hfile : isFileHeader c.render ((changes.map Change.render ++ rest).headD []) = false := by
      rw [Bool.eq_false_iff]
      intro hfile
      obtain ⟨hold, name, hnext⟩ := of_isFileHeader_render hfile
      cases changes with
      | nil => exact hrest name hnext
      | cons next changes =>
        exact (List.isChain_cons_cons.mp hnames).1 ⟨hold, isNewName_of_render hnext⟩
    rw [List.map_cons, List.cons_append, read_cons_body hstrip hfile (isHeader_render c),
      Option.map_some, Draft.push, Change.ofLine?_render, ih hreturn.2 hnames.tail]
    simp [Nat.add_comm, Nat.add_left_comm]

theorem isChain_changes_iff {changes : List Change} :
    (changes.IsChain fun c next => ¬(c.IsOldName ∧ next.IsNewName)) ↔
      ∀ before c next after, changes = before ++ c :: next :: after → ¬(c.IsOldName ∧ next.IsNewName) := by
  rw [List.isChain_iff_forall_rel_of_append_cons_cons]
  exact ⟨fun h before c next after => @h c next before after,
    fun h c next before after => h before c next after⟩

theorem read_lines {s : EditScript} (hs : s.IsPlain) {rest : List (List Char)}
    (hrest : ∀ name, rest.headD [] ≠ "+++ ".toList ++ name) (number : Nat) (current : Option Draft) :
    read number current (s.lines ++ rest) = do
      let done ← close current
      let more ← read (number + 1 + s.changes.length)
        (some ⟨number, some s.oldStart, s.changes.reverse⟩) rest
      return done ++ more := by
  have hstrip : stripReturns s.header = s.header := by
    obtain ⟨front, hfront⟩ := exists_header_eq_append s
    exact stripReturns_of_getLast? (by simp [hfront])
  have hchanges := read_changes (fun c hc => (hs.unbroken c hc).2) (isChain_changes_iff.mpr hs.unnamed)
    hrest (number + 1) ⟨number, some s.oldStart, []⟩
  rw [EditScript.lines, List.cons_append,
    read_cons_header hstrip (isFileHeader_header s _) (isHeader_header s), ofHeader_header _ hs.start]
  -- The draft is opened by the header, so only the lines after it are left to read.
  change (close current >>= fun done => read (number + 1) (some ⟨number, some s.oldStart, []⟩)
    (s.changes.map Change.render ++ rest) >>= fun more => pure (done ++ more)) = _
  simp only [hchanges, List.append_nil]

/-! ### All scripts -/

/-- The change that a script stands for with all its lines. -/
def wholeHunk (s : EditScript) : Hunk where
  anchor := s.old
  replacement := s.new
  hint := some (s.oldStart - 1)
  insertionPoint := if s.old = [] then some s.oldStart else none

theorem close_draft (s : EditScript) (number : Nat) :
    close (some ⟨number, some s.oldStart, s.changes.reverse⟩) = .ok [wholeHunk s] := by
  rw [close, Draft.finish]
  simp only [List.reverse_reverse, Option.map_some]
  change (if s.old.isEmpty then (Except.ok _ : Except DiffError Hunk) else Except.ok _).map _ = _
  by_cases hold : s.old = []
  · rw [if_pos (List.isEmpty_iff.mpr hold), wholeHunk, if_pos hold]
    rfl
  · rw [if_neg (fun h => hold (List.isEmpty_iff.mp h)), wholeHunk, if_neg hold]
    rfl

theorem headD_flatMap_lines (scripts : List EditScript) (name : List Char) :
    (scripts.flatMap EditScript.lines).headD [] ≠ "+++ ".toList ++ name := by
  cases scripts with
  | nil => exact nofun
  | cons s rest =>
    obtain ⟨more, hmore⟩ := exists_header_eq s
    rw [List.flatMap_cons, EditScript.lines, List.cons_append, List.headD_cons, hmore]
    exact fun h => absurd (List.cons.inj h).1 (by decide)

theorem read_flatMap_lines {scripts : List EditScript} (hscripts : ∀ s ∈ scripts, s.IsPlain) (number : Nat)
    {current : Option Draft} {done : List Hunk} (hcurrent : close current = .ok done) :
    read number current (scripts.flatMap EditScript.lines) = .ok (done ++ scripts.map wholeHunk) := by
  induction scripts generalizing number current done with
  | nil => simpa [read] using hcurrent
  | cons s rest ih =>
    rw [List.forall_mem_cons] at hscripts
    rw [List.flatMap_cons, read_lines hscripts.1 (headD_flatMap_lines rest), hcurrent,
      ih hscripts.2 _ (close_draft s number)]
    rfl

theorem read_written (names : Option (List Char × List Char)) {scripts : List EditScript}
    (hscripts : ∀ s ∈ scripts, s.IsPlain) :
    read 1 none (written names scripts) = .ok (scripts.map wholeHunk) := by
  cases names with
  | none => exact read_flatMap_lines hscripts 1 (show close none = .ok [] from rfl)
  | some names =>
    obtain ⟨old, new⟩ := names
    have hstart : ("--- ".toList).getLast? ≠ some '\r' := by decide
    obtain ⟨rest, hrest⟩ := exists_stripReturns_append hstart old
    have hnames : isFileHeader (stripReturns ("--- ".toList ++ old)) ("+++ ".toList ++ new) = true := by
      rw [hrest]
      simp [isFileHeader]
    have hread := read_flatMap_lines hscripts 3 (show close none = .ok [] from rfl)
    rw [written, List.cons_append, List.singleton_append, read_cons_names hnames, hread]
    rfl

/-! ### The empty lines at the end -/

theorem dropCommonBlank_eq (xs ys : List String) :
    dropCommonBlank xs ys
      = (xs.drop (min (xs.takeWhile (· = "")).length (ys.takeWhile (· = "")).length),
        ys.drop (min (xs.takeWhile (· = "")).length (ys.takeWhile (· = "")).length)) := by
  fun_induction dropCommonBlank xs ys with
  | case1 xs ys ih => simp [ih, Nat.succ_min_succ]
  | case2 xs ys hneither =>
    have hzero : min (xs.takeWhile (· = "")).length (ys.takeWhile (· = "")).length = 0 := by
      rcases xs with _ | ⟨x, xs⟩
      · simp
      · rcases ys with _ | ⟨y, ys⟩
        · simp
        · rcases eq_or_ne x "" with rfl | hx
          · have hy : y ≠ "" := fun h => hneither xs ys rfl (by rw [h])
            simp [hy]
          · simp [hx]
    rw [hzero]
    rfl

theorem trimEnd_eq (h : Hunk) :
    trimEnd h =
      let blank := min (EditScript.blankEnd h.anchor) (EditScript.blankEnd h.replacement)
      { h with
        anchor := h.anchor.take (h.anchor.length - blank)
        replacement := h.replacement.take (h.replacement.length - blank) } := by
  rw [trimEnd, dropCommonBlank_eq]
  simp [EditScript.blankEnd, List.reverse_drop]

theorem trimEnd_wholeHunk (s : EditScript) : trimEnd (wholeHunk s) = s.hunk :=
  trimEnd_eq (wholeHunk s)

/-! ### Fences -/

theorem isFence_cons_of_not_isBlank {c : Char} (hblank : Text.isBlank c = false)
    (hc : Char.ofNat 0x60 ≠ c) (line : List Char) : isFence (c :: line) = false := by
  rw [isFence, List.dropWhile_cons, hblank]
  simp [fence, List.replicate_succ, List.isPrefixOf, hc]

theorem isFence_render {c : Change} (hc : ∀ text, c = .context text → isFence text = false) :
    isFence c.render = false := by
  cases c with
  | context text => exact hc text rfl
  | delete text => exact isFence_cons_of_not_isBlank (by decide) (by decide) text
  | insert text => exact isFence_cons_of_not_isBlank (by decide) (by decide) text

theorem insideFences_append {lines : List (List Char)} (hlines : ∀ line ∈ lines, isFence line = false)
    (inside : Bool) (rest : List (List Char)) :
    insideFences inside (lines ++ rest) = (if inside then lines else []) ++ insideFences inside rest := by
  induction lines with
  | nil => simp
  | cons line lines ih =>
    rw [List.forall_mem_cons] at hlines
    rw [List.cons_append, insideFences]
    cases inside <;> simp [hlines.1, ih hlines.2]

theorem unfenced_presents {diff raw : String} (hraw : Presents diff raw)
    (hwhole : diff.toList.getLast? = some '\n')
    (hlines : ∀ line ∈ (Text.lines diff).map String.toList, isFence line = false) :
    unfenced ((Text.lines raw).map String.toList) = (Text.lines diff).map String.toList := by
  cases hraw with
  | bare =>
    have hnone : ((Text.lines diff).map String.toList).any isFence = false := by
      rw [List.any_eq_false]
      exact fun line hline => by simp [hlines line hline]
    rw [unfenced, hnone]
    rfl
  | @fenced before after hbefore hafter =>
    obtain ⟨hwhole', prose, opening, hbefore, hopening, hprose⟩ := hbefore
    obtain ⟨closing, prose', hafter, hclosing, hprose'⟩ := hafter
    have hshown : (Text.lines (before ++ diff ++ after)).map String.toList
        = prose.map String.toList ++ (opening.toList :: ((Text.lines diff).map String.toList ++
          (closing.toList :: prose'.map String.toList))) := by
      rw [String.append_assoc, Text.lines_append hwhole', Text.lines_append hwhole, hbefore, hafter]
      simp
    have hbehind : insideFences false (prose'.map String.toList) = [] := by
      simpa [insideFences] using insideFences_append (List.forall_mem_map.mpr hprose') false []
    have hany : ((Text.lines (before ++ diff ++ after)).map String.toList).any isFence = true := by
      rw [hshown]
      simp [hopening]
    rw [unfenced, if_pos hany, hshown, insideFences_append (List.forall_mem_map.mpr hprose),
      insideFences, if_pos hopening, Bool.not_false, insideFences_append hlines, insideFences,
      if_pos hclosing, Bool.not_true, hbehind]
    simp

/-! ### The whole diff -/

theorem of_mem_flatMap_lines {scripts : List EditScript} {line : List Char}
    (hline : line ∈ scripts.flatMap EditScript.lines) :
    ∃ s ∈ scripts, line = s.header ∨ ∃ c ∈ s.changes, line = c.render := by
  obtain ⟨s, hs, hline⟩ := List.mem_flatMap.mp hline
  refine ⟨s, hs, (List.mem_cons.mp hline).imp_right fun hline => ?_⟩
  obtain ⟨c, hc, rfl⟩ := List.mem_map.mp hline
  exact ⟨c, hc, rfl⟩

theorem isFence_of_mem_written {names : Option (List Char × List Char)} {scripts : List EditScript}
    (hscripts : ∀ s ∈ scripts, s.IsPlain) : ∀ line ∈ written names scripts, isFence line = false := by
  intro line hline
  rcases List.mem_append.mp hline with hline | hline
  · cases names with
    | none => exact absurd hline List.not_mem_nil
    | some names =>
      simp only [List.mem_cons, List.not_mem_nil, or_false] at hline
      rcases hline with rfl | rfl <;> exact isFence_cons_of_not_isBlank (by decide) (by decide) _
  · obtain ⟨s, hs, rfl | ⟨c, hc, rfl⟩⟩ := of_mem_flatMap_lines hline
    · exact isFence_cons_of_not_isBlank (by decide) (by decide) _
    · exact isFence_render fun text htext => (hscripts s hs).unfenced text (htext ▸ hc)

theorem feed_not_mem_render {c : Change} (hc : '\n' ∉ c.text) : '\n' ∉ c.render := by
  cases c <;> simpa [Change.render, Change.text] using hc

theorem feed_not_mem_written {names : Option (List Char × List Char)} {scripts : List EditScript}
    (hnames : ∀ pair ∈ names, '\n' ∉ pair.1 ∧ '\n' ∉ pair.2) (hscripts : ∀ s ∈ scripts, s.IsPlain) :
    ∀ line ∈ written names scripts, '\n' ∉ line := by
  intro line hline
  rcases List.mem_append.mp hline with hline | hline
  · cases names with
    | none => exact absurd hline List.not_mem_nil
    | some names =>
      simp only [List.mem_cons, List.not_mem_nil, or_false] at hline
      obtain ⟨hold, hnew⟩ := hnames names rfl
      rcases hline with rfl | rfl
      · simpa using hold
      · simpa using hnew
  · obtain ⟨s, hs, rfl | ⟨c, hc, rfl⟩⟩ := of_mem_flatMap_lines hline
    · exact feed_not_mem_header s
    · exact feed_not_mem_render ((hscripts s hs).unbroken c hc).1

theorem getLast?_of_mem_flatMap_lines {scripts : List EditScript} (hscripts : ∀ s ∈ scripts, s.IsPlain) :
    ∀ line ∈ scripts.flatMap EditScript.lines, line.getLast? ≠ some '\r' := by
  intro line hline
  obtain ⟨s, hs, rfl | ⟨c, hc, rfl⟩⟩ := of_mem_flatMap_lines hline
  · obtain ⟨front, hfront⟩ := exists_header_eq_append s
    simp [hfront]
  · exact getLast?_render ((hscripts s hs).unbroken c hc).2

theorem written_ne_nil (names : Option (List Char × List Char)) {scripts : List EditScript}
    (hne : scripts ≠ []) : written names scripts ≠ [] := by
  obtain ⟨s, rest, rfl⟩ := List.exists_cons_of_ne_nil hne
  simp [written, EditScript.lines]

theorem getLast?_toText_of_holds {d : Document} {lines : List (List Char)} (hd : Holds d lines)
    (hne : lines ≠ []) : d.toText.toList.getLast? = some '\n' := by
  obtain ⟨rfl, hending⟩ := hd
  obtain hnil | ⟨front, last, hlast⟩ := d.lines.eq_nil_or_concat'
  · simp [hnil] at hne
  · rw [Document.toText, String.toList_ofList, Document.toChars, hlast, List.flatMap_append]
    rcases hending last (by simp [hlast]) with hlf | hcrlf
    · simp [hlf, Ending.terminator]
    · simp [hcrlf, Ending.terminator]

theorem exists_lines_eq_written {d : Document} {names : Option (List Char × List Char)}
    {scripts : List EditScript} (hd : Holds d (written names scripts))
    (hnames : ∀ pair ∈ names, '\n' ∉ pair.1 ∧ '\n' ∉ pair.2) (hscripts : ∀ s ∈ scripts, s.IsPlain) :
    ∃ names', (Text.lines d.toText).map String.toList = written names' scripts := by
  obtain ⟨htexts, hending⟩ := hd
  have hfeed : ∀ line ∈ d.lines, '\n' ∉ line.text.toList := fun line hline =>
    feed_not_mem_written hnames hscripts _ (htexts ▸ List.mem_map_of_mem hline)
  have hshown : (Text.lines d.toText).map String.toList = d.lines.map Line.shown := by
    rw [Document.lines_toText d hfeed hending, List.map_map]
    simp [Function.comp_def]
  -- The lines of scripts end with no carriage return and are kept; those of the names are kept in part.
  obtain ⟨header, body, hlines, hheader, hbody⟩ := List.map_eq_append_iff.mp htexts
  have hbody : body.map Line.shown = scripts.flatMap EditScript.lines := by
    rw [← hbody]
    refine List.map_congr_left fun line hline => Line.shown_eq (hending line (by simp [hlines, hline])) ?_
    exact getLast?_of_mem_flatMap_lines hscripts _ (hbody ▸ List.mem_map_of_mem hline)
  rw [hshown, hlines, List.map_append, hbody]
  cases names with
  | none =>
    refine ⟨none, ?_⟩
    rw [List.map_eq_nil_iff.mp hheader]
    rfl
  | some names =>
    obtain ⟨oldLine, rest, rfl, hold, hrest⟩ := List.map_eq_cons_iff.mp hheader
    obtain ⟨newLine, rest, rfl, hnew, hrest⟩ := List.map_eq_cons_iff.mp hrest
    rw [List.map_eq_nil_iff.mp hrest]
    obtain ⟨old, hold⟩ := Line.exists_shown_eq (by decide) hold
    obtain ⟨new, hnew⟩ := Line.exists_shown_eq (by decide) hnew
    exact ⟨some (old, new), by rw [List.map_cons, List.map_cons, hold, hnew]; rfl⟩

/-- Reading undoes writing: of a text that presents a written diff, one change is read for each script, in
order, and it is the change that the script stands for. -/
theorem hunks_presents {scripts : List EditScript} (hne : scripts ≠ [])
    (hscripts : ∀ s ∈ scripts, s.IsPlain) {names : Option (List Char × List Char)}
    (hnames : ∀ pair ∈ names, '\n' ∉ pair.1 ∧ '\n' ∉ pair.2) {d : Document}
    (hd : Holds d (written names scripts)) {raw : String} (hraw : Presents d.toText raw) :
    hunks raw = .ok (scripts.map EditScript.hunk) := by
  obtain ⟨names', hlines⟩ := exists_lines_eq_written hd hnames hscripts
  have hwhole := getLast?_toText_of_holds hd (written_ne_nil names hne)
  have hunfenced := unfenced_presents hraw hwhole (hlines ▸ isFence_of_mem_written hscripts)
  have hempty : (scripts.map wholeHunk).isEmpty = false := by simpa using hne
  rw [hunks, hunfenced, hlines, read_written names' hscripts]
  change (if (scripts.map wholeHunk).isEmpty then _ else _) = _
  rw [hempty, if_neg Bool.false_ne_true, List.map_map]
  exact congrArg Except.ok (List.map_congr_left fun s _ => trimEnd_wholeHunk s)

/-- A replacement with an empty line behind it and an insertion, with wrong counts. -/
def twoScripts : List EditScript :=
  [⟨2, 1, 9, 4, [.context ['a'], .delete ['b'], .insert ['-', '-', ' ', 'c'], .context []]⟩,
    ⟨0, 0, 0, 7, [.insert ['x']]⟩]

theorem hunks_twoScripts :
    hunks ("The fix:\n\n ```diff\n" ++
        "--- old\n+++ new\r\n@@ -2,1 +9,4 @@\n a\r\n-b\n+-- c\n \n@@ -0,0 +0,7 @@\r\n+x\n" ++
        "```\nDone.") =
      .ok [⟨["a", "b"], ["a", "-- c"], some 1, none⟩, ⟨[], ["x"], some 0, some 0⟩] := by
  have hplain : ∀ s ∈ twoScripts, s.IsPlain := by
    rw [twoScripts, List.forall_mem_cons, List.forall_mem_singleton]
    refine ⟨⟨by decide, by decide, ?_, isChain_changes_iff.mp ?_⟩,
      by decide, by decide, by simp, isChain_changes_iff.mp (by simp)⟩
    · rintro text htext
      simp only [List.mem_cons, Change.context.injEq, reduceCtorEq, List.not_mem_nil, or_false,
        false_or] at htext
      rcases htext with rfl | rfl <;> decide
    · simp [Change.IsOldName, Change.IsNewName]
  have hholds : Holds (Document.parse
      "--- old\n+++ new\r\n@@ -2,1 +9,4 @@\n a\r\n-b\n+-- c\n \n@@ -0,0 +0,7 @@\r\n+x\n")
      (written (some ("old".toList, "new".toList)) twoScripts) :=
    ⟨by decide +kernel, by decide +kernel⟩
  have hopens : OpensFence "The fix:\n\n ```diff\n" :=
    ⟨by decide, ["The fix:", ""], " ```diff", by decide +kernel, by decide, by decide⟩
  have hcloses : ClosesFence "```\nDone." := ⟨"```", ["Done."], by decide +kernel, by decide, by decide⟩
  have hread := hunks_presents (List.cons_ne_nil _ _) hplain (by decide) hholds (.fenced hopens hcloses)
  rw [Document.toText_parse] at hread
  exact hread

end Diff

end TextRepair
