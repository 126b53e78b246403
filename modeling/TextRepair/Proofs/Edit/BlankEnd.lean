import TextRepair.Proofs.Apply.Refusal
import TextRepair.Proofs.Edit.Shown

/-!
# Empty lines at the end of a diff

An empty line behind a diff is read as a context line of its last hunk, and dropped again with the empty lines
that both versions of the hunk end with. Main statement, `hunks_append_ends`: so it changes nothing, except
that an insertion at the end of the text has an old line while it is read. The place of its lines is then not
noted, and when the empty lines are dropped it is left without a place (`not_hunks_append_ends`).

All is said of the shown lines of the text. If they end within a hunk, the empty lines join its section
(`exists_sections_append`), and no section is changed if they do not.
-/

namespace TextRepair

theorem EditScript.blankEnd_append_replicate (ls : List String) (k : Nat) :
    blankEnd (ls ++ List.replicate k "") = k + blankEnd ls := by
  have hblank : ∀ text ∈ List.replicate k "", decide (text = "") = true := by simp
  rw [blankEnd, List.reverse_append, List.reverse_replicate, List.takeWhile_append_of_pos hblank,
    List.length_append, List.length_replicate]
  rfl

namespace Diff

/-! ### Drafts with empty lines behind them -/

theorem ofLine?_replicate_nil (k : Nat) :
    (List.replicate k []).filterMap Change.ofLine? = List.replicate k (.context []) := by
  simp [List.filterMap_replicate, Change.ofLine?]

theorem exists_finish_of_finish {d : Draft} {h : Hunk} (hfinish : d.finish = .ok h) (k : Nat) :
    ∃ h', ((List.replicate k []).foldl Draft.push d).finish = .ok h' := by
  rw [foldl_push, ofLine?_replicate_nil]
  unfold Draft.finish at hfinish ⊢
  simp only [List.reverse_append, List.reverse_reverse, List.filterMap_append, List.map_append]
  split_ifs with hempty
  · -- Without old lines now there were none before, so the header has a line range.
    rw [List.isEmpty_iff, List.append_eq_nil_iff] at hempty
    rw [if_pos (List.isEmpty_iff.mpr hempty.1)] at hfinish
    cases hstart : d.start with
    | none =>
      rw [hstart] at hfinish
      cases hfinish
    | some start => exact ⟨_, rfl⟩
  · exact ⟨_, rfl⟩

theorem exists_close_of_close {current : Option Draft} {done : List Hunk} (hclose : close current = .ok done)
    (k : Nat) : ∃ done', close (current.map ((List.replicate k []).foldl Draft.push)) = .ok done' := by
  cases current with
  | none => exact ⟨_, rfl⟩
  | some d =>
    obtain ⟨h, hfinish, -⟩ := map_eq_ok hclose
    obtain ⟨h', hfinish'⟩ := exists_finish_of_finish hfinish k
    rw [Option.map_some, close, hfinish']
    exact ⟨[h'], rfl⟩

theorem read_replicate_nil (number : Nat) (current : Option Draft) (k : Nat) :
    read number current (List.replicate k []) = close (current.map ((List.replicate k []).foldl Draft.push)) := by
  induction k generalizing number current with
  | zero => cases current <;> rfl
  | succ k ih =>
    rw [List.replicate_succ, read_cons_body rfl rfl rfl, ih, Option.map_map]
    rfl

theorem headD_append_replicate_nil (lines : List (List Char)) (k : Nat) :
    (lines ++ List.replicate k []).headD [] = lines.headD [] := by
  cases lines with
  | nil => cases k <;> rfl
  | cons line rest => rfl

theorem exists_read_append {number : Nat} {current : Option Draft} {lines : List (List Char)}
    {found : List Hunk} (hshown : ∀ line ∈ lines, stripReturns line = line)
    (hread : read number current lines = .ok found) (k : Nat) :
    ∃ found', read number current (lines ++ List.replicate k []) = .ok found' := by
  fun_induction read number current lines generalizing found
  case case1 number current =>
    rw [List.nil_append, read_replicate_nil]
    exact exists_close_of_close hread k
  case case2 hnames =>
    simp [isFileHeader] at hnames
  case case3 current line stripped next rest hnames ih =>
    obtain ⟨done, hdone, hread⟩ := bind_eq_ok hread
    obtain ⟨more, hmore, -⟩ := bind_eq_ok hread
    obtain ⟨more', hmore'⟩ := ih (fun line hline => hshown line (by simp [hline])) hmore
    have hnames' : isFileHeader (stripReturns line) next = true := hnames
    rw [List.cons_append, List.cons_append, read_cons_names hnames', hdone, hmore']
    exact ⟨done ++ more', rfl⟩
  case case4 current line rest stripped hnames hheader ih =>
    rw [List.forall_mem_cons] at hshown
    obtain ⟨done, hdone, hread⟩ := bind_eq_ok hread
    obtain ⟨draft, hdraft, hread⟩ := bind_eq_ok hread
    obtain ⟨more, hmore, -⟩ := bind_eq_ok hread
    obtain ⟨more', hmore'⟩ := ih draft hshown.2 hmore
    simp only [stripped, hshown.1] at hnames hheader hdraft
    rw [List.cons_append, read_cons_header hshown.1 _ hheader, hdone, hdraft]
    · change ∃ found', (read _ (some draft) (rest ++ List.replicate k []) >>= fun more => pure (done ++ more))
        = Except.ok found'
      rw [hmore']
      exact ⟨done ++ more', rfl⟩
    · rw [headD_append_replicate_nil]
      exact eq_false_of_ne_true hnames
  case case5 current line rest stripped hnames hheader ih =>
    rw [List.forall_mem_cons] at hshown
    obtain ⟨found', hfound'⟩ := ih hshown.2 hread
    simp only [stripped, hshown.1] at hnames hheader hfound'
    rw [List.cons_append, read_cons_body hshown.1 _ (eq_false_of_ne_true hheader), hfound']
    · exact ⟨found', rfl⟩
    · rw [headD_append_replicate_nil]
      exact eq_false_of_ne_true hnames

/-! ### Sections with empty lines behind them -/

/-- All lines belong to the header before them: none of them starts another hunk or names a file. -/
def IsBody (lines : List (List Char)) : Prop :=
  (bodyLines lines).length = lines.length

/-- The lines end within a hunk, so that further lines would belong to it. -/
def EndsInHunk (lines : List (List Char)) : Prop :=
  ∃ before header body, lines = before ++ header :: body ∧ isHeader header = true ∧ IsBody body

/-- The section with empty lines behind its body. -/
def Section.followedBy (s : Section) (k : Nat) : Section :=
  { s with body := s.body ++ List.replicate k [] }

theorem isBody_cons_iff {line : List Char} {rest : List (List Char)} :
    IsBody (line :: rest) ↔
      (isFileHeader (stripReturns line) (rest.headD []) || isHeader line) = false ∧ IsBody rest := by
  cases hends : isFileHeader (stripReturns line) (rest.headD []) || isHeader line with
  | true => simp [IsBody, bodyLines_cons_of_ends hends]
  | false =>
    rw [IsBody, bodyLines, hends]
    simp [IsBody]

theorem bodyLines_append_of_isBody {lines : List (List Char)} (hbody : IsBody lines) (k : Nat) :
    bodyLines (lines ++ List.replicate k []) = bodyLines lines ++ List.replicate k [] := by
  induction lines with
  | nil =>
    induction k with
    | zero => rfl
    | succ k ih =>
      rw [List.replicate_succ, List.nil_append]
      exact congrArg ([] :: ·) ih
  | cons line rest ih =>
    obtain ⟨hends, hrest⟩ := isBody_cons_iff.mp hbody
    rw [List.cons_append, bodyLines, bodyLines, headD_append_replicate_nil, hends, ih hrest]
    rfl

theorem bodyLines_append_of_not_isBody {lines : List (List Char)} (hbody : ¬IsBody lines) (k : Nat) :
    bodyLines (lines ++ List.replicate k []) = bodyLines lines := by
  induction lines with
  | nil => exact absurd rfl hbody
  | cons line rest ih =>
    rw [isBody_cons_iff, not_and] at hbody
    rw [List.cons_append, bodyLines, bodyLines, headD_append_replicate_nil]
    cases hends : isFileHeader (stripReturns line) (rest.headD []) || isHeader line with
    | true => rfl
    | false => rw [ih (hbody hends)]

theorem endsInHunk_cons_iff {line : List Char} {rest : List (List Char)} :
    EndsInHunk (line :: rest) ↔ (isHeader line = true ∧ IsBody rest) ∨ EndsInHunk rest := by
  constructor
  · rintro ⟨before, header, body, hlines, hheader, hbody⟩
    rcases List.cons_eq_append_iff.mp hlines with ⟨-, hlines⟩ | ⟨before', -, hrest⟩
    · obtain ⟨rfl, rfl⟩ := List.cons.inj hlines
      exact .inl ⟨hheader, hbody⟩
    · exact .inr ⟨before', header, body, hrest, hheader, hbody⟩
  · rintro (⟨hheader, hbody⟩ | ⟨before, header, body, rfl, hheader, hbody⟩)
    · exact ⟨[], line, rest, rfl, hheader, hbody⟩
    · exact ⟨line :: before, header, body, rfl, hheader, hbody⟩

theorem isHeader_of_isBody {lines : List (List Char)} (hbody : IsBody lines) :
    ∀ line ∈ lines, isHeader line = false := by
  induction lines with
  | nil => exact nofun
  | cons line rest ih =>
    obtain ⟨hends, hrest⟩ := isBody_cons_iff.mp hbody
    exact List.forall_mem_cons.mpr ⟨(Bool.or_eq_false_iff.mp hends).2, ih hrest⟩

theorem EndsInHunk.not_isBody {lines : List (List Char)} (hopen : EndsInHunk lines) : ¬IsBody lines := by
  obtain ⟨before, header, body, rfl, hheader, -⟩ := hopen
  intro hbody
  have hnone := isHeader_of_isBody hbody header (by simp)
  rw [hheader] at hnone
  cases hnone

theorem sections_eq_nil {lines : List (List Char)} (hlines : ∀ line ∈ lines, isHeader line = false) :
    sections lines = [] := by
  rw [← List.length_eq_zero_iff, length_sections, List.countP_eq_zero]
  exact fun line hline => by simp [hlines line hline]

theorem sections_append_of_not_endsInHunk {lines : List (List Char)} (hopen : ¬EndsInHunk lines) (k : Nat) :
    sections (lines ++ List.replicate k []) = sections lines := by
  induction lines with
  | nil => exact sections_eq_nil (List.forall_mem_replicate.mpr (.inr rfl))
  | cons line rest ih =>
    rw [endsInHunk_cons_iff, not_or, not_and] at hopen
    rw [List.cons_append, sections, sections, ih hopen.2]
    split_ifs with hheader
    · rw [bodyLines_append_of_not_isBody (hopen.1 hheader)]
    · rfl

theorem exists_sections_append {lines : List (List Char)} (hopen : EndsInHunk lines) (k : Nat) :
    ∃ front last, sections lines = front ++ [last] ∧
      sections (lines ++ List.replicate k []) = front ++ [last.followedBy k] := by
  induction lines with
  | nil =>
    obtain ⟨before, header, body, hlines, -⟩ := hopen
    cases before <;> cases hlines
  | cons line rest ih =>
    rw [List.cons_append, sections, sections]
    rcases endsInHunk_cons_iff.mp hopen with ⟨hheader, hbody⟩ | hrest
    · have hnone := isHeader_of_isBody hbody
      have hnone' : ∀ line ∈ rest ++ List.replicate k [], isHeader line = false :=
        List.forall_mem_append.mpr ⟨hnone, List.forall_mem_replicate.mpr (.inr rfl)⟩
      rw [if_pos hheader, if_pos hheader, sections_eq_nil hnone, sections_eq_nil hnone',
        bodyLines_append_of_isBody hbody]
      exact ⟨[], _, rfl, rfl⟩
    · obtain ⟨front, last, hsections, happend⟩ := ih hrest
      rw [hsections, happend]
      split_ifs
      · rw [bodyLines_append_of_not_isBody hrest.not_isBody]
        exact ⟨_ :: front, last, rfl, rfl⟩
      · exact ⟨front, last, rfl, rfl⟩

namespace Section

variable (s : Section) (k : Nat)

theorem followedBy_zero : s.followedBy 0 = s := by
  rw [followedBy, List.replicate_zero, List.append_nil]

theorem version_followedBy {kept? : Change → Option (List Char)} (hkept : kept? (.context []) = some []) :
    ((s.followedBy k).changes.filterMap kept?).map String.ofList
      = (s.changes.filterMap kept?).map String.ofList ++ List.replicate k "" := by
  rw [changes, followedBy, List.filterMap_append, ofLine?_replicate_nil, List.filterMap_append,
    List.map_append, List.filterMap_replicate_of_some hkept, List.map_replicate]
  rfl

theorem old_followedBy : (s.followedBy k).old = s.old ++ List.replicate k "" :=
  s.version_followedBy k rfl

theorem new_followedBy : (s.followedBy k).new = s.new ++ List.replicate k "" :=
  s.version_followedBy k rfl

theorem commonBlankEnd_followedBy : (s.followedBy k).commonBlankEnd = k + s.commonBlankEnd := by
  rw [commonBlankEnd, old_followedBy, new_followedBy, EditScript.blankEnd_append_replicate,
    EditScript.blankEnd_append_replicate, commonBlankEnd, Nat.add_min_add_left]

theorem take_append_replicate (ls : List String) (blank : Nat) :
    (ls ++ List.replicate k "").take ((ls ++ List.replicate k "").length - (k + blank))
      = ls.take (ls.length - blank) := by
  rw [List.length_append, List.length_replicate, List.take_append_of_le_length (by omega)]
  congr 1
  omega

/-- Empty lines behind a section are dropped again with its trailing blanks, but a change without old lines
does not count as an insertion any more. -/
theorem hunk_followedBy (hk : 0 < k) : (s.followedBy k).hunk = { s.hunk with insertionPoint := none } := by
  have hold : s.old ++ List.replicate k "" ≠ [] := by
    rw [Ne, List.append_eq_nil_iff, List.replicate_eq_nil_iff]
    exact fun h => hk.ne' h.2
  simp only [hunk, commonBlankEnd_followedBy, old_followedBy, new_followedBy, take_append_replicate, if_neg hold]
  rfl

theorem anchor_hunk_of_insertionPoint (hpoint : s.hunk.insertionPoint ≠ none) : s.hunk.anchor = [] := by
  by_cases hold : s.old = []
  · simp [hunk, hold]
  · exact absurd (if_neg hold) hpoint

end Section

/-! ### The whole text -/

theorem hunks_of_shownLines_append {raw raw' : String} {hs : List Hunk} (hread : hunks raw = .ok hs)
    (hplain : ∀ line ∈ shownLines raw, isFence line = false) {k : Nat}
    (hshown : shownLines raw' = shownLines raw ++ List.replicate k []) :
    sections (shownLines raw) ≠ [] ∧ (sections (shownLines raw)).map Section.hunk = hs ∧
      hunks raw' = .ok ((sections (shownLines raw ++ List.replicate k [])).map Section.hunk) := by
  obtain ⟨⟨found, hfound⟩, hne, rfl⟩ := (hunks_eq_ok_iff hplain).mp hread
  have hplain' : ∀ line ∈ shownLines raw', isFence line = false := by
    rw [hshown]
    exact List.forall_mem_append.mpr ⟨hplain, List.forall_mem_replicate.mpr (.inr rfl)⟩
  have hne' : sections (shownLines raw') ≠ [] := by
    rw [← List.length_pos_iff, length_sections, hshown, List.countP_append]
    have hpos := List.length_pos_iff.mpr hne
    rw [length_sections] at hpos
    exact Nat.add_pos_left hpos _
  refine ⟨hne, rfl, (hunks_eq_ok_iff hplain').mpr ⟨?_, hne', by rw [hshown]⟩⟩
  rw [hshown]
  exact exists_read_append (shownLines_stripped raw) hfound k

/-- Empty lines behind a diff without fences: they cost the last hunk its insertion point, if it is an
insertion that ends with the text, and change nothing else; so they change nothing at all unless the last hunk
is such an insertion, and then that hunk is refused wherever the diff is used. The first of the line ends ends
the last line, if that is not ended yet. -/
theorem hunks_append_ends {raw : String} {hs : List Hunk} (hread : hunks raw = .ok hs)
    (hplain : ∀ line ∈ Text.lines raw, isFence line.toList = false) {ends : String}
    (hends : ∀ c ∈ ends.toList, c = '\n' ∨ c = '\r') :
    ∃ front last, hs = front ++ [last] ∧
      (last.insertionPoint = none ∨ ¬EndsInHunk (shownLines raw) ∨
          (Text.lines (raw ++ ends)).length = (Text.lines raw).length →
        hunks (raw ++ ends) = .ok hs) ∧
      (last.insertionPoint ≠ none → EndsInHunk (shownLines raw) →
          (Text.lines raw).length < (Text.lines (raw ++ ends)).length →
        hunks (raw ++ ends) = .ok (front ++ [{ last with insertionPoint := none }]) ∧
          ∀ i, Hunk.check { last with insertionPoint := none } i ≠ .ok ()) := by
  obtain ⟨k, hshown⟩ := exists_shownLines_append raw hends
  have hlength : (Text.lines (raw ++ ends)).length = (Text.lines raw).length + k := by
    rw [← length_shownLines, ← length_shownLines, hshown, List.length_append, List.length_replicate]
  obtain ⟨hne, hhunks, hread'⟩ := hunks_of_shownLines_append hread (isFence_of_mem_shownLines hplain) hshown
  rw [hread', hlength]
  by_cases hopen : EndsInHunk (shownLines raw)
  · obtain ⟨front, last, hsections, happend⟩ := exists_sections_append hopen k
    rw [hsections, List.map_append, List.map_singleton] at hhunks
    rw [happend, List.map_append, List.map_singleton]
    refine ⟨front.map Section.hunk, last.hunk, hhunks.symm, fun hkept => ?_, fun hpoint _ hlt => ⟨?_, ?_⟩⟩
    · rw [← hhunks]
      rcases Nat.eq_zero_or_pos k with rfl | hk
      · rw [last.followedBy_zero]
      · have hnone : last.hunk.insertionPoint = none :=
          hkept.resolve_right (not_or.mpr ⟨not_not.mpr hopen, by omega⟩)
        rw [last.hunk_followedBy k hk, ← hnone]
    · rw [last.hunk_followedBy k (by omega)]
    · exact Hunk.check_ne_ok_of_nowhere (last.anchor_hunk_of_insertionPoint hpoint) rfl
  · rw [sections_append_of_not_endsInHunk hopen, hhunks]
    obtain rfl | ⟨front, last, hlast⟩ := hs.eq_nil_or_concat'
    · exact absurd hhunks (mt List.map_eq_nil_iff.mp hne)
    · exact ⟨front, last, hlast, fun _ => rfl, fun _ hopen' => absurd hopen' hopen⟩

/-- The second hunk takes two lines out, of which the last one is empty, and puts two in, likewise. -/
def emptyTakenOut : String :=
  "@@ -1,0 +2 @@\n+a\n@@ -3,2 +5,2 @@\n-b\n-\n+c\n+"

theorem hunks_append_ends_emptyTakenOut :
    hunks (emptyTakenOut ++ "\n\r\n\n") =
      .ok [⟨[], ["a"], some 0, some 1⟩, ⟨["b"], ["c"], some 2, none⟩] := by
  have hread : hunks emptyTakenOut =
      .ok [⟨[], ["a"], some 0, some 1⟩, ⟨["b"], ["c"], some 2, none⟩] := by
    decide +kernel
  have hends : ∀ c ∈ ("\n\r\n\n" : String).toList, c = '\n' ∨ c = '\r' := by simp
  obtain ⟨front, last, hlast, hkept, -⟩ := hunks_append_ends hread (by decide +kernel) hends
  obtain rfl : last = ⟨["b"], ["c"], some 2, none⟩ := by
    simpa using (congrArg List.getLast? hlast).symm
  exact hkept (.inl rfl)

/-- A diff that inserts one line. -/
def oneInserted : String :=
  "@@ -3,0 +4,1 @@\n+inserted\n"

theorem not_hunks_append_ends :
    ¬∀ raw hs, hunks raw = .ok hs → (∀ line ∈ Text.lines raw, isFence line.toList = false) →
      raw.toList.getLast? = some '\n' →
      ∀ k, hunks (raw ++ String.ofList (List.replicate k '\n')) = .ok hs := by
  intro hclaim
  have hread : hunks oneInserted = .ok [⟨[], ["inserted"], some 2, some 3⟩] := by decide +kernel
  have hsame := hclaim oneInserted _ hread (by decide +kernel) (by decide +kernel) 1
  revert hsame
  decide +kernel

end Diff

end TextRepair
