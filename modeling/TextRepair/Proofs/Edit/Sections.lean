import TextRepair.Proofs.Edit.Scripts

/-!
# One hunk for each header

A section is a header with the lines behind it up to the next header, of a hunk or of a file. If no line of
a text is a fence, the hunks read of it are those of its sections, so each line that starts like a hunk header
opens one (`hunks_of_bare`): the two lines that name a file are no such lines, so none is lost with them.

A fence takes lines away before anything else is looked at, whether it was meant as a fence or is the context
line of a hunk. Where the text starts with a header, at least that one is outside of all fences
(`countP_isHeader_unfenced_lt`).
-/

namespace TextRepair.Diff

/-! ### Sections -/

/-- A hunk as a text shows it: its header and the lines that belong to it. -/
structure Section where
  header : List Char
  body : List (List Char)

namespace Section

def changes (s : Section) : List Change :=
  s.body.filterMap Change.ofLine?

def old (s : Section) : List String :=
  (s.changes.filterMap Change.old?).map String.ofList

def new (s : Section) : List String :=
  (s.changes.filterMap Change.new?).map String.ofList

/-- The line number that the header names, if it names both ranges. -/
def start? (s : Section) : Option Nat :=
  (oldStart? s.header).bind (Text.natBelow? UInt64.size)

/-- How many empty lines both versions end with. -/
def commonBlankEnd (s : Section) : Nat :=
  min (EditScript.blankEnd s.old) (EditScript.blankEnd s.new)

/-- The change that a section stands for with all its lines. -/
def whole (s : Section) : Hunk where
  anchor := s.old
  replacement := s.new
  hint := s.start?.map (· - 1)
  insertionPoint := if s.old = [] then s.start? else none

/-- The change that a section stands for, the empty lines aside that both versions end with. -/
def hunk (s : Section) : Hunk where
  anchor := s.old.take (s.old.length - s.commonBlankEnd)
  replacement := s.new.take (s.new.length - s.commonBlankEnd)
  hint := s.start?.map (· - 1)
  insertionPoint := if s.old = [] then s.start? else none

end Section

/-- The lines up to the next header, of a hunk or of a file. -/
def bodyLines : List (List Char) → List (List Char)
  | [] => []
  | line :: rest =>
    if isFileHeader (stripReturns line) (rest.headD []) || isHeader line then []
    else stripReturns line :: bodyLines rest

/-- The sections of a text, one for each line that starts like a header. -/
def sections : List (List Char) → List Section
  | [] => []
  | line :: rest =>
    if isHeader line then ⟨stripReturns line, bodyLines rest⟩ :: sections rest else sections rest

theorem bodyLines_cons_of_ends {line : List Char} {rest : List (List Char)}
    (hends : (isFileHeader (stripReturns line) (rest.headD []) || isHeader line) = true) :
    bodyLines (line :: rest) = [] :=
  if_pos hends

theorem bodyLines_cons {line : List Char} {rest : List (List Char)}
    (hnames : ¬isFileHeader (stripReturns line) (rest.headD []) = true) (hheader : ¬isHeader line = true) :
    bodyLines (line :: rest) = stripReturns line :: bodyLines rest :=
  if_neg (by simp only [Bool.or_eq_true, not_or]; exact ⟨hnames, hheader⟩)

theorem map_header_sections (lines : List (List Char)) :
    (sections lines).map Section.header = (lines.filter isHeader).map stripReturns := by
  induction lines with
  | nil => rfl
  | cons line rest ih =>
    rw [sections, List.filter_cons]
    split_ifs
    · rw [List.map_cons, List.map_cons, ih]
    · exact ih

theorem length_sections (lines : List (List Char)) : (sections lines).length = lines.countP isHeader := by
  have hlength := congrArg List.length (map_header_sections lines)
  rwa [List.length_map, List.length_map, ← List.countP_eq_length_filter] at hlength

/-! ### Headers and names of files -/

theorem isHeader_iff {line : List Char} : isHeader line = true ↔ ∃ rest, line = ['@', '@'] ++ rest := by
  rw [isHeader, List.isPrefixOf_iff_prefix]
  exact ⟨fun ⟨rest, hrest⟩ => ⟨rest, hrest.symm⟩, fun ⟨rest, hrest⟩ => ⟨rest, hrest.symm⟩⟩

theorem stripReturns_prefix_self (line : List Char) : stripReturns line <+: line := by
  rw [stripReturns, Text.dropEndWhile, ← List.reverse_suffix, List.reverse_reverse]
  exact List.dropWhile_suffix _

theorem isPrefixOf_stripReturns {start : List Char} (hstart : start.getLast? ≠ some '\r')
    (line : List Char) : start.isPrefixOf (stripReturns line) = start.isPrefixOf line := by
  rw [Bool.eq_iff_iff, List.isPrefixOf_iff_prefix, List.isPrefixOf_iff_prefix]
  constructor
  · exact fun hprefix => hprefix.trans (stripReturns_prefix_self line)
  · rintro ⟨rest, rfl⟩
    obtain ⟨rest', hrest'⟩ := exists_stripReturns_append hstart rest
    exact ⟨rest', hrest'.symm⟩

theorem isHeader_stripReturns (line : List Char) : isHeader (stripReturns line) = isHeader line :=
  isPrefixOf_stripReturns (by decide) line

theorem isHeader_of_isFileHeader {line next : List Char}
    (hnames : isFileHeader (stripReturns line) next = true) :
    isHeader line = false ∧ isHeader next = false := by
  rw [isFileHeader, Bool.and_eq_true, List.isPrefixOf_iff_prefix, List.isPrefixOf_iff_prefix] at hnames
  obtain ⟨⟨old, hold⟩, new, hnew⟩ := hnames
  rw [← isHeader_stripReturns, ← hold, ← hnew]
  exact ⟨rfl, rfl⟩

/-! ### Reading sections -/

theorem foldl_push (body : List (List Char)) (d : Draft) :
    body.foldl Draft.push d = { d with body := (body.filterMap Change.ofLine?).reverse ++ d.body } := by
  induction body generalizing d with
  | nil => rfl
  | cons line body ih =>
    rw [List.foldl_cons, ih, List.filterMap_cons, Draft.push]
    cases Change.ofLine? line with
    | none => rfl
    | some change => simp

theorem ofHeader_eq_ok {number : Nat} {header : List Char} {d : Draft}
    (hdraft : Draft.ofHeader number header = .ok d) :
    d = ⟨number, (oldStart? header).bind (Text.natBelow? UInt64.size), []⟩ := by
  unfold Draft.ofHeader at hdraft
  split at hdraft
  · rename_i hstart
    rw [hstart]
    exact (Except.ok.inj hdraft).symm
  · rename_i digits hstart
    rw [hstart, Option.bind_some]
    split at hdraft
    · rename_i start hnumber
      rw [hnumber]
      exact (Except.ok.inj hdraft).symm
    · cases hdraft

theorem finish_section {number : Nat} {s : Section} {d : Draft} {h : Hunk}
    (hdraft : Draft.ofHeader number s.header = .ok d)
    (hfinish : (s.body.foldl Draft.push d).finish = .ok h) : h = s.whole := by
  obtain rfl := ofHeader_eq_ok hdraft
  rw [foldl_push, Draft.finish] at hfinish
  simp only [List.append_nil, List.reverse_reverse] at hfinish
  change (if s.old.isEmpty then _ else .ok ⟨s.old, s.new, s.start?.map (· - 1), none⟩)
    = Except.ok h at hfinish
  unfold Section.whole
  split_ifs at hfinish with hold
  · rw [if_pos (List.isEmpty_iff.mp hold)]
    cases hstart : s.start? with
    | none =>
      rw [Section.start?] at hstart
      rw [hstart] at hfinish
      cases hfinish
    | some start =>
      rw [Section.start?] at hstart
      rw [hstart] at hfinish
      exact (Except.ok.inj hfinish).symm
  · rw [if_neg fun h => hold (List.isEmpty_iff.mpr h)]
    exact (Except.ok.inj hfinish).symm

theorem bind_eq_ok {α β ε : Type} {x : Except ε α} {f : α → Except ε β} {b : β}
    (h : x >>= f = .ok b) : ∃ a, x = .ok a ∧ f a = .ok b := by
  cases x with
  | error e => cases h
  | ok a => exact ⟨a, rfl, h⟩

theorem map_eq_ok {α β ε : Type} {x : Except ε α} {f : α → β} {b : β}
    (h : x.map f = .ok b) : ∃ a, x = .ok a ∧ f a = b := by
  cases x with
  | error e => cases h
  | ok a => exact ⟨a, rfl, Except.ok.inj h⟩

/-- What is read of lines: the draft at hand with the lines that belong to it, and one change for each
section of the lines. -/
theorem of_read {number : Nat} {current : Option Draft} {lines : List (List Char)} {found : List Hunk}
    (hread : read number current lines = .ok found) :
    ∃ done, close (current.map ((bodyLines lines).foldl Draft.push)) = .ok done ∧
      found = done ++ (sections lines).map Section.whole := by
  fun_induction read number current lines generalizing found
  case case1 number current =>
    refine ⟨found, ?_, by simp [sections]⟩
    cases current <;> exact hread
  case case2 hnames =>
    simp [isFileHeader] at hnames
  case case3 current line stripped next rest hnames ih =>
    obtain ⟨hline, (hnext : isHeader next = false)⟩ := isHeader_of_isFileHeader hnames
    obtain ⟨done, hdone, hread⟩ := bind_eq_ok hread
    obtain ⟨more, hmore, hread⟩ := bind_eq_ok hread
    -- Names of files close the draft at hand and open none, so nothing belongs to the lines up to the next
    -- header.
    obtain ⟨behind, hbehind, rfl⟩ := ih hmore
    obtain rfl : behind = [] := (Except.ok.inj hbehind).symm
    refine ⟨done, ?_, ?_⟩
    · rw [bodyLines_cons_of_ends (Bool.or_eq_true_iff.mpr (.inl hnames))]
      simpa using hdone
    · simpa [sections, hline, hnext] using (Except.ok.inj hread).symm
  case case4 current line rest stripped hnames hheader ih =>
    have hline : isHeader line = true := by rwa [← isHeader_stripReturns]
    obtain ⟨done, hdone, hread⟩ := bind_eq_ok hread
    obtain ⟨draft, hdraft, hread⟩ := bind_eq_ok hread
    obtain ⟨more, hmore, hread⟩ := bind_eq_ok hread
    -- The draft that this header opens is closed in what is read of the rest.
    obtain ⟨opened, hopened, rfl⟩ := ih draft hmore
    obtain ⟨h, hfinish, rfl⟩ := map_eq_ok hopened
    refine ⟨done, ?_, ?_⟩
    · rw [bodyLines_cons_of_ends (Bool.or_eq_true_iff.mpr (.inr hline))]
      simpa using hdone
    · rw [← Except.ok.inj hread, sections, if_pos hline, List.map_cons,
        ← finish_section (s := ⟨stripReturns line, bodyLines rest⟩) hdraft hfinish]
      rfl
  case case5 current line rest stripped hnames hheader ih =>
    have hline : ¬isHeader line = true := by rwa [← isHeader_stripReturns]
    obtain ⟨done, hdone, rfl⟩ := ih hread
    refine ⟨done, ?_, ?_⟩
    · rw [← hdone, bodyLines_cons hnames hline, Option.map_map]
      rfl
    · rw [sections, if_neg hline]

/-! ### The whole text -/

theorem of_hunks {raw : String} {hs : List Hunk} (hread : hunks raw = .ok hs) :
    hs = (sections (unfenced ((Text.lines raw).map String.toList))).map Section.hunk := by
  obtain ⟨found, hfound, hread⟩ := bind_eq_ok hread
  obtain ⟨none, hnone, rfl⟩ := of_read hfound
  obtain rfl : none = [] := (Except.ok.inj hnone).symm
  split_ifs at hread
  rw [← Except.ok.inj hread, List.nil_append, List.map_map]
  exact List.map_congr_left fun s _ => trimEnd_eq s.whole

theorem insideFences_sublist (inside : Bool) (lines : List (List Char)) :
    (insideFences inside lines).Sublist lines := by
  fun_induction insideFences inside lines with
  | case1 => exact .refl _
  | case2 inside line rest hfence ih => exact ih.cons line
  | case3 line rest hfence ih => exact ih.cons_cons line
  | case4 inside line rest hfence hinside ih => exact ih.cons line

theorem isFence_of_isHeader {line : List Char} (hheader : isHeader line = true) : isFence line = false := by
  obtain ⟨rest, rfl⟩ := isHeader_iff.mp hheader
  exact isFence_cons_of_not_isBlank (by decide) (by decide) _

theorem countP_isHeader_unfenced_lt {first : List Char} {rest : List (List Char)}
    (hfirst : isHeader first = true) (hfence : ∃ line ∈ first :: rest, isFence line = true) :
    (unfenced (first :: rest)).countP isHeader < (first :: rest).countP isHeader := by
  have hany : (first :: rest).any isFence = true := List.any_eq_true.mpr hfence
  have hread : unfenced (first :: rest) = insideFences false rest := by
    rw [unfenced, if_pos hany, insideFences, isFence_of_isHeader hfirst]
    rfl
  have hle : (insideFences false rest).countP isHeader ≤ rest.countP isHeader :=
    (insideFences_sublist false rest).countP_le
  rw [hread, List.countP_cons_of_pos hfirst]
  omega

/-- If no line is a fence, the changes read are those of the sections of the text, one for each line that
starts like a header and in their order. If there is a fence in a text that starts with a header, there are
fewer changes than such lines. -/
theorem hunks_of_bare {raw : String} {hs : List Hunk} (hread : hunks raw = .ok hs)
    (hbare : ∀ line ∈ (Text.lines raw).head?, isHeader line.toList = true) :
    let lines := (Text.lines raw).map String.toList
    ((∀ line ∈ lines, isFence line = false) →
      (sections lines).map Section.header = (lines.filter isHeader).map stripReturns ∧
      hs = (sections lines).map Section.hunk) ∧
    ((∃ line ∈ lines, isFence line = true) → hs.length < lines.countP isHeader) := by
  intro lines
  have hs_eq := of_hunks hread
  refine ⟨fun hplain => ⟨map_header_sections lines, ?_⟩, fun hfence => ?_⟩
  · have hnone : lines.any isFence = false := List.any_eq_false.mpr fun line hline => by simp [hplain line hline]
    rwa [unfenced, if_neg (by rw [hnone]; exact Bool.false_ne_true)] at hs_eq
  · rw [hs_eq, List.length_map, length_sections]
    obtain ⟨line, rest, hlines⟩ := List.exists_cons_of_ne_nil (l := Text.lines raw) (by
      rintro hnil
      obtain ⟨line, hline, -⟩ := hfence
      simp [lines, hnil] at hline)
    have hfirst : isHeader line.toList = true := hbare line (by simp [hlines])
    simp only [lines, hlines, List.map_cons] at hfence ⊢
    exact countP_isHeader_unfenced_lt hfirst hfence

/-- A hunk that is cut off by what looks like the names of files, and an insertion. -/
def twoSections : String :=
  "@@ -1 +1,2 @@\r\n-a\r\n+b\n\n--- c\n+++ d\n@@ -4,0 +6 @@\n+@@\n"

theorem hunks_twoSections :
    let lines := (Text.lines twoSections).map String.toList
    (sections lines).map Section.header = (lines.filter isHeader).map stripReturns ∧
      [⟨["a"], ["b"], some 0, none⟩, ⟨[], ["@@"], some 3, some 4⟩] =
        (sections lines).map Section.hunk := by
  have hread : hunks twoSections =
      .ok [⟨["a"], ["b"], some 0, none⟩, ⟨[], ["@@"], some 3, some 4⟩] := by
    decide +kernel
  exact (hunks_of_bare hread (by decide +kernel)).1 (by decide +kernel)

/-- A diff of a Markdown file: the context line behind the first change is the end of a code block. -/
def blockEnd : String :=
  "@@ -1 +1 @@\n-a\n+b\n " ++ String.ofList fence ++ "\n@@ -5 +5 @@\n-c\n+d\n"

theorem not_length_hunks_blockEnd :
    ¬∀ raw hs, hunks raw = .ok hs →
      (∀ line ∈ (Text.lines raw).head?, isHeader line.toList = true) →
      hs.length = (Text.lines raw).countP fun line => isHeader line.toList := by
  intro hclaim
  have hread : hunks blockEnd = .ok [⟨["c"], ["d"], some 4, none⟩] := by decide +kernel
  have hlength := hclaim blockEnd _ hread (by decide +kernel)
  revert hlength
  decide +kernel

end TextRepair.Diff
