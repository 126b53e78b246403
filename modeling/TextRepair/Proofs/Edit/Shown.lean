import TextRepair.Proofs.Edit.Sections
import TextRepair.Proofs.Text.Blank

/-!
# The shown lines of a text

Carriage returns at the ends of lines do not count when a diff is read, so what is said of a text can be said
of its lines without them, its shown lines (`shownLines`). Line ends behind a text put empty lines behind
these, and change nothing else (`exists_shownLines_append`).

Main statement, `hunks_eq_ok_iff`: if no line of a text is a fence, what is read of it is the changes of the
sections of its shown lines. There must be a section, and each line must be readable where it stands.
-/

namespace TextRepair.Diff

/-! ### The shown lines of a text -/

theorem stripReturns_stripReturns (line : List Char) :
    stripReturns (stripReturns line) = stripReturns line :=
  List.rdropWhile_idempotent _ _

theorem stripReturns_append_return (cs : List Char) : stripReturns (cs ++ ['\r']) = stripReturns cs := by
  simp [stripReturns, Text.dropEndWhile]

theorem stripReturns_dropReturn (cs : List Char) : stripReturns (Text.dropReturn cs) = stripReturns cs := by
  rcases cs.eq_nil_or_concat' with rfl | ⟨front, c, rfl⟩
  · rfl
  · rcases eq_or_ne c '\r' with rfl | hc
    · rw [Text.dropReturn_append_return, stripReturns_append_return]
    · rw [Text.dropReturn_of_getLast? (by simpa using hc)]

/-- The lines of a text as they are read, without the carriage returns at their ends. -/
def shownLines (raw : String) : List (List Char) :=
  (Text.lines raw).map fun line => stripReturns line.toList

/-- The shown lines of what follows the characters of `current`, given in reverse. -/
def shownFrom (current cs : List Char) : List (List Char) :=
  let (pieces, rest) := Text.splitFeeds current cs
  pieces.map stripReturns ++ if rest.isEmpty then [] else [stripReturns rest]

theorem shownLines_eq (raw : String) : shownLines raw = shownFrom [] raw.toList := by
  simp only [shownLines, Text.lines, shownFrom]
  split_ifs <;> simp [Function.comp_def, stripReturns_dropReturn]

theorem shownFrom_nil (current : List Char) :
    shownFrom current [] = if current.isEmpty then [] else [stripReturns current.reverse] := by
  simp [shownFrom, Text.splitFeeds]

theorem shownFrom_feed (current cs : List Char) :
    shownFrom current ('\n' :: cs) = stripReturns current.reverse :: shownFrom [] cs := rfl

theorem shownFrom_cons {c : Char} (hc : c ≠ '\n') (current cs : List Char) :
    shownFrom current (c :: cs) = shownFrom (c :: current) cs := by
  rw [shownFrom, Text.splitFeeds_cons hc]
  rfl

theorem exists_shownFrom_ends {ends : List Char} (hends : ∀ c ∈ ends, c = '\n' ∨ c = '\r')
    (current : List Char) :
    ∃ k, shownFrom current ends = shownFrom current [] ++ List.replicate k [] := by
  induction ends generalizing current with
  | nil => exact ⟨0, (List.append_nil _).symm⟩
  | cons c ends ih =>
    rw [List.forall_mem_cons] at hends
    rcases hends.1 with rfl | rfl
    · obtain ⟨k, hk⟩ := ih hends.2 []
      rw [shownFrom_feed, hk, shownFrom_nil, shownFrom_nil]
      cases current with
      | nil => exact ⟨k + 1, rfl⟩
      | cons d current => exact ⟨k, rfl⟩
    · obtain ⟨k, hk⟩ := ih hends.2 ('\r' :: current)
      rw [shownFrom_cons (by decide), hk, shownFrom_nil, shownFrom_nil, List.reverse_cons,
        stripReturns_append_return]
      cases current with
      | nil => exact ⟨k + 1, rfl⟩
      | cons d current => exact ⟨k, rfl⟩

theorem exists_shownFrom_append {ends : List Char} (hends : ∀ c ∈ ends, c = '\n' ∨ c = '\r')
    (cs current : List Char) :
    ∃ k, shownFrom current (cs ++ ends) = shownFrom current cs ++ List.replicate k [] := by
  induction cs generalizing current with
  | nil => exact exists_shownFrom_ends hends current
  | cons c cs ih =>
    rcases eq_or_ne c '\n' with rfl | hc
    · obtain ⟨k, hk⟩ := ih []
      exact ⟨k, by rw [List.cons_append, shownFrom_feed, shownFrom_feed, hk, List.cons_append]⟩
    · obtain ⟨k, hk⟩ := ih (c :: current)
      exact ⟨k, by rw [List.cons_append, shownFrom_cons hc, shownFrom_cons hc, hk]⟩

theorem exists_shownLines_append (raw : String) {ends : String}
    (hends : ∀ c ∈ ends.toList, c = '\n' ∨ c = '\r') :
    ∃ k, shownLines (raw ++ ends) = shownLines raw ++ List.replicate k [] := by
  obtain ⟨k, hk⟩ := exists_shownFrom_append hends raw.toList []
  exact ⟨k, by rw [shownLines_eq, shownLines_eq, String.toList_append, hk]⟩

theorem length_shownLines (raw : String) : (shownLines raw).length = (Text.lines raw).length :=
  List.length_map _

theorem shownLines_stripped (raw : String) : ∀ line ∈ shownLines raw, stripReturns line = line :=
  List.forall_mem_map.mpr fun _ _ => stripReturns_stripReturns _

/-! ### Reading shown lines -/

theorem isFileHeader_stripReturns (line next : List Char) :
    isFileHeader line (stripReturns next) = isFileHeader line next := by
  rw [isFileHeader, isFileHeader, isPrefixOf_stripReturns (by decide)]

theorem headD_map_stripReturns (lines : List (List Char)) :
    (lines.map stripReturns).headD [] = stripReturns (lines.headD []) := by
  cases lines <;> rfl

theorem read_map_stripReturns (number : Nat) (current : Option Draft) (lines : List (List Char)) :
    read number current (lines.map stripReturns) = read number current lines := by
  fun_induction read number current lines with
  | case1 number current => rfl
  | case2 number current line stripped hnames => simp [isFileHeader] at hnames
  | case3 number current line stripped next rest hnames ih =>
    rw [List.map_cons, List.map_cons, read_cons_names, ih]
    rw [stripReturns_stripReturns, isFileHeader_stripReturns]
    exact hnames
  | case4 number current line rest stripped hnames hheader ih =>
    rw [List.map_cons, read_cons_header (stripReturns_stripReturns line) _ hheader]
    · simp only [ih]
      rfl
    · rw [headD_map_stripReturns, isFileHeader_stripReturns]
      exact eq_false_of_ne_true hnames
  | case5 number current line rest stripped hnames hheader ih =>
    rw [List.map_cons, read_cons_body (stripReturns_stripReturns line) _ (eq_false_of_ne_true hheader)]
    · exact ih
    · rw [headD_map_stripReturns, isFileHeader_stripReturns]
      exact eq_false_of_ne_true hnames

theorem isFence_append_return (line : List Char) : isFence (line ++ ['\r']) = isFence line := by
  have hstart : fence.getLast? ≠ some '\r' := by decide
  rw [isFence, isFence, List.dropWhile_append]
  split_ifs with hblank
  · rw [List.isEmpty_iff.mp hblank]
    rfl
  · rw [← isPrefixOf_stripReturns hstart, stripReturns_append_return, isPrefixOf_stripReturns hstart]

theorem isFence_stripReturns (line : List Char) : isFence (stripReturns line) = isFence line := by
  induction line using List.reverseRecOn with
  | nil => rfl
  | append_singleton line c ih =>
    rcases eq_or_ne c '\r' with rfl | hc
    · rw [stripReturns_append_return, isFence_append_return, ih]
    · rw [stripReturns_of_getLast? (by simpa using hc)]

theorem isFence_of_mem_shownLines {raw : String}
    (hplain : ∀ line ∈ Text.lines raw, isFence line.toList = false) :
    ∀ line ∈ shownLines raw, isFence line = false := by
  refine List.forall_mem_map.mpr fun line hline => ?_
  rw [isFence_stripReturns, hplain line hline]

/-- Of a text without fences the changes of its sections are read, if its lines can be read at all. -/
theorem hunks_eq_ok_iff {raw : String} (hplain : ∀ line ∈ shownLines raw, isFence line = false)
    {hs : List Hunk} :
    hunks raw = .ok hs ↔
      (∃ found, read 1 none (shownLines raw) = .ok found) ∧ sections (shownLines raw) ≠ [] ∧
        hs = (sections (shownLines raw)).map Section.hunk := by
  have hshown : shownLines raw = ((Text.lines raw).map String.toList).map stripReturns := by
    rw [List.map_map]
    rfl
  have hnone : ((Text.lines raw).map String.toList).any isFence = false := by
    rw [List.any_eq_false]
    intro line hline
    rw [← isFence_stripReturns, hplain _ (hshown ▸ List.mem_map_of_mem hline)]
    exact Bool.false_ne_true
  have hunfenced : unfenced ((Text.lines raw).map String.toList) = (Text.lines raw).map String.toList := by
    rw [unfenced, hnone, if_neg Bool.false_ne_true]
  rw [hunks, hunfenced, ← read_map_stripReturns, ← hshown]
  cases hfound : read 1 none (shownLines raw) with
  | error e =>
    refine iff_of_false (fun h => ?_) fun h => ?_
    · cases h
    · obtain ⟨⟨found, hfound⟩, -⟩ := h
      cases hfound
  | ok found =>
    obtain ⟨done, hdone, rfl⟩ := of_read hfound
    obtain rfl : done = [] := (Except.ok.inj hdone).symm
    have htrim : ([] ++ (sections (shownLines raw)).map Section.whole).map trimEnd
        = (sections (shownLines raw)).map Section.hunk := by
      rw [List.nil_append, List.map_map]
      exact List.map_congr_left fun s _ => trimEnd_eq s.whole
    change (if _ then _ else Except.ok (_ : List Hunk)) = _ ↔ _
    rw [htrim]
    split_ifs with hempty
    · refine iff_of_false (fun h => ?_) fun h => h.2.1 ?_
      · cases h
      · simpa using hempty
    · refine ⟨fun h => ⟨⟨_, rfl⟩, ?_, (Except.ok.inj h).symm⟩, fun h => by rw [h.2.2]⟩
      simpa using hempty

end TextRepair.Diff
