import TextRepair.Proofs.Document.Reading
import TextRepair.Proofs.Text.Blank
import TextRepair.Text.Lines

/-!
# Lines of joined texts

The lines of two joined texts are those of the one and those of the other, if the first text ends with a
line feed (`lines_append`). So the lines of a document whose lines end with a line feed, a carriage return
before it or not, are the texts of its lines, up to a carriage return at their end (`lines_toText`). A text
in which no carriage return ends a line by itself has the same lines as the document read from it, whether or
not its last line is terminated (`lines_eq_texts`).
-/

namespace TextRepair.Text

@[simp] theorem splitFeeds_feed (current cs : List Char) :
    splitFeeds current ('\n' :: cs)
      = (current.reverse :: (splitFeeds [] cs).1, (splitFeeds [] cs).2) := rfl

theorem splitFeeds_cons {c : Char} (hc : c ≠ '\n') (current cs : List Char) :
    splitFeeds current (c :: cs) = splitFeeds (c :: current) cs := by
  rw [splitFeeds, if_neg hc]

theorem splitFeeds_append {text : List Char} (hfeed : '\n' ∉ text) (current cs : List Char) :
    splitFeeds current (text ++ cs) = splitFeeds (text.reverse ++ current) cs := by
  induction text generalizing current with
  | nil => rfl
  | cons c text ih =>
    rw [List.mem_cons, not_or] at hfeed
    rw [List.cons_append, splitFeeds_cons (Ne.symm hfeed.1), ih hfeed.2]
    simp

theorem splitFeeds_append_of_getLast? {a : List Char} (ha : a.getLast? = some '\n')
    (current b : List Char) :
    (splitFeeds current a).2 = [] ∧
      splitFeeds current (a ++ b)
        = ((splitFeeds current a).1 ++ (splitFeeds [] b).1, (splitFeeds [] b).2) := by
  induction a generalizing current with
  | nil => cases ha
  | cons c a ih =>
    rcases eq_or_ne a [] with rfl | hne
    · obtain rfl : c = '\n' := by simpa using ha
      exact ⟨rfl, rfl⟩
    · have ha' : a.getLast? = some '\n' := by
        rwa [List.getLast?_cons_of_ne_nil hne] at ha
      rcases eq_or_ne c '\n' with rfl | hc
      · obtain ⟨hrest, happend⟩ := ih ha' []
        simp [hrest, happend]
      · rw [List.cons_append, splitFeeds_cons hc, splitFeeds_cons hc]
        exact ih ha' (c :: current)

theorem lines_append {a : String} (ha : a.toList.getLast? = some '\n') (b : String) :
    lines (a ++ b) = lines a ++ lines b := by
  obtain ⟨hrest, happend⟩ := splitFeeds_append_of_getLast? ha [] b.toList
  simp [lines, happend, hrest]

theorem dropReturn_append_return (cs : List Char) : dropReturn (cs ++ ['\r']) = cs := by
  simp [dropReturn]

theorem dropReturn_of_getLast? {cs : List Char} (hcs : cs.getLast? ≠ some '\r') :
    dropReturn cs = cs := by
  unfold dropReturn
  split
  · exact absurd ‹_› hcs
  · rfl

theorem exists_dropReturn_append {start : List Char} (hstart : start.getLast? ≠ some '\r')
    (cs : List Char) : ∃ rest, dropReturn (start ++ cs) = start ++ rest := by
  rcases cs.eq_nil_or_concat' with rfl | ⟨front, c, rfl⟩
  · exact ⟨[], by rw [List.append_nil, dropReturn_of_getLast? hstart]⟩
  · rcases eq_or_ne c '\r' with rfl | hc
    · exact ⟨front, by rw [← List.append_assoc, dropReturn_append_return]⟩
    · exact ⟨front ++ [c], dropReturn_of_getLast? (by simpa using hc)⟩

/-! ### Lines and documents -/

/-- The lines of a text and of its document are the same unless a carriage return ends one by itself. -/
theorem lines_eq_texts {s : String} (hending : ∀ line ∈ (Document.parse s).lines, line.ending ≠ .cr) :
    lines s = (Document.parse s).texts := by
  suffices h : ∀ current cs : List Char, '\r' ∉ current →
      (∀ line ∈ Document.linesFrom current cs, line.ending ≠ .cr) →
      (splitFeeds current cs).1.map (fun piece => String.ofList (dropReturn piece)) ++
          (if (splitFeeds current cs).2.isEmpty then [] else [String.ofList (splitFeeds current cs).2])
        = (Document.linesFrom current cs).map Line.text from
    h [] s.toList List.not_mem_nil hending
  intro current cs hreturn hending
  have hkept {current : List Char} (hreturn : '\r' ∉ current) :
      dropReturn current.reverse = current.reverse :=
    dropReturn_of_getLast? fun hlast => hreturn (List.mem_reverse.mp (List.mem_of_getLast? hlast))
  fun_induction Document.linesFrom current cs with
  | case1 current hempty => simp [splitFeeds, hempty]
  | case2 current hvisible => simpa [splitFeeds] using hvisible
  | case3 current cs ih =>
    rw [List.forall_mem_cons] at hending
    simp [hkept hreturn, ← ih List.not_mem_nil hending.2]
  | case4 current cs ih =>
    -- the carriage return is passed over and taken off the piece again
    rw [List.forall_mem_cons] at hending
    rw [splitFeeds_cons (by decide), splitFeeds_feed, List.reverse_cons]
    simp [dropReturn_append_return, ← ih List.not_mem_nil hending.2]
  | case5 current cs hnext ih =>
    rw [List.forall_mem_cons] at hending
    exact absurd rfl hending.1
  | case6 current c cs hfeed hpair hreturn' ih =>
    rw [splitFeeds_cons (fun h => hfeed h)]
    exact ih (by simp [hreturn, Ne.symm hreturn']) hending

/-! ### Outer blank lines -/

theorem dropOuterBlank_infix (ls : List String) : dropOuterBlank ls <:+: ls :=
  (List.rdropWhile_prefix isBlankText _).isInfix.trans (List.dropWhile_suffix isBlankText).isInfix

theorem filter_dropOuterBlank (ls : List String) :
    (dropOuterBlank ls).filter (!isBlankText ·) = ls.filter (!isBlankText ·) := by
  have hdropped (ls : List String) :
      (ls.dropWhile isBlankText).filter (!isBlankText ·) = ls.filter (!isBlankText ·) := by
    induction ls with
    | nil => rfl
    | cons line ls ih =>
      by_cases hblank : isBlankText line = true
      · rw [List.dropWhile_cons_of_pos hblank, ih, List.filter_cons_of_neg (by simp [hblank])]
      · rw [List.dropWhile_cons_of_neg hblank]
  rw [dropOuterBlank, List.filter_reverse, hdropped, ← List.filter_reverse, List.reverse_reverse, hdropped]

theorem dropOuterBlank_eq_nil {ls : List String} (hblank : ∀ line ∈ ls, isBlankText line = true) :
    dropOuterBlank ls = [] := by
  rw [dropOuterBlank, List.dropWhile_eq_nil_iff.mpr hblank]
  rfl

theorem dropOuterBlank_ends (ls : List String) :
    (∀ line ∈ (dropOuterBlank ls).head?, isBlankText line = false) ∧
      ∀ line ∈ (dropOuterBlank ls).getLast?, isBlankText line = false := by
  change (∀ line ∈ ((ls.dropWhile isBlankText).rdropWhile isBlankText).head?, _) ∧
    ∀ line ∈ ((ls.dropWhile isBlankText).rdropWhile isBlankText).getLast?, _
  constructor
  · intro line hline
    obtain ⟨rest, hrest⟩ := List.head?_eq_some_iff.mp hline
    obtain ⟨behind, hbehind⟩ := List.rdropWhile_prefix isBlankText (ls.dropWhile isBlankText)
    rw [hrest] at hbehind
    have hhead := List.head?_dropWhile_not isBlankText ls
    rw [← hbehind] at hhead
    simpa using hhead
  · intro line hline
    have hne : (ls.dropWhile isBlankText).rdropWhile isBlankText ≠ [] := by
      rintro hnil
      rw [hnil] at hline
      cases hline
    have hlast := List.rdropWhile_last_not isBlankText _ hne
    rw [List.getLast?_eq_some_getLast hne] at hline
    rw [← Option.some.inj hline]
    simpa using hlast

theorem mem_dropOuterBlank {line : String} (hline : isBlankText line = false) {ls : List String} :
    line ∈ dropOuterBlank ls ↔ line ∈ ls := by
  have hmem := congrArg (line ∈ ·) (filter_dropOuterBlank ls)
  simpa [hline] using hmem

end TextRepair.Text

namespace TextRepair

/-- The characters read of a line that ends with a line feed. -/
def Line.shown (line : Line) : List Char :=
  Text.dropReturn (line.text.toList ++ line.ending.terminator.dropLast)

namespace Line

variable {line : Line}

theorem shown_eq (hending : line.ending = .lf ∨ line.ending = .crlf)
    (hreturn : line.text.toList.getLast? ≠ some '\r') : line.shown = line.text.toList := by
  rcases hending with hending | hending
  · simp [shown, hending, Ending.terminator, Text.dropReturn_of_getLast? hreturn]
  · simp [shown, hending, Ending.terminator, Text.dropReturn_append_return]

theorem exists_shown_eq {start rest : List Char} (hstart : start.getLast? ≠ some '\r')
    (htext : line.text.toList = start ++ rest) : ∃ rest', line.shown = start ++ rest' := by
  rw [shown, htext, List.append_assoc]
  exact Text.exists_dropReturn_append hstart _

end Line

namespace Document

theorem lines_toText (d : Document) (hfeed : ∀ line ∈ d.lines, '\n' ∉ line.text.toList)
    (hending : ∀ line ∈ d.lines, line.ending = .lf ∨ line.ending = .crlf) :
    Text.lines d.toText = d.lines.map fun line => String.ofList line.shown := by
  obtain ⟨lines⟩ := d
  induction lines with
  | nil => rfl
  | cons line rest ih =>
    rw [List.forall_mem_cons] at hfeed hending
    have hterminator : line.ending.terminator = line.ending.terminator.dropLast ++ ['\n'] := by
      rcases hending.1 with h | h <;> rw [h] <;> rfl
    have hpiece : '\n' ∉ line.text.toList ++ line.ending.terminator.dropLast := by
      rcases hending.1 with h | h <;> simp [h, Ending.terminator, hfeed.1]
    have hline : Text.lines (String.ofList (line.text.toList ++ line.ending.terminator))
        = [String.ofList line.shown] := by
      rw [hterminator, ← List.append_assoc, Text.lines, String.toList_ofList,
        Text.splitFeeds_append hpiece]
      simp [Text.splitFeeds, Line.shown]
    have htext : toText ⟨line :: rest⟩
        = String.ofList (line.text.toList ++ line.ending.terminator) ++ toText ⟨rest⟩ := by
      simp [toText, String.append_assoc]
    rw [htext, Text.lines_append (by rw [hterminator]; simp), hline, ih hfeed.2 hending.2]
    rfl

end Document

end TextRepair
