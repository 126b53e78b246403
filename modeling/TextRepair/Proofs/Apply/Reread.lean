import TextRepair.Proofs.Apply.Atomic
import TextRepair.Proofs.Splice.Lines

/-!
# Reading an applied edit back

An edit is checked for line feeds, and a splice terminates what it puts before other lines, so the
document that an edit makes of a text always has some of what makes a document readable: no line feed in
a line, and nothing unterminated but the last line. Three things are not looked after, and the document
comes back from its own text just in case none of them has happened (`applyEdit_reread`):

* a carriage return in a replacement ends a line when the text is read;
* a line that ends with a carriage return may come to stand before an empty one that ends with a line
  feed, which makes one terminator of the two;
* an empty line may be put in the place of an unterminated last line, and is no line when the text is read.

None of them happens where the replacements have no carriage return and the lines of the text end
otherwise than with a carriage return, the last one included.
-/

namespace TextRepair

variable {S : Type}

/-- What every splice keeps, the outcome of an application has kept. -/
theorem Outcome.IsComplete.invariant {o : Options S} {d : Document} {hunks : List Hunk}
    {outcome : Outcome S} (hcomplete : outcome.IsComplete o d hunks) {P : Document → Prop} (hd : P d)
    (hsplice : ∀ h ∈ hunks, ∀ (d : Document) (start stop : Nat), P d →
      P (d.spliceHunk start stop h o.reindent)) : P outcome.document := by
  have hfold : ∀ reported : List (Hunk × HunkReport S), (∀ r ∈ reported, r.1 ∈ hunks) →
      ∀ d, P d → P (reported.foldl (Document.spliceReported o.reindent) d) := by
    intro reported
    induction reported with
    | nil => exact fun _ _ hd => hd
    | cons r rest ih =>
      intro hmem d hd
      refine ih (fun s hs => hmem s (List.mem_cons_of_mem _ hs)) _ ?_
      unfold Document.spliceReported
      split
      · exact hsplice r.1 (hmem r List.mem_cons_self) _ _ _ hd
      · exact hd
  cases hsuccess : outcome.success with
  | true =>
    rw [hcomplete.spliced hsuccess]
    exact hfold _ (fun r hr => (List.of_mem_zip hr).1) d hd
  | false => exact hcomplete.kept hsuccess ▸ hd

namespace Document

/-- No line text has a carriage return. -/
def HasNoReturn (d : Document) : Prop :=
  ∀ line ∈ d.lines, '\r' ∉ line.text.toList

/-- The last line is not empty if it is unterminated. -/
def EndsVisibly (d : Document) : Prop :=
  ∀ line ∈ d.lines.getLast?, line.ending = .none → line.text ≠ ""

/-- No carriage return at the end of a line runs into a line feed. -/
def KeepsApart (d : Document) : Prop :=
  d.lines.IsChain fun line next => ¬(line.ending = .cr ∧ next = ⟨"", .lf⟩)

end Document

/-! ### What an application keeps -/

section

variable {o : Options S} {text : String} {hunks : List Hunk} {outcome : Outcome S}

theorem Outcome.IsComplete.not_mem_text {c : Char}
    (hcomplete : outcome.IsComplete o (Document.parse text) hunks)
    (htext : ∀ line ∈ (Document.parse text).lines, c ∉ line.text.toList)
    (hhunks : ∀ h ∈ hunks, ∀ line ∈ h.replacement, c ∉ line.toList) :
    ∀ line ∈ outcome.document.lines, c ∉ line.text.toList :=
  hcomplete.invariant (P := fun d => ∀ line ∈ d.lines, c ∉ line.text.toList) htext
    fun h hh _ start stop hd => Document.not_mem_text_spliceHunk hd (hhunks h hh) start stop

theorem Outcome.IsComplete.ending_ne {e : Ending} (he : e ≠ .lf)
    (hcomplete : outcome.IsComplete o (Document.parse text) hunks)
    (htext : ∀ line ∈ (Document.parse text).lines, line.ending ≠ e) :
    ∀ line ∈ outcome.document.lines, line.ending ≠ e :=
  hcomplete.invariant (P := fun d => ∀ line ∈ d.lines, line.ending ≠ e) htext
    fun _ _ _ start stop hd => Document.ending_spliceHunk_ne he hd start stop

theorem Outcome.IsComplete.terminated (hcomplete : outcome.IsComplete o (Document.parse text) hunks) :
    ∀ line ∈ outcome.document.lines.dropLast, line.ending ≠ .none :=
  hcomplete.invariant (P := fun d => ∀ line ∈ d.lines.dropLast, line.ending ≠ .none)
    (Document.isReadable_parse text).terminated
    fun _ _ _ start stop hd => Document.terminated_spliceHunk hd start stop

end

variable [Score S]

/-- The document that an edit makes of a text comes back from its own text if and only if no line of it has
a carriage return, its last line is terminated or not empty, and no terminator runs into the next one.
The first holds if no replacement has a carriage return, the second if the last line of the text is
terminated, and the third if no line of the text ends with a carriage return. -/
theorem applyEdit_reread (o : Options S) (text : String) (e : Edit) (outcome : Outcome S)
    (happly : o.applyEdit (Document.parse text) e = .ok outcome) :
    (Document.parse outcome.document.toText = outcome.document ↔
      outcome.document.HasNoReturn ∧ outcome.document.EndsVisibly ∧ outcome.document.KeepsApart) ∧
    ((∀ h ∈ e.hunks, ∀ line ∈ h.replacement, '\r' ∉ line.toList) → outcome.document.HasNoReturn) ∧
    ((∀ line ∈ (Document.parse text).lines, line.ending ≠ .none) → outcome.document.EndsVisibly) ∧
    ((∀ line ∈ (Document.parse text).lines, line.ending ≠ .cr) → outcome.document.KeepsApart) := by
  rcases o.apply_cases (Document.parse text) e.hunks with
    ⟨e', hrefused, -⟩ | ⟨outcome', happly', -, hwell, hcomplete⟩
  · cases hrefused.symm.trans happly
  cases happly'.symm.trans happly
  have hread := Document.isReadable_parse text
  have hfeed := hcomplete.not_mem_text (fun line hline => (hread.unbroken line hline).1)
    fun h hh line hline => ((h.check_eq_ok_iff 0).mp (hwell h hh 0)).1 line (by simp [hline])
  rw [Document.parse_toText_iff]
  refine ⟨⟨fun h => ⟨fun line hline => (h.unbroken line hline).2, h.visible, h.apart⟩,
    fun ⟨hreturn, hvisible, hapart⟩ =>
      ⟨fun line hline => ⟨hfeed line hline, hreturn line hline⟩, hcomplete.terminated, hvisible,
        hapart⟩⟩, ?_, ?_, ?_⟩
  · exact hcomplete.not_mem_text fun line hline => (hread.unbroken line hline).2
  · intro hterminated line hline hnone
    exact absurd hnone (hcomplete.ending_ne (by simp) hterminated line (List.mem_of_getLast? hline))
  · intro hcr
    refine List.isChain_iff_forall_rel_of_append_cons_cons.mpr fun line next before after hlines h => ?_
    exact hcomplete.ending_ne (by simp) hcr line (by simp [hlines]) h.1

/-- Lines put in after the first line and at the end of a text. -/
def twoInsertions : Edit :=
  .diff [⟨[], ["x", ""], none, some 1⟩, ⟨[], [""], none, some 3⟩]

theorem reread_twoInsertions :
    ∃ outcome : Outcome Float,
      Options.standard.applyEdit (Document.parse "a\r\nb\nc\r\n") twoInsertions = .ok outcome ∧
      outcome.success = true ∧ outcome.document.texts = ["a", "x", "", "b", "c", ""] ∧
      Document.parse outcome.document.toText = outcome.document := by
  refine ⟨_, rfl, rfl, by decide +kernel, ?_⟩
  obtain ⟨hiff, hreturn, hvisible, hapart⟩ := applyEdit_reread (Options.standard : Options Float)
    "a\r\nb\nc\r\n" twoInsertions _ rfl
  exact hiff.mpr ⟨hreturn (by decide), hvisible (by decide), hapart (by decide)⟩

/-- The edit succeeds on the text, and the document that it makes does not come back from its own text. -/
def Edit.IsLostIn (e : Edit) (text : String) : Prop :=
  ∃ outcome : Outcome Float,
    Options.standard.applyEdit (Document.parse text) e = .ok outcome ∧ outcome.success = true ∧
    Document.parse outcome.document.toText ≠ outcome.document

/-- A carriage return is put in, an empty line is put behind a carriage return, and an empty line is put
at an unterminated end. -/
theorem not_reread_insertions :
    (Edit.diff [⟨[], ["x\ry"], none, some 0⟩]).IsLostIn "a\n" ∧
    (Edit.diff [⟨[], [""], none, some 1⟩]).IsLostIn "a\rb\n" ∧
    (Edit.diff [⟨[], [""], none, some 1⟩]).IsLostIn "a" :=
  ⟨⟨_, rfl, rfl, by decide +kernel⟩, ⟨_, rfl, rfl, by decide +kernel⟩,
    ⟨_, rfl, rfl, by decide +kernel⟩⟩

end TextRepair
