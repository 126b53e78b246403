import TextRepair.Document
import Mathlib.Data.List.Chain

/-!
# Reading what was written

Every text is the text of the document read from it (`toText_parse`). Of the documents, just those come
back from their own text that some text has (`IsReadable`): terminators stand nowhere but at the ends of
lines, nothing but the last line is unterminated, that line is not empty then, and no carriage return
is followed by an empty line that ends with a line feed, which would make one terminator of the two.

Both directions go along the text. What is read is readable, since a line starts with its own line feed
only where the text goes on with one (`head?_linesFrom`); a readable list is read line by line, since
the characters of a line text are passed over (`linesFrom_append`) and what stands behind a terminator
does not extend it (`head?_lines`).
-/

namespace TextRepair

namespace Document

@[simp] theorem toChars_nil : toChars ⟨[]⟩ = [] := rfl

@[simp] theorem toChars_cons (line : Line) (rest : List Line) :
    toChars ⟨line :: rest⟩ = line.text.toList ++ (line.ending.terminator ++ toChars ⟨rest⟩) := by
  simp [toChars]

/-- The documents that some text has. -/
structure IsReadable (d : Document) : Prop where
  /-- No line text has a character of a terminator. -/
  unbroken : ∀ line ∈ d.lines, '\n' ∉ line.text.toList ∧ '\r' ∉ line.text.toList
  /-- Only the last line may be unterminated, -/
  terminated : ∀ line ∈ d.lines.dropLast, line.ending ≠ .none
  /-- and then it is not empty. -/
  visible : ∀ line ∈ d.lines.getLast?, line.ending = .none → line.text ≠ ""
  /-- No carriage return runs into a line feed. -/
  apart : d.lines.IsChain fun line next => ¬(line.ending = .cr ∧ next = ⟨"", .lf⟩)

theorem isReadable_nil : IsReadable ⟨[]⟩ :=
  ⟨by simp, by simp, by simp, .nil⟩

theorem isReadable_cons (line : Line) (rest : List Line) :
    IsReadable ⟨line :: rest⟩ ↔
      ('\n' ∉ line.text.toList ∧ '\r' ∉ line.text.toList) ∧
      (line.ending = .none → rest = [] ∧ line.text ≠ "") ∧
      (line.ending = .cr → rest.head? ≠ some ⟨"", .lf⟩) ∧ IsReadable ⟨rest⟩ := by
  cases rest with
  | nil =>
    refine ⟨fun h => ⟨h.unbroken line (by simp), fun hnone => ⟨rfl, h.visible line rfl hnone⟩,
      fun _ => nofun, isReadable_nil⟩, fun ⟨hplain, hnone, _, _⟩ => ⟨?_, by simp, ?_, by simp⟩⟩
    · simpa using hplain
    · simpa using fun h => (hnone h).2
  | cons next rest =>
    constructor
    · rintro ⟨hplain, hterminated, hvisible, hapart⟩
      rw [List.isChain_cons_cons] at hapart
      refine ⟨hplain line (by simp), fun hnone => absurd hnone (hterminated line (by simp)),
        fun hcr hnext => hapart.1 ⟨hcr, by simpa using hnext⟩,
        fun l hl => hplain l (by simp [hl]), fun l hl => hterminated l ?_, ?_, hapart.2⟩
      · rw [List.dropLast_cons_cons]
        exact List.mem_cons_of_mem _ hl
      · simpa using hvisible
    · rintro ⟨hplain, hnone, hcr, hrest⟩
      refine ⟨?_, ?_, ?_, List.isChain_cons_cons.mpr ⟨?_, hrest.apart⟩⟩
      · simpa using ⟨hplain, by simpa using hrest.unbroken⟩
      · rw [List.dropLast_cons_cons]
        exact List.forall_mem_cons.mpr ⟨fun h => absurd (hnone h).1 (by simp), hrest.terminated⟩
      · simpa using hrest.visible
      · rintro ⟨hending, rfl⟩
        exact hcr hending rfl

theorem IsReadable.of_part {d : Document} (h : d.IsReadable) {block : List Line}
    (hblock : block <:+: d.lines) : IsReadable ⟨block⟩ := by
  obtain ⟨before, behind, hlines⟩ := hblock
  have hmem : ∀ line ∈ block, line ∈ d.lines := fun line hline => by simp [← hlines, hline]
  refine ⟨fun line hline => h.unbroken line (hmem line hline), fun line hline => ?_,
    fun line hline hnone => ?_, h.apart.infix ⟨before, behind, hlines⟩⟩
  · refine h.terminated line ?_
    obtain ⟨last, hlast⟩ : ∃ last, block = block.dropLast ++ [last] :=
      ⟨_, (List.dropLast_append_getLast (List.ne_nil_of_mem (List.dropLast_subset block hline))).symm⟩
    rw [← hlines, hlast]
    simp [hline]
  · -- an unterminated line has nothing behind it
    have hlast : block.getLast? = some line := hline
    obtain rfl : behind = [] := by
      by_contra hbehind
      refine h.terminated line ?_ hnone
      rw [← hlines, List.dropLast_append_of_ne_nil hbehind]
      simp [List.mem_of_getLast? hlast]
    refine h.visible line ?_ hnone
    rw [← hlines, List.append_nil, List.getLast?_append_of_ne_nil _ (by rintro rfl; cases hlast)]
    exact hlast

/-! ### What is read -/

theorem toChars_linesFrom (current cs : List Char) :
    toChars ⟨linesFrom current cs⟩ = current.reverse ++ cs := by
  fun_induction linesFrom current cs with
  | case1 current hempty => simp_all
  | case2 current hvisible => simp [Ending.terminator]
  | case3 current cs ih => simp [ih, Ending.terminator]
  | case4 current cs ih => simp [ih, Ending.terminator]
  | case5 current cs hnext ih => simp [ih, Ending.terminator]
  | case6 current c cs hfeed hpair hreturn ih => simp [ih]

theorem toText_parse (text : String) : (parse text).toText = text := by
  have hchars : (parse text).toChars = text.toList := toChars_linesFrom [] text.toList
  rw [toText, hchars, String.ofList_toList]

theorem head?_linesFrom {current cs : List Char}
    (hhead : (linesFrom current cs).head? = some ⟨"", .lf⟩) :
    current = [] ∧ cs.head? = some '\n' := by
  fun_induction linesFrom current cs with
  | case1 => simp at hhead
  | case2 => simp at hhead
  | case3 current cs ih => simpa using hhead
  | case4 => simp at hhead
  | case5 => simp at hhead
  | case6 current c cs hfeed hpair hreturn ih => exact absurd (ih hhead).1 (List.cons_ne_nil _ _)

theorem isReadable_linesFrom (current cs : List Char) (hfeed : '\n' ∉ current)
    (hreturn : '\r' ∉ current) : IsReadable ⟨linesFrom current cs⟩ := by
  fun_induction linesFrom current cs with
  | case1 => exact isReadable_nil
  | case2 current hvisible =>
    refine (isReadable_cons _ _).mpr ⟨?_, fun _ => ⟨rfl, ?_⟩, nofun, isReadable_nil⟩
    · simpa using ⟨hfeed, hreturn⟩
    · simpa using hvisible
  | case3 current cs ih =>
    exact (isReadable_cons _ _).mpr ⟨by simpa using ⟨hfeed, hreturn⟩, nofun, nofun, ih (by simp) (by simp)⟩
  | case4 current cs ih =>
    exact (isReadable_cons _ _).mpr ⟨by simpa using ⟨hfeed, hreturn⟩, nofun, nofun, ih (by simp) (by simp)⟩
  | case5 current cs hnext ih =>
    refine (isReadable_cons _ _).mpr ⟨by simpa using ⟨hfeed, hreturn⟩, nofun, fun _ hhead => ?_,
      ih (by simp) (by simp)⟩
    obtain ⟨rest, hrest⟩ := List.head?_eq_some_iff.mp (head?_linesFrom hhead).2
    exact hnext rest hrest
  | case6 current c cs hc hpair hc' ih =>
    exact ih (by simp [hfeed, Ne.symm hc]) (by simp [hreturn, Ne.symm hc'])

theorem isReadable_parse (text : String) : (parse text).IsReadable :=
  isReadable_linesFrom [] _ (by simp) (by simp)

theorem forall_ending_ne_cr_iff (current cs : List Char) :
    (∀ line ∈ linesFrom current cs, line.ending ≠ .cr) ↔
      ∀ front rest, cs = front ++ '\r' :: rest → rest.head? = some '\n' := by
  have hcons (c : Char) (cs : List Char) :
      (∀ front rest, c :: cs = front ++ '\r' :: rest → rest.head? = some '\n') ↔
        (c = '\r' → cs.head? = some '\n') ∧
          ∀ front rest, cs = front ++ '\r' :: rest → rest.head? = some '\n' := by
    constructor
    · exact fun h => ⟨fun hc => h [] cs (by rw [hc]; rfl),
        fun front rest hcs => h (c :: front) rest (by rw [hcs]; rfl)⟩
    · rintro ⟨hc, h⟩ front rest hcs
      rcases List.cons_eq_append_iff.mp hcs with ⟨-, heq⟩ | ⟨front', -, heq⟩
      · obtain ⟨rfl, rfl⟩ := List.cons.inj heq
        exact hc rfl
      · exact h front' rest heq
  fun_induction linesFrom current cs with
  | case1 => simp
  | case2 => simp
  | case3 current cs ih => simp [hcons, ih]
  | case4 current cs ih => simp [hcons, ih]
  | case5 current cs hnext ih =>
    have hhead : cs.head? ≠ some '\n' := fun h => by
      obtain ⟨rest, hrest⟩ := List.head?_eq_some_iff.mp h
      exact hnext rest hrest
    simp [hcons, hhead]
  | case6 current c cs hfeed hpair hreturn ih =>
    rw [hcons]
    exact ih.trans (and_iff_right fun hc => absurd hc hreturn).symm

/-! ### Reading what a readable document writes -/

theorem linesFrom_cons {c : Char} (hfeed : c ≠ '\n') (hreturn : c ≠ '\r') (current cs : List Char) :
    linesFrom current (c :: cs) = linesFrom (c :: current) cs := by
  rw [linesFrom]
  · exact hfeed
  · exact fun _ h _ => hreturn h
  · exact hreturn

theorem linesFrom_return {cs : List Char} (hnext : cs.head? ≠ some '\n') (current : List Char) :
    linesFrom current ('\r' :: cs) = ⟨String.ofList current.reverse, .cr⟩ :: linesFrom [] cs := by
  rw [linesFrom]
  exact fun _ h => hnext (h ▸ rfl)

theorem linesFrom_append {text : List Char} (hfeed : '\n' ∉ text) (hreturn : '\r' ∉ text)
    (current cs : List Char) :
    linesFrom current (text ++ cs) = linesFrom (text.reverse ++ current) cs := by
  induction text generalizing current with
  | nil => rfl
  | cons c text ih =>
    rw [List.mem_cons, not_or] at hfeed hreturn
    rw [List.cons_append, linesFrom_cons (Ne.symm hfeed.1) (Ne.symm hreturn.1),
      ih hfeed.2 hreturn.2]
    simp

theorem head?_lines {lines : List Line} (hreadable : IsReadable ⟨lines⟩)
    (hhead : (toChars ⟨lines⟩).head? = some '\n') : lines.head? = some ⟨"", .lf⟩ := by
  cases lines with
  | nil => simp at hhead
  | cons line rest =>
    obtain ⟨⟨hfeed, -⟩, hnone, -⟩ := (isReadable_cons _ _).mp hreadable
    rw [toChars_cons] at hhead
    cases htext : line.text.toList with
    | cons c text =>
      have hc : c = '\n' := by simpa [htext] using hhead
      exact absurd (htext ▸ hc ▸ List.mem_cons_self) hfeed
    | nil =>
      have hempty : line.text = "" := String.toList_eq_nil_iff.mp htext
      cases hending : line.ending with
      | lf => simp [← hempty, ← hending]
      | crlf => simp [htext, hending, Ending.terminator] at hhead
      | cr => simp [htext, hending, Ending.terminator] at hhead
      | none => exact absurd hempty (hnone hending).2

theorem linesFrom_toChars {lines : List Line} (hreadable : IsReadable ⟨lines⟩) :
    linesFrom [] (toChars ⟨lines⟩) = lines := by
  induction lines with
  | nil => rfl
  | cons line rest ih =>
    obtain ⟨⟨hfeed, hreturn⟩, hnone, hcr, hrest⟩ := (isReadable_cons _ _).mp hreadable
    rw [toChars_cons, linesFrom_append hfeed hreturn]
    obtain ⟨text, ending⟩ := line
    cases ending with
    | lf => simp [Ending.terminator, linesFrom, ih hrest]
    | crlf => simp [Ending.terminator, linesFrom, ih hrest]
    | cr =>
      have hnext : (toChars ⟨rest⟩).head? ≠ some '\n' := fun h => hcr rfl (head?_lines hrest h)
      rw [Ending.terminator, List.singleton_append, linesFrom_return hnext, ih hrest]
      simp
    | none =>
      obtain ⟨rfl, hvisible⟩ := hnone rfl
      simpa [Ending.terminator, linesFrom] using hvisible

theorem parse_toText_iff (d : Document) : parse d.toText = d ↔ d.IsReadable := by
  constructor
  · intro h
    rw [← h]
    exact isReadable_parse _
  · intro h
    rw [parse, toText, String.toList_ofList]
    exact congrArg Document.mk (linesFrom_toChars h)

/-- Reading and writing are inverse to one another on all texts and just the readable documents. -/
theorem reading_inverse :
    (∀ text, (parse text).toText = text) ∧ ∀ d, parse d.toText = d ↔ d.IsReadable :=
  ⟨toText_parse, parse_toText_iff⟩

end Document

end TextRepair
