import TextRepair.Proofs.Splice

/-!
# Lines at another indentation

A hunk may have been written at another indentation than the document has: the visible lines of its anchor
start with blanks `p` where those of the span start with `q`. A splice then moves lines of the replacement
from `p` to `q` as well, and main statement `spliceHunk_moves_indent` says which ones.

A line that is aligned with a line of the anchor has the text that the document has for it. Of the other
lines a splice knows only the indentation of the first visible line of the anchor, `p` and perhaps more
blanks. It takes these off a line and puts those of the span there, which amounts to `q` in the place of `p`
since the blanks beyond `p` are the same (`reindented_eq`). A line with less indentation than that first line
stays where it is (`not_movedLine_dedented`).
-/

namespace TextRepair

open Text

namespace Splice

variable {p q : List Char}

/-- The line with `new` in the place of its first characters, as many as `old` has. A blank line stays. -/
def movedLine (old new : List Char) (line : String) : String :=
  if isBlankText line then line else String.ofList (new ++ line.toList.drop old.length)

/-- All visible lines start with `front`. -/
def AllStartWith (front : List Char) (lines : List String) : Prop :=
  ∀ line ∈ lines, isBlankText line = false → front <+: line.toList

instance (front : List Char) (lines : List String) : Decidable (AllStartWith front lines) :=
  inferInstanceAs (Decidable (∀ line ∈ lines, isBlankText line = false → front <+: line.toList))

theorem movedLine_of_isBlankText {line : String} (hblank : isBlankText line = true) :
    movedLine p q line = line :=
  if_pos hblank

theorem toList_movedLine {line : String} {rest : List Char} (hblank : isBlankText line = false)
    (hline : line.toList = p ++ rest) : (movedLine p q line).toList = q ++ rest := by
  rw [movedLine, if_neg (by simp [hblank]), String.toList_ofList, hline, List.drop_left]

theorem isBlankText_movedLine (hp : ∀ c ∈ p, isBlank c = true) {line : String}
    (hline : isBlankText line = false → p <+: line.toList) :
    isBlankText (movedLine p q line) = isBlankText line := by
  cases hblank : isBlankText line with
  | true => rw [movedLine_of_isBlankText hblank, hblank]
  | false =>
    obtain ⟨rest, hrest⟩ := hline hblank
    have hmoved := toList_movedLine (q := q) hblank hrest.symm
    rw [isBlankText, ← hrest, List.all_append, List.all_eq_true.mpr hp, Bool.true_and] at hblank
    rw [isBlankText, hmoved, List.all_append, hblank, Bool.and_false]

theorem indentOf_of_toList {line : String} {rest : List Char} (hp : ∀ c ∈ p, isBlank c = true)
    (hline : line.toList = p ++ rest) : indentOf line = p ++ rest.takeWhile isBlank := by
  rw [indentOf, hline, List.takeWhile_append_of_pos hp]

/-! ### The first indentation -/

theorem firstIndent?_map_movedLine (hp : ∀ c ∈ p, isBlank c = true) (hq : ∀ c ∈ q, isBlank c = true)
    {lines : List String} (hlines : AllStartWith p lines) :
    (firstIndent? lines = none ∧ firstIndent? (lines.map (movedLine p q)) = none) ∨
    ∃ more, firstIndent? lines = some (p ++ more) ∧
      firstIndent? (lines.map (movedLine p q)) = some (q ++ more) := by
  induction lines with
  | nil => exact .inl ⟨rfl, rfl⟩
  | cons line lines ih =>
    have hline := hlines line List.mem_cons_self
    have hsame := isBlankText_movedLine (q := q) hp hline
    cases hblank : isBlankText line with
    | true =>
      rw [hblank] at hsame
      simp only [firstIndent?, List.map_cons, List.find?_cons, hblank, hsame, Bool.not_true]
      exact ih fun l hl => hlines l (List.mem_cons_of_mem _ hl)
    | false =>
      rw [hblank] at hsame
      obtain ⟨rest, hrest⟩ := hline hblank
      refine .inr ⟨rest.takeWhile isBlank, ?_, ?_⟩
      · simp only [firstIndent?, List.find?_cons, hblank, Bool.not_false, Option.map_some]
        rw [indentOf_of_toList hp hrest.symm]
      · simp only [firstIndent?, List.map_cons, List.find?_cons, hsame, Bool.not_false, Option.map_some]
        rw [indentOf_of_toList hq (toList_movedLine hblank hrest.symm)]

theorem indentShift?_map_movedLine (hp : ∀ c ∈ p, isBlank c = true) (hq : ∀ c ∈ q, isBlank c = true)
    (hne : p ≠ q) {lines : List String} (hlines : AllStartWith p lines) :
    (firstIndent? lines = none ∧ indentShift? lines (lines.map (movedLine p q)) = none) ∨
    ∃ more, firstIndent? lines = some (p ++ more) ∧
      indentShift? lines (lines.map (movedLine p q)) = some (p ++ more, q ++ more) := by
  rcases firstIndent?_map_movedLine hp hq hlines with ⟨hnone, -⟩ | ⟨more, hfirst, hmoved⟩
  · exact .inl ⟨hnone, by rw [indentShift?, hnone]⟩
  · have hdiffer : p ++ more ≠ q ++ more := fun heq => hne (List.append_cancel_right heq)
    refine .inr ⟨more, hfirst, ?_⟩
    rw [indentShift?, hfirst, hmoved]
    exact if_neg hdiffer

theorem movedLine_self {line : String} (hline : isBlankText line = false → p <+: line.toList) :
    movedLine p p line = line := by
  cases hblank : isBlankText line with
  | true => exact movedLine_of_isBlankText hblank
  | false =>
    obtain ⟨rest, hrest⟩ := hline hblank
    apply String.toList_injective
    rw [toList_movedLine hblank hrest.symm, hrest]

theorem map_movedLine_self {lines : List String} (hlines : AllStartWith p lines) :
    lines.map (movedLine p p) = lines :=
  (List.map_congr_left fun line hline => movedLine_self (hlines line hline)).trans (List.map_id lines)

theorem reindented_eq {more : List Char} {text : String} (hstart : p ++ more <+: text.toList) :
    reindented (some (p ++ more, q ++ more)) text = movedLine p q text := by
  cases hblank : isBlankText text with
  | true => rw [reindented, movedLine_of_isBlankText hblank, if_pos hblank]
  | false =>
    have hprefixed : (p ++ more).isPrefixOf text.toList = true := List.isPrefixOf_iff_prefix.mpr hstart
    obtain ⟨rest, hrest⟩ := hstart
    have hdrop : text.toList.drop (p ++ more).length = rest := by rw [← hrest, List.drop_left]
    have hmoved : (movedLine p q text).toList = q ++ (more ++ rest) :=
      toList_movedLine hblank (by rw [← hrest, List.append_assoc])
    apply String.toList_injective
    rw [hmoved, reindented]
    simp only [hblank, Bool.false_eq_true, if_false]
    rw [if_pos hprefixed, hdrop, String.toList_ofList, List.append_assoc]

theorem reindented_of_not_isPrefix {old new : List Char} {text : String} (h : ¬old <+: text.toList) :
    reindented (some (old, new)) text = text := by
  have hstart : ¬old.isPrefixOf text.toList = true := mt List.isPrefixOf_iff_prefix.mp h
  simp [reindented, hstart]

theorem movedLine_ne {line : String} (hne : p ≠ q) (hblank : isBlankText line = false)
    (hline : p <+: line.toList) : movedLine p q line ≠ line := by
  obtain ⟨rest, hrest⟩ := hline
  intro heq
  have hmoved := toList_movedLine (q := q) hblank hrest.symm
  rw [heq, ← hrest] at hmoved
  exact hne (List.append_cancel_right hmoved)

/-! ### The lines put in -/

/-- Line `j` of the replacement, with the text `text`, has a place at the indentation of the span: it is
aligned with a line of the anchor, or starts with the first indentation of the anchor. -/
def IsPlaced (h : Hunk) (j : Nat) (text : String) : Prop :=
  (∃ i, (i, j) ∈ alignment h.anchor h.replacement) ∨
    ∃ indent, firstIndent? h.anchor = some indent ∧ indent <+: text.toList

/-- The texts put in for a span that is the anchor at the indentation `q`. -/
theorem getElem?_newTexts_map_movedLine (hp : ∀ c ∈ p, isBlank c = true) (hq : ∀ c ∈ q, isBlank c = true)
    {h : Hunk} (hanchor : AllStartWith p h.anchor) (hreplacement : AllStartWith p h.replacement)
    {j : Nat} {text : String} (htext : h.replacement[j]? = some text) :
    (IsPlaced h j text →
      (newTexts (h.anchor.map (movedLine p q)) h true)[j]? = some (movedLine p q text)) ∧
    (¬IsPlaced h j text → (newTexts (h.anchor.map (movedLine p q)) h true)[j]? = some text) := by
  rcases eq_or_ne p q with rfl | hne
  · -- nothing is moved, and `text` is itself at the indentation of the span
    have hself : movedLine p p text = text :=
      movedLine_self (hreplacement text (List.mem_of_getElem? htext))
    rw [map_movedLine_self hanchor, newTexts_anchor, hself]
    exact ⟨fun _ => htext, fun _ => htext⟩
  unfold newTexts
  rw [List.length_map, if_pos rfl, if_pos rfl, List.getElem?_mapIdx, htext, Option.map_some]
  by_cases haligned : ∃ i, (i, j) ∈ alignment h.anchor h.replacement
  · refine ⟨fun _ => ?_, fun hplaced => absurd (.inl haligned) hplaced⟩
    obtain ⟨i, hpair⟩ := haligned
    have hline : h.anchor[i]? = some text := (mem_alignment _ _ hpair).2.2.trans htext
    rw [find?_alignment hpair, Option.bind_some, List.getElem?_map, hline, Option.map_some,
      Option.getD_some]
  · have hnone : ((alignment h.anchor h.replacement).find? fun pair => pair.2 = j) = none := by
      refine List.find?_eq_none.mpr fun pair hpair hj => haligned ⟨pair.1, ?_⟩
      rwa [← of_decide_eq_true hj]
    rw [hnone, Option.bind_none, Option.getD_none]
    rcases indentShift?_map_movedLine hp hq hne hanchor with ⟨hfirst, hshift⟩ | ⟨more, hfirst, hshift⟩
    · rw [hshift]
      refine ⟨?_, fun _ => rfl⟩
      rintro (hpair | ⟨indent, hindent, -⟩)
      · exact absurd hpair haligned
      · cases hfirst.symm.trans hindent
    · rw [hshift]
      refine ⟨?_, fun hplaced => ?_⟩
      · rintro (hpair | ⟨indent, hindent, hstart⟩)
        · exact absurd hpair haligned
        · obtain rfl : p ++ more = indent := Option.some.inj (hfirst.symm.trans hindent)
          rw [reindented_eq hstart]
      · rw [reindented_of_not_isPrefix fun hstart => hplaced (.inr ⟨_, hfirst, hstart⟩)]

theorem newTexts_map_movedLine_iff (hp : ∀ c ∈ p, isBlank c = true) (hq : ∀ c ∈ q, isBlank c = true)
    {h : Hunk} (hanchor : AllStartWith p h.anchor) (hreplacement : AllStartWith p h.replacement) :
    newTexts (h.anchor.map (movedLine p q)) h true = h.replacement.map (movedLine p q) ↔
      p = q ∨ ∀ j text, h.replacement[j]? = some text → isBlankText text = false → IsPlaced h j text := by
  constructor
  · intro heq
    rw [or_iff_not_imp_left]
    intro hne j text htext hblank
    by_contra hplaced
    have hnew := (getElem?_newTexts_map_movedLine hp hq hanchor hreplacement htext).2 hplaced
    rw [heq, List.getElem?_map, htext, Option.map_some] at hnew
    exact movedLine_ne hne hblank (hreplacement _ (List.mem_of_getElem? htext) hblank)
      (Option.some.inj hnew)
  · intro hplaced
    have hlength := length_newTexts (h.anchor.map (movedLine p q)) h true
    refine List.ext_getElem? fun j => ?_
    rw [List.getElem?_map]
    cases htext : h.replacement[j]? with
    | none =>
      rw [List.getElem?_eq_none_iff] at htext
      exact List.getElem?_eq_none (by omega)
    | some text =>
      have hnew := getElem?_newTexts_map_movedLine hp hq hanchor hreplacement htext
      rw [Option.map_some]
      by_cases hplace : IsPlaced h j text
      · exact hnew.1 hplace
      · rw [hnew.2 hplace]
        rcases hplaced with rfl | hplaced
        · rw [movedLine_self (hreplacement text (List.mem_of_getElem? htext))]
        · cases hblank : isBlankText text with
          | true => rw [movedLine_of_isBlankText hblank]
          | false => exact absurd (hplaced j text htext hblank) hplace

end Splice

open Splice

namespace Document

/-- A splice into a span that is the anchor of the hunk at another indentation. The lines of the replacement
that have a place at that indentation are moved there, the other ones stay as they are. So the whole
replacement is moved if and only if every visible line of it has a place, or the two indentations are one. -/
theorem spliceHunk_moves_indent (d : Document) {start stop : Nat} (h : Hunk) {p q : List Char}
    (hp : ∀ c ∈ p, isBlank c = true) (hq : ∀ c ∈ q, isBlank c = true)
    (hhunk : AllStartWith p (h.anchor ++ h.replacement)) (hle : start ≤ stop) (hstop : stop ≤ d.size)
    (hspan : (d.texts.drop start).take (stop - start) = h.anchor.map (movedLine p q)) :
    ∃ new, (d.spliceHunk start stop h true).texts = d.texts.take start ++ new ++ d.texts.drop stop ∧
      new.length = h.replacement.length ∧
      (∀ j text, h.replacement[j]? = some text →
        (IsPlaced h j text → new[j]? = some (movedLine p q text)) ∧
        (¬IsPlaced h j text → new[j]? = some text)) ∧
      (new = h.replacement.map (movedLine p q) ↔
        p = q ∨ ∀ j text, h.replacement[j]? = some text → isBlankText text = false → IsPlaced h j text) := by
  have hanchor : AllStartWith p h.anchor := fun line hline => hhunk line (List.mem_append_left _ hline)
  have hreplacement : AllStartWith p h.replacement :=
    fun line hline => hhunk line (List.mem_append_right _ hline)
  refine ⟨newTexts (h.anchor.map (movedLine p q)) h true, ?_, length_newTexts _ h true,
    fun j text htext => ?_, ?_⟩
  · rw [d.texts_spliceHunk_eq h true hle hstop, hspan]
  · exact getElem?_newTexts_map_movedLine hp hq hanchor hreplacement htext
  · exact newTexts_map_movedLine_iff hp hq hanchor hreplacement

/-- A method with one more statement, at twice the indentation. -/
theorem spliceHunk_moves_indent_twice :
    let d : Document := ⟨[⟨"class A:", .lf⟩, ⟨"        def f(self):", .lf⟩, ⟨"            return 1", .lf⟩]⟩
    let h : Hunk := ⟨["    def f(self):", "        return 1"],
      ["    def f(self):", "        if x:", "            return 2", "", "    y = 1"], none, none⟩
    AllStartWith "    ".toList (h.anchor ++ h.replacement) ∧
      (d.texts.drop 1).take 2 = h.anchor.map (movedLine "    ".toList "        ".toList) ∧
      (d.spliceHunk 1 3 h true).texts = ["class A:", "        def f(self):", "            if x:",
        "                return 2", "", "        y = 1"] := by
  intro d h
  have hhunk : AllStartWith "    ".toList (h.anchor ++ h.replacement) := by decide
  have hspan : (d.texts.drop 1).take 2 = h.anchor.map (movedLine "    ".toList "        ".toList) := by
    decide
  obtain ⟨new, htexts, -, -, hall⟩ := @spliceHunk_moves_indent d 1 3 h _ _
    (by simp [isBlank]) (by simp [isBlank]) hhunk (by decide) (by decide) hspan
  have hindent : firstIndent? h.anchor = some "    ".toList := by decide
  have hplaced : ∀ j text, h.replacement[j]? = some text → isBlankText text = false → IsPlaced h j text :=
    fun j text htext hblank =>
      .inr ⟨_, hindent, hhunk text (List.mem_append_right _ (List.mem_of_getElem? htext)) hblank⟩
  rw [hall.mpr (.inr hplaced)] at htexts
  exact ⟨hhunk, hspan, htexts⟩

/-- A function behind a method, each at a different indentation. The snippet's first line has eight blanks,
so the second one, which has four, stays, though the span lacks these four. -/
theorem not_movedLine_dedented :
    ¬∀ (d : Document) (start stop : Nat) (h : Hunk) (p q : List Char),
      (∀ c ∈ p, isBlank c = true) → (∀ c ∈ q, isBlank c = true) →
      AllStartWith p (h.anchor ++ h.replacement) → start ≤ stop → stop ≤ d.size →
      (d.texts.drop start).take (stop - start) = h.anchor.map (movedLine p q) →
      (d.spliceHunk start stop h true).texts
        = d.texts.take start ++ h.replacement.map (movedLine p q) ++ d.texts.drop stop := by
  intro hclaim
  have htexts := hclaim ⟨[⟨"def f():", .lf⟩, ⟨"    return 1", .lf⟩]⟩ 1 2
    ⟨["        return 1"], ["        return 2", "    def g(self):"], none, none⟩ "    ".toList []
    (by simp [isBlank]) (by simp) (by decide) (by decide) (by decide) (by decide)
  revert htexts
  decide +kernel

end Document

end TextRepair
