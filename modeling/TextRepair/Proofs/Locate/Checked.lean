import TextRepair.Proofs.Checked
import TextRepair.Proofs.Locate.Tolerance
import Mathlib.Data.List.ReduceOption

/-!
# Searches that check what they read

A version of the searches in which every part and entry of a list is taken under a check and a difference must
not be negative; a failed check is a `Fault`. The tests that come before are the only protection: an anchor
that is empty or longer than the document is refused, a length that is 0 or exceeds the number of lines is
passed over. Main statement, `Checked.scan_eq`: they suffice, for the checked search ends without a fault and
reports what the search reports.
-/

namespace TextRepair

namespace Checked

variable {S : Type} [Score S]

/-- The window from `start` on, if its lines are the anchor's, compared one by one. -/
def exactAt (lines anchor : List String) (start : Nat) : Except Fault (Option (Window S)) := do
  let span ← part lines start (start + anchor.length)
  if (List.zip span anchor).all fun (line, wanted) => line = wanted then
    pure (some ⟨start, anchor.length, Score.ofNat 1⟩)
  else pure none

/-- The windows whose lines are the anchor. -/
def exactWindows (lines anchor : List String) : Except Fault (List (Window S)) := do
  let last ← minus lines.length anchor.length
  let found ← (List.range (last + 1)).mapM (exactAt lines anchor)
  pure found.reduceOption

/-- The window from `start` on, if its lines are the anchor up to blanks. -/
def blankAt (lines anchor : List String) (start : Nat) : Except Fault (Option (Window S)) := do
  let given ← part (lines.map Locate.normalized) start (start + anchor.length)
  if given = anchor.map Locate.normalized then
    let span ← part lines start (start + anchor.length)
    let share : S := Score.ofNat (Locate.differing span anchor) / Score.ofNat anchor.length
    pure (some ⟨start, anchor.length, Score.blankCap - Score.decimal 1 1 * share⟩)
  else pure none

/-- The windows whose lines are the anchor up to blanks. -/
def blankWindows (lines anchor : List String) : Except Fault (List (Window S)) := do
  let last ← minus lines.length anchor.length
  let found ← (List.range (last + 1)).mapM (blankAt lines anchor)
  pure found.reduceOption

/-- Whether a block search passes a window of `size` lines over. The last line is looked at only if the
first one is not blank. -/
def passes (window : List (List Char)) (size : Nat) : Except Fault Bool := do
  if (← entry window 0).isEmpty then pure true
  else
    let last ← entry window (← minus size 1)
    pure last.isEmpty

/-- One window of an approximate search. -/
def visit (blocks : Bool) (lines : List (List Char)) (wanted : List Char) (size : Nat)
    (sieve : Locate.Sieve S) (start : Nat) : Except Fault (Locate.Sieve S) := do
  let window ← part lines start (start + size)
  if ← (if blocks then passes window size else pure false) then pure sieve
  else
    match ← similarityAtLeast wanted (Locate.windowText blocks window) sieve.floor with
    | none => pure sieve
    | some score =>
      pure { floor := Score.greatest sieve.floor score, kept := ⟨start, size, score⟩ :: sieve.kept }

/-- The windows of one length. -/
def visitSize (blocks : Bool) (lines : List (List Char)) (wanted : List Char)
    (sieve : Locate.Sieve S) (size : Nat) : Except Fault (Locate.Sieve S) :=
  if size = 0 ∨ lines.length < size then .ok sieve
  else do
    let last ← minus lines.length size
    (List.range (last + 1)).foldlM (visit blocks lines wanted size) sieve

/-- The windows of `least` to `most` lines. -/
def similarWindows (blocks : Bool) (lines : List (List Char)) (wanted : List Char)
    (least most : Nat) : Except Fault (List (Window S)) := do
  let sieve ← (List.range' least (most + 1 - least)).foldlM (visitSize blocks lines wanted)
    ⟨Score.ofNat 0, []⟩
  pure sieve.kept.reverse

/-- The best span for an anchor, found without unchecked steps. -/
def scan (m : Matcher S) (d : Document) (anchor : List String) (hint : Option Nat) :
    Except Fault (Option (Scan S)) :=
  let size := anchor.length
  match m with
  | .exact =>
    if size = 0 ∨ d.size < size then .ok none
    else do
      let windows ← exactWindows d.texts anchor
      pure (Window.report? windows size hint .exact (Score.ofNat 1))
  | .blanks =>
    if size = 0 ∨ d.size < size then .ok none
    else do
      let windows ← blankWindows d.texts anchor
      pure (Window.report? windows size hint .blanks Score.blankCap)
  | .approximate _ slack =>
    if size = 0 ∨ d.size = 0 then .ok none
    else do
      let windows ← similarWindows false (d.texts.map Locate.normalized)
        (Locate.joined (anchor.map Locate.normalized)) (max (size - slack) 1) (Word.add size slack)
      pure (Window.report? windows size hint .approximate Score.inexactCap)
  | .intent _ =>
    let wanted := (anchor.map Locate.folded).filter (!·.isEmpty)
    if wanted.length = 0 ∨ d.size = 0 then .ok none
    else do
      let windows ← similarWindows true (d.texts.map Locate.folded) (Locate.joined wanted)
        ((wanted.length + 1) / 2) (2 * wanted.length)
      pure (Window.report? windows size hint .intent Score.inexactCap)

/-! ### The checks are met -/

theorem part_eq {α : Type} {xs : List α} {start size : Nat} (h : start + size ≤ xs.length) :
    part xs start (start + size) = pure (Locate.slice xs start size) := by
  rw [part, if_pos ⟨Nat.le_add_right _ _, h⟩, Nat.add_sub_cancel_left]
  rfl

theorem mapM_eq {α β : Type} {xs : List α} {f : α → Except Fault β} {g : α → β}
    (h : ∀ x ∈ xs, f x = pure (g x)) : xs.mapM f = pure (xs.map g) := by
  induction xs with
  | nil => rfl
  | cons x xs ih =>
    rw [List.mapM_cons, h x List.mem_cons_self, ih fun y hy => h y (List.mem_cons_of_mem _ hy)]
    simp only [pure_bind, List.map_cons]

theorem foldlM_eq {α β : Type} {xs : List α} {f : β → α → Except Fault β} {g : β → α → β}
    (h : ∀ x ∈ xs, ∀ b, f b x = pure (g b x)) (b : β) : xs.foldlM f b = pure (xs.foldl g b) := by
  induction xs generalizing b with
  | nil => rfl
  | cons x xs ih =>
    rw [List.foldlM_cons, h x List.mem_cons_self, pure_bind, List.foldl_cons]
    exact ih (fun y hy => h y (List.mem_cons_of_mem _ hy)) _

theorem reduceOption_map_ite {α β : Type} (xs : List α) (p : α → Prop) [DecidablePred p] (f : α → β) :
    (xs.map fun x => if p x then some (f x) else none).reduceOption = (xs.filter p).map f := by
  induction xs with
  | nil => rfl
  | cons x xs ih =>
    by_cases hx : p x
    · rw [List.map_cons, if_pos hx, List.reduceOption_cons_of_some, ih, List.filter_cons, if_pos (decide_eq_true hx),
        List.map_cons]
    · rw [List.map_cons, if_neg hx, List.reduceOption_cons_of_none, ih, List.filter_cons, if_neg (by simpa using hx)]

theorem range_eq_starts {total size : Nat} (hsize : size ≤ total) :
    List.range (total - size + 1) = Locate.starts total size :=
  (if_pos hsize).symm

/-! ### Line for line -/

theorem all_zip_eq {xs ys : List String} (hlength : xs.length = ys.length) :
    ((List.zip xs ys).all fun (x, y) => x = y) = true ↔ xs = ys := by
  induction xs generalizing ys with
  | nil =>
    obtain rfl := List.length_eq_zero_iff.mp hlength.symm
    exact iff_of_true rfl rfl
  | cons x xs ih =>
    obtain ⟨y, ys, rfl⟩ := List.exists_cons_of_length_eq_add_one hlength.symm
    rw [List.zip_cons_cons, List.all_cons, Bool.and_eq_true, ih (by simpa using hlength), decide_eq_true_eq,
      List.cons.injEq]

variable {lines anchor : List String}

theorem exactAt_eq {start : Nat} (hinside : start + anchor.length ≤ lines.length) :
    exactAt lines anchor start = pure (if Locate.slice lines start anchor.length = anchor then
      some (⟨start, anchor.length, Score.ofNat 1⟩ : Window S) else none) := by
  rw [exactAt, part_eq hinside, pure_bind]
  simp only [all_zip_eq (Locate.length_slice hinside)]
  split_ifs <;> rfl

theorem exactWindows_eq (hsize : anchor.length ≤ lines.length) :
    exactWindows lines anchor = pure (Locate.exactWindows lines anchor : List (Window S)) := by
  have hfound := mapM_eq (f := exactAt (S := S) lines anchor) fun start hstart =>
    exactAt_eq (Locate.mem_starts.mp hstart)
  rw [exactWindows, minus_eq hsize, pure_bind, range_eq_starts hsize, hfound, pure_bind,
    reduceOption_map_ite, Locate.exactWindows]

/-- Without the test before it, a search for more lines than there are goes below zero. -/
example : (exactWindows ["a"] ["a", "b"] : Except Fault (List (Window Rat))) = .error .negative :=
  rfl

theorem blankAt_eq {start : Nat} (hinside : start + anchor.length ≤ lines.length) :
    blankAt lines anchor start = pure (
      if (Locate.slice lines start anchor.length).map Locate.normalized = anchor.map Locate.normalized then
        some (⟨start, anchor.length, Locate.blankScore S lines anchor start⟩ : Window S) else none) := by
  rw [blankAt, part_eq (by rwa [List.length_map]), pure_bind, part_eq hinside, pure_bind, Locate.slice_map]
  split_ifs <;> rfl

theorem blankWindows_eq (hsize : anchor.length ≤ lines.length) :
    blankWindows lines anchor = pure (Locate.blankWindows lines anchor : List (Window S)) := by
  have hfound := mapM_eq (f := blankAt (S := S) lines anchor) fun start hstart =>
    blankAt_eq (Locate.mem_starts.mp hstart)
  rw [blankWindows, minus_eq hsize, pure_bind, range_eq_starts hsize, hfound, pure_bind,
    reduceOption_map_ite, Locate.blankWindows_eq]

/-! ### By similarity -/

theorem passes_eq {window : List (List Char)} (hpos : 0 < window.length) :
    passes window window.length = pure (!Locate.isBlock window) := by
  obtain ⟨first, rest, rfl⟩ := List.exists_cons_of_length_pos hpos
  have hlast : (first :: rest).getLastD [] = (first :: rest)[(first :: rest).length - 1] := by
    rw [List.getLastD_eq_getLast?, List.getLast?_eq_getElem?, List.getElem?_eq_getElem (Nat.sub_lt hpos Nat.one_pos),
      Option.getD_some]
  rw [passes, entry_eq hpos, pure_bind, minus_eq hpos, pure_bind, entry_eq (Nat.sub_lt hpos Nat.one_pos),
    pure_bind, Locate.isBlock, hlast]
  cases hfirst : first.isEmpty <;> simp [hfirst]

theorem visit_eq (blocks : Bool) {lines : List (List Char)} (wanted : List Char) {size start : Nat}
    (hpos : 0 < size) (hinside : start + size ≤ lines.length) (sieve : Locate.Sieve S) :
    visit blocks lines wanted size sieve start = pure (sieve.visit blocks lines wanted (start, size)) := by
  have hlength := Locate.length_slice hinside
  have hpasses : (if blocks then passes (Locate.slice lines start size) size else pure false)
      = pure (blocks && !Locate.isBlock (Locate.slice lines start size)) := by
    cases blocks with
    | false => rfl
    | true =>
      have := passes_eq (hlength.symm ▸ hpos)
      rw [hlength] at this
      exact this
  rw [visit, part_eq hinside, pure_bind, hpasses, pure_bind, similarityAtLeast_eq, Locate.Sieve.visit]
  split_ifs
  · rfl
  · rw [pure_bind]
    cases TextRepair.similarityAtLeast wanted (Locate.windowText blocks _) sieve.floor <;> rfl

theorem visitSize_eq (blocks : Bool) (lines : List (List Char)) (wanted : List Char) {size : Nat}
    (hpos : 0 < size) (sieve : Locate.Sieve S) :
    visitSize blocks lines wanted sieve size = pure ((Locate.starts lines.length size).foldl
      (fun sieve start => sieve.visit blocks lines wanted (start, size)) sieve) := by
  by_cases hsize : size ≤ lines.length
  · rw [visitSize, if_neg (by omega), minus_eq hsize, pure_bind, range_eq_starts hsize]
    exact foldlM_eq (fun start hstart => visit_eq blocks wanted hpos (Locate.mem_starts.mp hstart)) sieve
  · rw [visitSize, if_pos (by omega), Locate.starts, if_neg hsize]
    rfl

theorem spans_eq (total least most : Nat) :
    Locate.spans total least most = (List.range' least (most + 1 - least)).flatMap fun size =>
      (Locate.starts total size).map fun start => (start, size) := by
  have hsplit : List.range' least (most + 1 - least) = List.range' least (min most total + 1 - least) ++
      List.range' (least + (min most total + 1 - least)) (most + 1 - least - (min most total + 1 - least)) := by
    rw [List.range'_append_1]
    congr 1
    omega
  have hbeyond : ((List.range' (least + (min most total + 1 - least))
      (most + 1 - least - (min most total + 1 - least))).flatMap fun size =>
        (Locate.starts total size).map fun start => (start, size)) = [] := by
    rw [List.flatMap_eq_nil_iff]
    intro size hsize
    rw [List.mem_range'_1] at hsize
    rw [Locate.starts, if_neg (by omega), List.map_nil]
  rw [hsplit, List.flatMap_append, hbeyond, List.append_nil, Locate.spans]

theorem similarWindows_eq (blocks : Bool) (lines : List (List Char)) (wanted : List Char) {least : Nat}
    (hleast : 0 < least) (most : Nat) :
    similarWindows blocks lines wanted least most
      = pure (Locate.similarWindows blocks lines wanted least most : List (Window S)) := by
  have hsize : ∀ size ∈ List.range' least (most + 1 - least), ∀ sieve : Locate.Sieve S,
      visitSize blocks lines wanted sieve size = pure ((Locate.starts lines.length size).foldl
        (fun sieve start => sieve.visit blocks lines wanted (start, size)) sieve) := by
    intro size hsize sieve
    rw [List.mem_range'_1] at hsize
    exact visitSize_eq blocks lines wanted (by omega) sieve
  rw [similarWindows, foldlM_eq hsize, pure_bind, Locate.similarWindows, spans_eq, List.foldl_flatMap]
  simp only [List.foldl_map]

/-! ### All searches -/

theorem exactWindows_of_lt (hsize : lines.length < anchor.length) :
    (Locate.exactWindows lines anchor : List (Window S)) = [] := by
  rw [Locate.exactWindows, Locate.starts, if_neg (Nat.not_le.mpr hsize)]
  rfl

theorem blankWindows_of_lt (hsize : lines.length < anchor.length) :
    (Locate.blankWindows lines anchor : List (Window S)) = [] := by
  rw [Locate.blankWindows, Locate.starts, if_neg (Nat.not_le.mpr hsize)]
  rfl

theorem similarWindows_nil (blocks : Bool) (wanted : List Char) {least : Nat} (hleast : 0 < least) (most : Nat) :
    (Locate.similarWindows blocks [] wanted least most : List (Window S)) = [] := by
  have hspans : Locate.spans 0 least most = [] := List.eq_nil_iff_forall_not_mem.mpr fun span hspan => by
    have := Locate.mem_spans.mp hspan
    omega
  rw [Locate.similarWindows, List.length_nil, hspans]
  rfl

theorem report_eq {refused pointless : Prop} [Decidable refused] [Decidable pointless]
    {checked : Except Fault (List (Window S))} {windows : List (Window S)}
    (hchecked : ¬refused → ¬pointless → checked = pure windows) (hnil : ¬refused → pointless → windows = [])
    (anchorSize : Nat) (hint : Option Nat) (strategy : Strategy) (cap : S) :
    (if refused ∨ pointless then Except.ok none else do
        let windows ← checked
        pure (Window.report? windows anchorSize hint strategy cap)) =
      Except.ok (if refused then none else Window.report? windows anchorSize hint strategy cap) := by
  by_cases hrefused : refused
  · rw [if_pos (.inl hrefused), if_pos hrefused]
  by_cases hpointless : pointless
  · rw [if_pos (.inr hpointless), if_neg hrefused, hnil hrefused hpointless]
    rfl
  · rw [if_neg (not_or.mpr ⟨hrefused, hpointless⟩), if_neg hrefused, hchecked hrefused hpointless, pure_bind]
    rfl

/-- No check fails, and what is found is what the search finds. -/
theorem scan_eq (m : Matcher S) (d : Document) (anchor : List String) (hint : Option Nat) :
    scan m d anchor hint = .ok (m.scan d anchor hint) := by
  have hlines : d.texts.length = d.size := d.length_texts
  have hnil (h : d.size = 0) : d.texts = [] := List.length_eq_zero_iff.mp (hlines.trans h)
  cases m with
  | exact =>
    exact report_eq (fun _ hsize => exactWindows_eq (by omega)) (fun _ hsize => exactWindows_of_lt (by omega))
      anchor.length hint .exact (Score.ofNat 1)
  | blanks =>
    exact report_eq (fun _ hsize => blankWindows_eq (by omega)) (fun _ hsize => blankWindows_of_lt (by omega))
      anchor.length hint .blanks Score.blankCap
  | approximate threshold slack =>
    have hleast : 0 < max (anchor.length - slack) 1 := by omega
    refine report_eq (fun _ _ => similarWindows_eq false _ _ hleast _) (fun _ hempty => ?_)
      anchor.length hint .approximate Score.inexactCap
    rw [hnil hempty, List.map_nil, similarWindows_nil false _ hleast]
  | intent threshold =>
    have hiff : ((anchor.map Locate.folded).filter fun line => !line.isEmpty).isEmpty = true
      ↔ ((anchor.map Locate.folded).filter fun line => !line.isEmpty).length = 0 := by simp
    rw [scan, Matcher.scan]
    simp only [hiff]
    refine report_eq (fun hwanted _ => similarWindows_eq true _ _ (by omega) _) (fun hwanted hempty => ?_)
      anchor.length hint .intent Score.inexactCap
    rw [hnil hempty, List.map_nil, similarWindows_nil true _ (by omega)]

end Checked

end TextRepair
