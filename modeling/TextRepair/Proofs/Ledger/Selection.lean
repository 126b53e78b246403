import TextRepair.Proofs.Ledger.States

/-!
# The order of selections

A ledger hands out its hypotheses in the order of their proposal and each one once, whatever is added,
rejected or accepted between two selections. Main statement, `ledger_selects_in_order`: the hypotheses that
the calls of a run select are those that have left the status they were registered with, with identifiers
that go up; nothing is selected if and only if nothing is being worked on and nothing is proposed; and a
ledger that is exhausted has a reason for each hypothesis.

The invariant is that only proposed hypotheses stand behind a proposed one (`InOrder`). So the others are a
front of the list; a selection makes this front longer by one, and no other call changes who is in it
(`Served.ids_begun`).
-/

namespace TextRepair.Ledger

/-- The hypothesis that a call selects. -/
def selection? : Except LedgerError Reply → Option Hypothesis
  | .ok (.selected h) => h
  | _ => none

/-- The hypotheses that calls select, in order. -/
def selections (l : Ledger) : List Request → List Hypothesis
  | [] => []
  | request :: requests =>
    (selection? (l.serve request).2).toList ++ (l.serve request).1.selections requests

/-- The hypotheses that are not proposed any more. -/
def begun (l : Ledger) : List Hypothesis :=
  l.hypotheses.filter (·.status ≠ .proposed)

/-- Behind a proposed hypothesis stand proposed ones only. -/
def InOrder (l : Ledger) : Prop :=
  l.hypotheses.Pairwise fun h later => h.status = .proposed → later.status = .proposed

theorem mem_begun {l : Ledger} {h : Hypothesis} :
    h ∈ l.begun ↔ h ∈ l.hypotheses ∧ h.status ≠ .proposed := by
  simp [begun]

theorem Served.tried_of_none {l l' : Ledger} (hs : l.Served .selectNext l' (.ok (.selected none))) :
    l.active? = none ∧ ∀ h ∈ l.hypotheses, h.status ≠ .proposed := by
  cases hs with
  | unproposed hidle htried => exact ⟨hidle, htried⟩

theorem selectNext_eq_none_iff {l : Ledger} :
    l.selectNext = .ok none ↔ l.active? = none ∧ ∀ h ∈ l.hypotheses, h.status ≠ .proposed := by
  constructor
  · intro hnone
    have hserved := l.served .selectNext
    simp only [serve, hnone] at hserved
    exact hserved.tried_of_none
  · rintro ⟨hidle, htried⟩
    have hfind : l.hypotheses.find? (fun h => decide (h.status = .proposed)) = none :=
      List.find?_eq_none.mpr fun h hh => by simp [htried h hh]
    rw [selectNext, hidle]
    simp only [hfind]

/-! ### The front of the list -/

section Front

variable {l l' : Ledger} {before after : List Hypothesis} {h h' : Hypothesis} {request : Request}
  {answer : Except LedgerError Reply}

theorem InOrder.begun_before (hl : l.InOrder) (hsplit : l.hypotheses = before ++ h :: after)
    (hh : h.status ≠ .proposed) : ∀ x ∈ before, x.status ≠ .proposed := by
  rw [InOrder, hsplit, List.pairwise_append] at hl
  exact fun x hx hproposed => hh (hl.2.2 x hx h List.mem_cons_self hproposed)

theorem InOrder.proposed_behind (hl : l.InOrder) (hsplit : l.hypotheses = before ++ h :: after)
    (hh : h.status = .proposed) : ∀ x ∈ after, x.status = .proposed := by
  rw [InOrder, hsplit, List.pairwise_append, List.pairwise_cons] at hl
  exact fun x hx => hl.2.1.1 x hx hh

theorem InOrder.replace (hl : l.InOrder) (hsplit : l.hypotheses = before ++ h :: after)
    (hbefore : ∀ x ∈ before, x.status ≠ .proposed) (hh' : h'.status ≠ .proposed) :
    InOrder { l with hypotheses := before ++ h' :: after } := by
  rw [InOrder, hsplit, List.pairwise_append, List.pairwise_cons] at hl
  obtain ⟨hfront, ⟨-, hafter⟩, -⟩ := hl
  refine List.pairwise_append.mpr ⟨hfront, List.pairwise_cons.mpr ⟨?_, hafter⟩, ?_⟩
  · exact fun _ _ hproposed => absurd hproposed hh'
  · exact fun x hx _ _ hproposed => absurd hproposed (hbefore x hx)

theorem InOrder.extend (hl : l.InOrder) {new : List Hypothesis} (hnew : ∀ x ∈ new, x.IsFresh)
    (hl' : l'.hypotheses = l.hypotheses ++ new) : l'.InOrder := by
  rw [InOrder, hl']
  refine List.pairwise_append.mpr ⟨hl, ?_, fun _ _ x hx _ => (hnew x hx).status⟩
  exact List.pairwise_of_forall_mem_list fun _ _ x hx _ => (hnew x hx).status

theorem Work.begun_of_allows {work : Work} {s : Status} (hallowed : work.allows s = true) :
    s ≠ .proposed := by
  rintro rfl
  cases Work.isActive_of_allows hallowed

theorem Work.begun_result (work : Work) (h : Hypothesis) : (work.result h).status ≠ .proposed := by
  cases work <;> exact nofun

theorem Work.id_result (work : Work) (h : Hypothesis) : (work.result h).id = h.id := by
  cases work <;> rfl

theorem Served.inOrder (hs : l.Served request l' answer) (hl : l.InOrder) : l'.InOrder := by
  cases hs with
  | nothing => exact hl
  | added explanations =>
    obtain ⟨new, hfresh, hnew⟩ := exists_foldl_addOne explanations (l, ⟨[], 0⟩)
    exact hl.extend hfresh hnew
  | busy => exact hl
  | unproposed => exact hl
  | selected _ before h after hsplit hfirst _ => exact hl.replace hsplit hfirst nofun
  | unknown => exact hl
  | refused => exact hl
  | worked work before h after hsplit _ hallowed =>
    exact hl.replace hsplit (hl.begun_before hsplit (Work.begun_of_allows hallowed)) (work.begun_result h)

/-- A selection puts one more hypothesis into the front, and no other call changes who is in it. -/
theorem Served.ids_begun (hs : l.Served request l' answer) (hl : l.InOrder) :
    l'.begun.map Hypothesis.id
      = l.begun.map Hypothesis.id ++ (selection? answer).toList.map Hypothesis.id := by
  cases hs with
  | nothing => exact (List.append_nil _).symm
  | added explanations =>
    obtain ⟨new, hfresh, hnew⟩ := exists_foldl_addOne explanations (l, ⟨[], 0⟩)
    have hproposed : new.filter (·.status ≠ .proposed) = [] := by
      simpa using fun x hx => (hfresh x hx).status
    rw [begun, hnew, List.filter_append, hproposed, List.append_nil]
    exact (List.append_nil _).symm
  | busy => exact (List.append_nil _).symm
  | unproposed => exact (List.append_nil _).symm
  | selected _ before h after hsplit _ hproposed =>
    have hafter : after.filter (·.status ≠ .proposed) = [] := by
      simpa using hl.proposed_behind hsplit hproposed
    simp only [begun, hsplit, List.filter_append, List.filter_cons, hafter, hproposed]
    simp [selection?]
  | unknown => exact (List.append_nil _).symm
  | refused => exact (List.append_nil _).symm
  | worked work before h after hsplit _ hallowed =>
    simp only [begun, hsplit, List.filter_append, List.filter_cons]
    simp [selection?, Work.begun_of_allows hallowed, work.begun_result h, work.id_result h]

/-! ### Identifiers up to one -/

theorem IsLawful.pairwise_ids (hl : l.IsLawful) : (l.hypotheses.map Hypothesis.id).Pairwise (· < ·) := by
  rw [hl.ids]
  exact List.pairwise_lt_range'

theorem IsLawful.pairwise_ids_begun (hl : l.IsLawful) : (l.begun.map Hypothesis.id).Pairwise (· < ·) :=
  hl.pairwise_ids.sublist (List.filter_sublist.map _)

theorem IsLawful.mem_before_or_eq (hl : l.IsLawful) (hsplit : l.hypotheses = before ++ h :: after)
    {x : Hypothesis} (hx : x ∈ l.hypotheses) (hle : x.id ≤ h.id) : x ∈ before ∨ x = h := by
  have hids := hl.pairwise_ids
  rw [hsplit, List.map_append, List.map_cons, List.pairwise_append, List.pairwise_cons] at hids
  rw [hsplit, List.mem_append, List.mem_cons] at hx
  rcases hx with hx | hx | hx
  · exact .inl hx
  · exact .inr hx
  · exact absurd (hids.2.1.1 _ (List.mem_map_of_mem hx)) (Nat.not_lt.mpr hle)

theorem InOrder.begun_of_le (hl : l.InOrder) (hlawful : l.IsLawful) (hh : h ∈ l.begun) {x : Hypothesis}
    (hx : x ∈ l.hypotheses) (hle : x.id ≤ h.id) : x.status ≠ .proposed := by
  obtain ⟨hh, hbegun⟩ := mem_begun.mp hh
  obtain ⟨before, after, hsplit⟩ := List.append_of_mem hh
  rcases hlawful.mem_before_or_eq hsplit hx hle with hx | rfl
  · exact hl.begun_before hsplit hbegun x hx
  · exact hbegun

theorem served_of_selectNext (hselect : l.selectNext = .ok (some (h, l'))) :
    l.Served .selectNext l' (.ok (.selected (some h))) := by
  have hserved := l.served .selectNext
  simpa only [serve, hselect] using hserved

theorem begun_of_selectNext (hl : l.IsLawful) (hselect : l.selectNext = .ok (some (h, l'))) :
    ∀ x ∈ l.hypotheses, x.id < h.id → x.status ≠ .proposed := by
  cases served_of_selectNext hselect with
  | selected _ before h after hsplit hfirst hproposed =>
    intro x hx hlt
    rcases hl.mem_before_or_eq hsplit hx (Nat.le_of_lt hlt) with hx | rfl
    · exact hfirst x hx
    · exact absurd hlt (Nat.lt_irrefl _)

end Front

/-! ### Runs -/

theorem inOrder_serveAll (requests : List Request) :
    ∀ l : Ledger, l.InOrder → (l.serveAll requests).InOrder :=
  serveAll_of_kept (fun l request => (l.served request).inOrder) requests

theorem ids_begun_serveAll (requests : List Request) :
    ∀ l : Ledger, l.InOrder → (l.serveAll requests).begun.map Hypothesis.id
      = l.begun.map Hypothesis.id ++ (l.selections requests).map Hypothesis.id := by
  induction requests with
  | nil => exact fun l _ => (List.append_nil _).symm
  | cons request rest ih =>
    intro l hl
    have hserved := l.served request
    rw [serveAll_cons, ih _ (hserved.inOrder hl), hserved.ids_begun hl, selections, List.map_append,
      List.append_assoc]

theorem begun_serveAll_of_selectNext {l l' : Ledger} {h : Hypothesis} (hlawful : l.IsLawful)
    (horder : l.InOrder) (hselect : l.selectNext = .ok (some (h, l'))) (more : List Request) :
    ∀ x ∈ (l'.serveAll more).hypotheses, x.id ≤ h.id → x.status ≠ .proposed := by
  have hserved := served_of_selectNext hselect
  have hlawful' := (hserved.isLawful hlawful).serveAll more
  have horder' := hserved.inOrder horder
  -- The selected one joins the front, and the front only grows.
  have hid : h.id ∈ (l'.serveAll more).begun.map Hypothesis.id := by
    rw [ids_begun_serveAll more l' horder', hserved.ids_begun horder]
    simp [selection?]
  obtain ⟨y, hy, hyh⟩ := List.mem_map.mp hid
  rw [← hyh]
  exact fun x hx hle => (inOrder_serveAll more l' horder').begun_of_le hlawful' hy hx hle

/-! ### Exhausted ledgers -/

theorem selectNext_of_isExhausted {l : Ledger} (hl : l.isExhausted = true) : l.selectNext = .ok none := by
  have hrejected := (isExhausted_iff.mp hl).2
  refine selectNext_eq_none_iff.mpr ⟨List.find?_eq_none.mpr fun h hh => ?_, fun h hh => ?_⟩
  · simp [hrejected h hh, Status.isActive]
  · rw [hrejected h hh]
    decide

/-- An entry about a hypothesis: its explanation with the reason that was given for its rejection. -/
def IsRejectionOf (h : Hypothesis) (entry : String) : Prop :=
  ∃ reason, h.rejection = some reason ∧ entry = h.explanation ++ ": " ++ reason

theorem forall₂_filterMap_rejection {hypotheses : List Hypothesis}
    (hreason : ∀ h ∈ hypotheses, h.rejection.isSome = true) :
    List.Forall₂ IsRejectionOf hypotheses
      (hypotheses.filterMap fun h => h.rejection.map fun reason => h.explanation ++ ": " ++ reason) := by
  induction hypotheses with
  | nil => exact .nil
  | cons h rest ih =>
    rw [List.forall_mem_cons] at hreason
    obtain ⟨reason, hh⟩ := Option.isSome_iff_exists.mp hreason.1
    rw [List.filterMap_cons, hh]
    exact .cons ⟨reason, hh, rfl⟩ (ih hreason.2)

theorem forall₂_rejections {l : Ledger} (hl : l.IsLawful) (hexhausted : l.isExhausted = true) :
    List.Forall₂ IsRejectionOf l.hypotheses l.rejections :=
  forall₂_filterMap_rejection fun h hh =>
    (hl.rejection_iff h hh).mpr ((isExhausted_iff.mp hexhausted).2 h hh)

/-! ### The order of selections -/

theorem isLawful_of_start {start : Ledger} (hstart : start = empty ∨ start = blank) : start.IsLawful := by
  rcases hstart with rfl | rfl
  · exact isLawful_empty
  · exact isLawful_blank

theorem inOrder_of_start {start : Ledger} (hstart : start = empty ∨ start = blank) : start.InOrder := by
  rcases hstart with rfl | rfl <;> exact .nil

theorem begun_of_start {start : Ledger} (hstart : start = empty ∨ start = blank) : start.begun = [] := by
  rcases hstart with rfl | rfl <;> rfl

/-- Whatever calls a new ledger serves: the hypotheses that it selects have identifiers that go up, and they
are those that have left the status they were registered with; when one is selected, all that were proposed
before it have left it already, and none of them gets back to it. Nothing is selected if and only if nothing
is being worked on and nothing is proposed; so it is when all are rejected, and then there is one reason for
each hypothesis, in the order in which they were proposed. -/
theorem ledger_selects_in_order {start : Ledger} (hstart : start = empty ∨ start = blank)
    (requests : List Request) :
    let l := start.serveAll requests
    let selected := (start.selections requests).map Hypothesis.id
    selected.Pairwise (· < ·) ∧
    selected = (l.hypotheses.filter (·.status ≠ .proposed)).map Hypothesis.id ∧
    (∀ h l', l.selectNext = .ok (some (h, l')) →
      (∀ x ∈ l.hypotheses, x.id < h.id → x.status ≠ .proposed) ∧
      ∀ more, ∀ x ∈ (l'.serveAll more).hypotheses, x.id ≤ h.id → x.status ≠ .proposed) ∧
    (l.selectNext = .ok none ↔ l.active? = none ∧ ∀ h ∈ l.hypotheses, h.status ≠ .proposed) ∧
    (l.isExhausted = true →
      l.selectNext = .ok none ∧ List.Forall₂ IsRejectionOf l.hypotheses l.rejections) := by
  intro l selected
  have hlawful : l.IsLawful := (isLawful_of_start hstart).serveAll requests
  have horder : l.InOrder := inOrder_serveAll requests start (inOrder_of_start hstart)
  have hselected : selected = l.begun.map Hypothesis.id := by
    rw [ids_begun_serveAll requests start (inOrder_of_start hstart), begun_of_start hstart]
    rfl
  refine ⟨?_, hselected, fun h l' hselect => ⟨?_, ?_⟩, selectNext_eq_none_iff, fun hexhausted => ⟨?_, ?_⟩⟩
  · rw [hselected]
    exact hlawful.pairwise_ids_begun
  · exact begun_of_selectNext hlawful hselect
  · exact begun_serveAll_of_selectNext hlawful horder hselect
  · exact selectNext_of_isExhausted hexhausted
  · exact forall₂_rejections hlawful hexhausted

/-- Two selections, a late proposal, and a third selection; calls that are refused stand between them. -/
def threeSelections : List Request :=
  [.add ["a", "b"], .selectNext, .selectNext, .work 1 (.reject "no"), .selectNext, .add ["c", "a"],
    .work 2 (.attempt []), .work 2 (.reject "nor this"), .work 1 .accept, .selectNext,
    .work 3 (.reject "nor that"), .selectNext]

theorem ledger_selects_threeSelections :
    let l := blank.serveAll threeSelections
    (blank.selections threeSelections).map Hypothesis.id = [1, 2, 3] ∧
    [1, 2, 3].Pairwise (· < ·) ∧
    l.selectNext = .ok none ∧
    List.Forall₂ IsRejectionOf
      [⟨1, "a", .rejected, [], some "no"⟩, ⟨2, "b", .rejected, [], some "nor this"⟩,
        ⟨3, "c", .rejected, [], some "nor that"⟩]
      ["a: no", "b: nor this", "c: nor that"] := by
  have hselected : (blank.selections threeSelections).map Hypothesis.id = [1, 2, 3] := by decide +kernel
  have hhypotheses : (blank.serveAll threeSelections).hypotheses =
      [⟨1, "a", .rejected, [], some "no"⟩, ⟨2, "b", .rejected, [], some "nor this"⟩,
        ⟨3, "c", .rejected, [], some "nor that"⟩] := by decide +kernel
  have hrejections : (blank.serveAll threeSelections).rejections =
      ["a: no", "b: nor this", "c: nor that"] := by decide +kernel
  obtain ⟨hsorted, -, -, -, hexhausted⟩ := ledger_selects_in_order (.inr rfl) threeSelections
  obtain ⟨hnone, hreasons⟩ := hexhausted (by decide +kernel)
  rw [hselected] at hsorted
  rw [hhypotheses, hrejections] at hreasons
  exact ⟨hselected, hsorted, hnone, hreasons⟩

end TextRepair.Ledger
