import TextRepair.Proofs.Apply.Atomic
import TextRepair.Proofs.Apply.Slots

/-!
# Hunks in any order

Hunks that are about different parts of a document, and are given in its own coordinates, lead to the same
texts in every order in which no lines are put in before a range of lines after that range has changed its
length (`apply_independent`). The invariant of the run (`Progress.Follows`) says that the document so far is
the old one edited by the sites that are done, and that the shifts move every site to come to where it stands;
machine words suffice for that, which count all lines that there are.

In the other orders a hunk for lines that go before a range is applied where the shift of the range has taken
them, which is neither before the range nor behind it (`not_apply_swapped`).
-/

namespace TextRepair

open Locate

/-! ### Sites one after another -/

theorem linesPutIn_perm {sites sites' : List Site} (hperm : sites'.Perm sites) :
    linesPutIn sites' = linesPutIn sites :=
  (hperm.map _).sum_eq

variable {S : Type}

/-- The application after the sites `done`, with the sites `rest` to come. -/
structure Progress.Follows (lines : List String) (done rest : List Site) (p : Progress S) : Prop where
  texts : p.document.texts = edited lines done
  moved : ∀ t ∈ rest, moved t.line p.shifts = t.place lines done
  matched : ∀ r ∈ p.reports, r.matched = true
  room : (edited lines done).length + linesPutIn rest < lineBound

variable [Score S]

theorem Progress.Follows.step {lines : List String} {done rest : List Site} {s : Site} {p : Progress S}
    (hfollows : p.Follows lines done (s :: rest)) (o : Options S) (hfirst : o.order.head? = some .exact)
    (hnear : Score.near (Score.ofNat 1 : S) (Score.ofNat 1) = true)
    (hbelongs : ∀ t ∈ s :: rest, t.hunk.BelongsAt lines t.line) (hlines : lines.length < lineBound)
    (hdone : ∀ u ∈ done, ∀ t ∈ s :: rest, u.Apart t ∧ u.MayPrecede t)
    (hrest : ∀ t ∈ rest, s.Apart t ∧ s.MayPrecede t) :
    (p.step o s.hunk).Follows lines (done ++ [s]) rest := by
  have hsites : ∀ u ∈ done, u.Apart s := fun u hu => (hdone u hu s List.mem_cons_self).1
  have hs := hbelongs s List.mem_cons_self
  have hline : s.line ≤ lines.length := (Nat.le_add_right _ _).trans hs.occursAt.1
  have hshift : shiftLine s.line p.shifts = s.place lines done := by
    rw [shiftLine_eq (hline.trans_lt hlines), hfollows.moved s List.mem_cons_self, Int.toNat_natCast]
  have hocc := hfollows.texts ▸ occursAt_edited hs hsites
  obtain ⟨htexts, hshifts, r, hreports, hplaced⟩ :=
    p.step_of_occursAt o hfirst hnear hs hshift hocc
  have hroom : (edited lines (done ++ [s])).length + linesPutIn rest < lineBound := by
    have hroom := hfollows.room
    rw [linesPutIn_cons, edited_eq hs hsites] at hroom
    rw [edited_append hs hsites]
    simp only [List.length_append] at hroom ⊢
    omega
  refine ⟨?_, fun t ht => ?_, fun r' hr' => ?_, hroom⟩
  · rw [htexts, hfollows.texts, edited_append hs hsites, edited_eq hs hsites, Site.place,
      ← List.length_append, List.drop_left, List.append_assoc _ s.hunk.anchor, List.take_left]
  · obtain ⟨hapart, hprecede⟩ := hrest t ht
    have ht' := List.mem_cons_of_mem s ht
    have hplace := place_append hs (hbelongs t ht') hsites (fun u hu => hdone u hu t ht') hapart hprecede
    have hfits := place_le_length (hbelongs t ht') (done ++ [s])
    rw [hshifts, moved_append_singleton, hfollows.moved t ht', hplace]
    split_ifs at hplace ⊢ with hle
    · rw [Site.growth] at hplace ⊢
      unfold lineBound at hroom
      exact Word.addSigned_of_lt (by simp only; omega) (by simp only; omega)
    · rfl
  · rw [hreports] at hr'
    rcases List.mem_append.mp hr' with hr' | hr'
    · exact hfollows.matched r' hr'
    · rw [List.mem_singleton.mp hr']
      exact hplaced.1

theorem Progress.Follows.foldl_step {lines : List String} (o : Options S)
    (hfirst : o.order.head? = some .exact)
    (hnear : Score.near (Score.ofNat 1 : S) (Score.ofNat 1) = true) (hlines : lines.length < lineBound)
    (rest : List Site) :
    ∀ {done : List Site} {p : Progress S}, p.Follows lines done rest →
      (∀ t ∈ rest, t.hunk.BelongsAt lines t.line) →
      (done ++ rest).Pairwise (fun s t => s.Apart t ∧ s.MayPrecede t) →
      ((rest.map Site.hunk).foldl (Progress.step o) p).Follows lines (done ++ rest) [] := by
  induction rest with
  | nil =>
    intro done p hfollows _ _
    rwa [List.append_nil]
  | cons s rest ih =>
    intro done p hfollows hbelongs hpairs
    obtain ⟨-, hrest, hdone⟩ := List.pairwise_append.mp hpairs
    have hstep := hfollows.step o hfirst hnear hbelongs hlines hdone
      (List.pairwise_cons.mp hrest).1
    rw [List.append_cons] at hpairs ⊢
    exact ih hstep (fun t ht => hbelongs t (List.mem_cons_of_mem s ht)) hpairs

/-! ### Any order -/

/-- Hunks for different parts of a document, in the document's own coordinates. -/
structure AreIndependent (lines : List String) (sites : List Site) : Prop where
  belongs : ∀ s ∈ sites, s.hunk.BelongsAt lines s.line
  apart : sites.Pairwise Site.Apart

/-- Independent hunks are refused in every order or in none. They are applied with the same result in every
order in which no insertion comes after a hunk that starts at its very line and adds or takes away lines. A
signed machine word counts the lines of any document and any hunks that are in memory. -/
theorem apply_independent (o : Options Float) (d : Document) (hfirst : o.order.head? = some .exact)
    {sites : List Site} (hroom : d.size + linesPutIn sites < lineBound)
    (hsites : AreIndependent d.texts sites) {sites' : List Site} (hperm : sites'.Perm sites) :
    ((∃ e, o.apply d (sites'.map Site.hunk) = .error e) ↔
      (∃ limit, o.maxHunks = some limit ∧ limit < sites.length) ∨
        ∃ s ∈ sites, ∃ line ∈ s.hunk.anchor ++ s.hunk.replacement, '\n' ∈ line.toList) ∧
    ∀ outcome, o.apply d (sites'.map Site.hunk) = .ok outcome → sites'.Pairwise Site.MayPrecede →
      outcome.success = true ∧ outcome.document.texts = edited d.texts sites := by
  have hbelongs : ∀ s ∈ sites', s.hunk.BelongsAt d.texts s.line :=
    fun s hs => hsites.belongs s (hperm.mem_iff.mp hs)
  have hlength : (sites'.map Site.hunk).length = sites.length := by
    rw [List.length_map, hperm.length_eq]
  refine ⟨⟨?_, ?_⟩, fun outcome happly horder => ?_⟩
  · rintro ⟨e, happly⟩
    rcases o.apply_cases d (sites'.map Site.hunk) with ⟨e, -, hrefuses⟩ | ⟨outcome, hok, -⟩
    · rcases hrefuses.cause with ⟨limit, hlimit, hlt⟩ | ⟨h, hh, index, e, hfault⟩
      · exact .inl ⟨limit, hlimit, hlength ▸ hlt⟩
      · right
        by_contra hunbroken
        push Not at hunbroken
        obtain ⟨s, hs, rfl⟩ := List.mem_map.mp hh
        have hwell := (hbelongs s hs).check_eq_ok (hunbroken s (hperm.mem_iff.mp hs)) index
        exact absurd (hwell.symm.trans hfault) nofun
    · exact absurd (happly.symm.trans hok) nofun
  · intro hfault
    rcases o.apply_cases d (sites'.map Site.hunk) with ⟨e, happly, -⟩ | ⟨outcome, -, hfits, hwell, -⟩
    · exact ⟨e, happly⟩
    · rcases hfault with ⟨limit, hlimit, hlt⟩ | ⟨s, hs, line, hline, hfeed⟩
      · exact absurd ⟨limit, hlimit, hlength ▸ hlt⟩ hfits
      · have hmem : s.hunk ∈ sites'.map Site.hunk := List.mem_map_of_mem (hperm.mem_iff.mpr hs)
        exact absurd hfeed (((s.hunk.check_eq_ok_iff 0).mp (hwell s.hunk hmem 0)).1 line hline)
  · rw [← Document.length_texts, ← linesPutIn_perm hperm] at hroom
    have hstart : Progress.Follows d.texts [] sites' (⟨d, [], []⟩ : Progress Float) :=
      ⟨(edited_nil d.texts).symm, fun t ht => by rw [place_nil (hbelongs t ht)]; rfl, by simp,
        by rwa [edited_nil]⟩
    have hpairs : sites'.Pairwise fun s t => s.Apart t ∧ s.MayPrecede t :=
      ((hperm.pairwise_iff (fun {_ _} => Site.Apart.symm)).mpr hsites.apart).and horder
    have hrun := hstart.foldl_step o hfirst rfl (by omega) sites' hbelongs hpairs
    have hmatched := List.all_eq_true.mpr hrun.matched
    rw [List.nil_append] at hrun
    unfold Options.apply at happly
    cases hcheck : o.checkHunks (sites'.map Site.hunk) with
    | error e =>
      rw [hcheck] at happly
      cases happly
    | ok u =>
      rw [hcheck] at happly
      cases happly
      refine ⟨hmatched, ?_⟩
      simp only [hmatched, if_true]
      rw [hrun.texts, edited_perm hperm hsites.apart]

def frontSites : List Site :=
  [⟨0, ⟨["a"], [], some 0, none⟩⟩, ⟨1, ⟨[], ["y"], none, some 1⟩⟩]

def backSites : List Site :=
  [⟨2, ⟨[], ["z"], none, some 2⟩⟩, ⟨2, ⟨["a"], ["a", "c"], some 2, none⟩⟩]

/-- The hunks at the end of the document come first. -/
theorem apply_backSites_frontSites :
    AreIndependent ["a", "b", "a", "b"] (frontSites ++ backSites) ∧
    ∃ outcome : Outcome Float,
      Options.standard.apply (Document.parse "a\nb\na\nb\n")
          ((backSites ++ frontSites).map Site.hunk) = .ok outcome ∧
        outcome.success = true ∧ outcome.document.texts = ["y", "b", "z", "a", "c", "b"] := by
  have hsites : AreIndependent ["a", "b", "a", "b"] (frontSites ++ backSites) := by
    refine ⟨?_, by decide⟩
    simp only [frontSites, backSites, List.cons_append, List.nil_append, List.forall_mem_cons,
      List.not_mem_nil, false_imp_iff, implies_true, and_true]
    exact ⟨.anchored (by decide) (by decide) rfl, .insertion rfl rfl (by decide),
      .insertion rfl rfl (by decide), .anchored (by decide) (by decide) rfl⟩
  have hperm : (backSites ++ frontSites).Perm (frontSites ++ backSites) := List.perm_append_comm
  obtain ⟨-, hok⟩ := apply_independent Options.standard (Document.parse "a\nb\na\nb\n") rfl (by decide)
    hsites hperm
  obtain ⟨hsuccess, htexts⟩ := hok _ rfl (by decide)
  exact ⟨hsites, _, rfl, hsuccess, htexts.trans (by decide +kernel)⟩

/-- Lines that go before a line are put in after it has become two. -/
theorem not_apply_swapped :
    ¬∀ (d : Document) (sites sites' : List Site) (outcome outcome' : Outcome Float),
      AreIndependent d.texts sites → sites'.Perm sites →
      Options.standard.apply d (sites.map Site.hunk) = .ok outcome →
      Options.standard.apply d (sites'.map Site.hunk) = .ok outcome' →
      outcome'.document.texts = outcome.document.texts := by
  intro hclaim
  let s : Site := ⟨0, ⟨["a"], ["x", "y"], some 0, none⟩⟩
  let t : Site := ⟨0, ⟨[], ["i"], none, some 0⟩⟩
  have hsites : AreIndependent ["a", "b"] [t, s] := by
    refine ⟨?_, by decide⟩
    simp only [List.forall_mem_cons, List.not_mem_nil, false_imp_iff, implies_true, and_true]
    exact ⟨.insertion rfl rfl (by decide), .anchored (by decide) (by decide) rfl⟩
  have htexts := hclaim ⟨[⟨"a", .lf⟩, ⟨"b", .lf⟩]⟩ [t, s] [s, t] _ _ hsites (List.Perm.swap t s []) rfl rfl
  revert htexts
  decide +kernel

end TextRepair
