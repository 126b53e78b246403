import TextRepair.Proofs.Apply.Refusal
import TextRepair.Proofs.Locate.Exact
import Mathlib.Data.List.Chain

/-!
# Applying a correct diff

A site is a hunk together with the line of the old document where it belongs. If the sites of a diff
follow one another and each hunk's anchor stands at its line, the diff applies literally: every hunk
goes to its line, moved by what the hunks before it have added and taken away, and the texts become the
old ones with each anchor replaced (`apply_sites`). It does not matter whether the anchors also occur
elsewhere.

The invariant (`Progress.At`) splits the document so far into the part that is done and the old lines
from `done` on, and says that the shifts move each of these old lines to where it stands now. So the
next hunk is looked for exactly where it is, and its occurrence there has distance 0 from the hint.

Line numbers are moved as machine words. No sum wraps around as long as such a word counts the lines of the
document together with those that the hunks put in, which are all in memory at the same time.
-/

namespace TextRepair

open Locate

/-- `h` belongs at line `start` of `lines`: its anchor stands there, which its hint says, or it only
inserts and its insertion point is that line. -/
inductive Hunk.BelongsAt (lines : List String) (start : Nat) (h : Hunk) : Prop
  | anchored (hvisible : ∃ line ∈ h.anchor, Text.isBlankText line = false)
      (hocc : OccursAt lines h.anchor start) (hhint : h.hint = some start)
  | insertion (hanchor : h.anchor = []) (hpoint : h.insertionPoint = some start)
      (hstart : start ≤ lines.length)

/-- A hunk and the line of the old document where it belongs. -/
structure Site where
  line : Nat
  hunk : Hunk

namespace Site

/-- The first line after the site. -/
def stop (s : Site) : Nat :=
  s.line + s.hunk.anchor.length

/-- How many lines the site adds to the document, less those that it takes away. -/
def growth (s : Site) : Int :=
  (s.hunk.replacement.length : Int) - s.hunk.anchor.length

end Site

/-- The sites of a correct diff of `lines`: each hunk belongs at its line, its lines have no line feed,
and no site starts before the one ahead of it has ended. -/
structure AreSites (lines : List String) (sites : List Site) : Prop where
  belongs : ∀ s ∈ sites, s.hunk.BelongsAt lines s.line
  unbroken : ∀ s ∈ sites, ∀ line ∈ s.hunk.anchor ++ s.hunk.replacement, '\n' ∉ line.toList
  ordered : sites.IsChain fun s t => s.stop ≤ t.line

/-- The lines from `done` on with the anchor of each site replaced. -/
def rewritten (lines : List String) (done : Nat) : List Site → List String
  | [] => lines.drop done
  | s :: rest =>
    slice lines done (s.line - done) ++ s.hunk.replacement ++ rewritten lines s.stop rest

/-! ### Lines after some changes -/

/-- A line number after some changes; unlike `shiftLine` it may be negative. -/
def moved (line : Int) (shifts : List Shift) : Int :=
  shifts.foldl (fun n s => if (s.start : Int) ≤ n then Word.addSigned n s.delta else n) line

theorem shiftLine_eq {line : Nat} (hline : line < lineBound) (shifts : List Shift) :
    shiftLine line shifts = (moved line shifts).toNat := by
  rw [shiftLine, if_pos hline, moved]

theorem moved_append_singleton (line : Int) (shifts : List Shift) (s : Shift) :
    moved line (shifts ++ [s])
      = if (s.start : Int) ≤ moved line shifts then Word.addSigned (moved line shifts) s.delta
        else moved line shifts := by
  rw [moved, List.foldl_append]
  rfl

/-! ### The checks before the search -/

theorem Hunk.BelongsAt.occursAt {lines : List String} {start : Nat} {h : Hunk}
    (hbelongs : h.BelongsAt lines start) : OccursAt lines h.anchor start := by
  cases hbelongs with
  | anchored hvisible hocc hhint => exact hocc
  | insertion hanchor hpoint hstart =>
    rw [hanchor]
    exact ⟨hstart, List.take_zero⟩

theorem Hunk.BelongsAt.length_slice {lines : List String} {start done : Nat} {h : Hunk}
    (hbelongs : h.BelongsAt lines start) (hle : done ≤ start) :
    (slice lines done (start - done)).length = start - done := by
  have := hbelongs.occursAt.1
  exact Locate.length_slice (by omega)

theorem Hunk.BelongsAt.check_eq_ok {lines : List String} {start : Nat} {h : Hunk}
    (hbelongs : h.BelongsAt lines start)
    (hunbroken : ∀ line ∈ h.anchor ++ h.replacement, '\n' ∉ line.toList) (index : Nat) :
    h.check index = .ok () := by
  refine (h.check_eq_ok_iff index).mpr ⟨hunbroken, ?_⟩
  cases hbelongs with
  | anchored hvisible hocc hhint =>
    obtain ⟨line, hmem, hline⟩ := hvisible
    exact ⟨fun hnil => absurd hnil (List.ne_nil_of_mem hmem), fun _ => ⟨line, hmem, hline⟩⟩
  | insertion hanchor hpoint hstart =>
    exact ⟨fun _ => by simp [hpoint], fun hne => absurd hanchor hne⟩

variable {S : Type}

theorem Options.checkHunks_eq_ok (o : Options S) {hunks : List Hunk}
    (hmax : ∀ limit, o.maxHunks = some limit → hunks.length ≤ limit)
    (hcheck : ∀ h ∈ hunks, ∀ i, h.check i = .ok ()) : o.checkHunks hunks = .ok () := by
  refine (o.checkHunks_eq_ok_iff hunks).mpr ⟨?_, hcheck⟩
  rintro ⟨limit, hlimit, hlt⟩
  exact Nat.not_lt.mpr (hmax limit hlimit) hlt

/-! ### One hunk -/

/-- The application after the sites before line `done`: the lines `front` have taken the place of the
first `done` old lines, the others are still there, and the shifts move each of them to its place. -/
structure Progress.At (lines : List String) (done : Nat) (front : List String) (p : Progress S) :
    Prop where
  texts : p.document.texts = front ++ lines.drop done
  shift : ∀ line : Nat, done ≤ line → line ≤ lines.length →
    moved line p.shifts = (front.length : Int) + ((line : Int) - done)

/-- The report on a hunk that has been placed at line `start`. -/
def HunkReport.IsPlacedAt (h : Hunk) (start : Int) (r : HunkReport S) : Prop :=
  r.matched = true ∧ ∃ c : Candidate S, r.candidate = some c ∧ (c.start : Int) = start ∧
    c.stop = c.start + h.anchor.length ∧
    c.strategy = if h.anchor = [] then .insertion else .exact

namespace Progress.At

variable {lines front : List String} {done : Nat} {p : Progress S}

theorem size_eq (hat : p.At lines done front) :
    p.document.size = front.length + (lines.length - done) := by
  rw [← Document.length_texts, hat.texts, List.length_append, List.length_drop]

theorem shiftLine_eq (hat : p.At lines done front) {line : Nat} (hle : done ≤ line)
    (hinside : line ≤ lines.length) (hlines : lines.length < lineBound) :
    shiftLine line p.shifts = front.length + (line - done) := by
  rw [TextRepair.shiftLine_eq (hinside.trans_lt hlines), hat.shift line hle hinside]
  omega

theorem drop_texts (hat : p.At lines done front) {line : Nat} (hle : done ≤ line) :
    p.document.texts.drop (front.length + (line - done)) = lines.drop line := by
  rw [hat.texts, List.drop_length_add_append, List.drop_drop, Nat.add_sub_of_le hle]

theorem occursAt (hat : p.At lines done front) {anchor : List String} {line : Nat}
    (hle : done ≤ line) (hocc : OccursAt lines anchor line) :
    OccursAt p.document.texts anchor (front.length + (line - done)) := by
  obtain ⟨hend, hslice⟩ := hocc
  refine ⟨?_, ?_⟩
  · rw [Document.length_texts, hat.size_eq]
    omega
  · rw [slice, hat.drop_texts hle]
    exact hslice

end Progress.At

variable [Score S]

omit [Score S] in
theorem Options.matchers_of_exact (o : Options S) (hfirst : o.order.head? = some .exact) :
    ∃ rest, o.matchers = .exact :: rest := by
  obtain ⟨rest, horder⟩ := List.head?_eq_some_iff.mp hfirst
  refine ⟨rest.filterMap o.matcher?, ?_⟩
  rw [matchers, horder]
  rfl

theorem Options.locate_of_scan_exact (o : Options S) (hfirst : o.order.head? = some .exact)
    {d : Document} {h : Hunk} {hint : Option Nat} {found : Scan S}
    (hfound : (Matcher.exact : Matcher S).scan d h.anchor hint = some found) :
    o.locate d h hint = (some found.candidate, [⟨.exact, some found.candidate.confidence⟩]) := by
  obtain ⟨rest, hmatchers⟩ := o.matchers_of_exact hfirst
  rw [locate, hmatchers, locateWith, hfound]
  rfl

theorem Options.locate_of_scan_exact_none (o : Options S) (hfirst : o.order.head? = some .exact)
    {d : Document} {h : Hunk} {hint : Option Nat}
    (hnone : (Matcher.exact : Matcher S).scan d h.anchor hint = none) :
    ∃ found attempts, o.locate d h hint = (found, ⟨.exact, none⟩ :: attempts) := by
  obtain ⟨rest, hmatchers⟩ := o.matchers_of_exact hfirst
  rw [locate, hmatchers, locateWith, hnone]
  exact ⟨_, _, rfl⟩

theorem Progress.place_of_occursAt {lines : List String} {line start : Nat} {p : Progress S}
    (o : Options S) (hfirst : o.order.head? = some .exact)
    (hnear : Score.near (Score.ofNat 1 : S) (Score.ofNat 1) = true) {h : Hunk}
    (hbelongs : h.BelongsAt lines line) (hshift : shiftLine line p.shifts = start)
    (hocc : OccursAt p.document.texts h.anchor start) :
    ∃ (c : Candidate S) (attempts : List (Attempt S)), p.place o h = (some c, attempts) ∧
      c.start = start ∧ c.stop = start + h.anchor.length ∧
      c.strategy = if h.anchor = [] then .insertion else .exact := by
  cases hbelongs with
  | anchored hvisible _ hhint =>
    obtain ⟨text, hmem, -⟩ := hvisible
    have hne : h.anchor ≠ [] := List.ne_nil_of_mem hmem
    obtain ⟨found, hfound, hstart, hstop, hstrategy⟩ :=
      Matcher.scan_exact_at_hint hnear p.document hne hocc
    have hplace := p.place_of_anchor o hne
    rw [hhint, Option.map_some, hshift, o.locate_of_scan_exact hfirst hfound] at hplace
    exact ⟨_, _, hplace, hstart, hstop, by rw [if_neg hne, hstrategy]⟩
  | insertion hanchor hpoint _ =>
    have hplace : p.place o h = insertionAt line p.document.size p.shifts := by
      rw [Progress.place, hpoint]
      simp only [Hunk.isInsertion, hanchor, List.isEmpty_nil, if_true]
    have hmin : min (shiftLine line p.shifts) p.document.size = start := by
      rw [hshift, ← Document.length_texts]
      exact Nat.min_eq_left (Nat.le_of_add_right_le hocc.1)
    refine ⟨_, _, hplace, hmin, ?_, ?_⟩
    · rw [hanchor]
      exact hmin
    · rw [if_pos hanchor]

/-- One hunk: its replacement takes the place of its anchor. -/
theorem Progress.step_of_occursAt {lines : List String} {line start : Nat} {p : Progress S}
    (o : Options S) (hfirst : o.order.head? = some .exact)
    (hnear : Score.near (Score.ofNat 1 : S) (Score.ofNat 1) = true) {h : Hunk}
    (hbelongs : h.BelongsAt lines line) (hshift : shiftLine line p.shifts = start)
    (hocc : OccursAt p.document.texts h.anchor start) :
    (p.step o h).document.texts = p.document.texts.take start ++ h.replacement ++
        p.document.texts.drop (start + h.anchor.length) ∧
      (p.step o h).shifts
        = p.shifts ++ [⟨start, (h.replacement.length : Int) - h.anchor.length⟩] ∧
      ∃ r : HunkReport S, (p.step o h).reports = p.reports ++ [r] ∧ r.IsPlacedAt h start := by
  obtain ⟨c, attempts, hplace, hstart, hstop, hstrategy⟩ :=
    p.place_of_occursAt o hfirst hnear hbelongs hshift hocc
  obtain ⟨hinside, hslice⟩ := hocc
  have hsize : p.document.size = p.document.texts.length := (Document.length_texts _).symm
  have hspan : (p.document.texts.drop start).take (start + h.anchor.length - start) = h.anchor := by
    rw [Nat.add_sub_cancel_left]
    exact hslice
  have htexts := Document.texts_spliceHunk p.document h o.reindent (Nat.le_add_right start _)
    (hsize ▸ hinside) hspan
  have hgrown : ((p.document.spliceHunk start (start + h.anchor.length) h o.reindent).size : Int)
      - p.document.size = (h.replacement.length : Int) - h.anchor.length := by
    have hlength := congrArg List.length htexts
    simp only [Document.length_texts, List.length_append, List.length_take, List.length_drop] at hlength
    omega
  have hstep : p.step o h = ⟨p.document.spliceHunk start (start + h.anchor.length) h o.reindent,
      p.shifts ++ [⟨start, (h.replacement.length : Int) - h.anchor.length⟩],
      p.reports ++ [.placed p.reports.length c attempts]⟩ := by
    simp only [Progress.step, hplace, hstart, hstop, hgrown]
  rw [hstep]
  exact ⟨htexts, rfl, _, rfl, rfl, c, rfl, congrArg Nat.cast hstart, by rw [hstop, hstart], hstrategy⟩

/-- One hunk: what is done grows by the old lines before the site and by its replacement. -/
theorem Progress.At.step {lines front : List String} {done : Nat} {p : Progress S}
    (hat : p.At lines done front) (o : Options S) (hfirst : o.order.head? = some .exact)
    (hnear : Score.near (Score.ofNat 1 : S) (Score.ofNat 1) = true) {s : Site}
    (hbelongs : s.hunk.BelongsAt lines s.line) (hle : done ≤ s.line) (hlines : lines.length < lineBound)
    (hroom : front.length + (lines.length - done) + s.hunk.replacement.length < lineBound) :
    (p.step o s.hunk).At lines s.stop
        (front ++ slice lines done (s.line - done) ++ s.hunk.replacement) ∧
      ∃ r : HunkReport S, (p.step o s.hunk).reports = p.reports ++ [r] ∧
        r.IsPlacedAt s.hunk (s.line + ((front.length : Int) - done)) := by
  have hend : s.stop ≤ lines.length := hbelongs.occursAt.1
  have hinside : s.line ≤ lines.length := (Nat.le_add_right _ _).trans hend
  obtain ⟨htexts, hshifts, r, hreports, hplaced⟩ := p.step_of_occursAt o hfirst hnear hbelongs
    (hat.shiftLine_eq hle hinside hlines) (hat.occursAt hle hbelongs.occursAt)
  have hstart : ((front.length + (s.line - done) : Nat) : Int)
      = s.line + ((front.length : Int) - done) := by omega
  have hkept := hbelongs.length_slice hle
  have hlestop : done ≤ s.stop := Nat.le_add_right_of_le hle
  refine ⟨⟨?_, fun line hafter hline => ?_⟩, r, hreports, hstart ▸ hplaced⟩
  · have hstop : front.length + (s.line - done) + s.hunk.anchor.length
        = front.length + (s.stop - done) := by
      unfold Site.stop
      omega
    rw [htexts, hstop, hat.drop_texts hlestop, hat.texts, List.take_length_add_append]
    rfl
  · have hmoved := hat.shift line (hlestop.trans hafter) hline
    unfold Site.stop at hafter
    unfold lineBound at hroom
    rw [hshifts, moved_append_singleton, hmoved, if_pos (by simp only; omega),
      Word.addSigned_of_lt (by simp only; omega) (by simp only; omega)]
    simp only [List.length_append, hkept, Site.stop]
    omega

/-! ### All hunks -/

/-- The growth of all sites of a list. -/
def totalGrowth (sites : List Site) : Int :=
  (sites.map Site.growth).sum

/-- How many lines the sites of a list put in. -/
def linesPutIn (sites : List Site) : Nat :=
  (sites.map fun s => s.hunk.replacement.length).sum

theorem linesPutIn_cons (s : Site) (rest : List Site) :
    linesPutIn (s :: rest) = s.hunk.replacement.length + linesPutIn rest :=
  List.sum_cons

theorem Progress.At.foldl_step {lines : List String} (o : Options S)
    (hfirst : o.order.head? = some .exact)
    (hnear : Score.near (Score.ofNat 1 : S) (Score.ofNat 1) = true) (hlines : lines.length < lineBound)
    (sites : List Site) :
    ∀ (front : List String) (done : Nat) (p : Progress S), p.At lines done front →
      (∀ s ∈ sites, s.hunk.BelongsAt lines s.line) →
      front.length + (lines.length - done) + linesPutIn sites < lineBound →
      (∀ s ∈ sites.head?, done ≤ s.line) → (sites.IsChain fun s t => s.stop ≤ t.line) →
      ((sites.map Site.hunk).foldl (Progress.step o) p).document.texts
          = front ++ rewritten lines done sites ∧
        ∃ rs : List (HunkReport S),
          ((sites.map Site.hunk).foldl (Progress.step o) p).reports = p.reports ++ rs ∧
          rs.length = sites.length ∧
          ∀ (i : Nat) (s : Site), sites[i]? = some s → ∃ r : HunkReport S, rs[i]? = some r ∧
            r.IsPlacedAt s.hunk
              (s.line + ((front.length : Int) - done) + totalGrowth (sites.take i)) := by
  induction sites with
  | nil =>
    intro front done p hat _ _ _ _
    exact ⟨hat.texts, [], by simp, rfl, by simp⟩
  | cons s rest ih =>
    intro front done p hat hbelongs hroom hhead hchain
    obtain ⟨hnext, hrest⟩ := List.isChain_cons.mp hchain
    have hle : done ≤ s.line := hhead s rfl
    have hend : s.stop ≤ lines.length := (hbelongs s List.mem_cons_self).occursAt.1
    have hkept := (hbelongs s List.mem_cons_self).length_slice hle
    rw [linesPutIn_cons] at hroom
    have hroom' : (front ++ slice lines done (s.line - done) ++ s.hunk.replacement).length
        + (lines.length - s.stop) + linesPutIn rest < lineBound := by
      simp only [List.length_append, hkept]
      unfold Site.stop at hend ⊢
      omega
    obtain ⟨hat', r, hreports, hplaced⟩ := hat.step o hfirst hnear
      (hbelongs s List.mem_cons_self) hle hlines (by omega)
    obtain ⟨htexts, rs, hall, hlength, hrs⟩ := ih _ _ _ hat'
      (fun t ht => hbelongs t (List.mem_cons_of_mem _ ht)) hroom' hnext hrest
    refine ⟨?_, r :: rs, ?_, by rw [List.length_cons, hlength, List.length_cons], ?_⟩
    · rw [List.map_cons, List.foldl_cons, htexts, rewritten]
      simp only [List.append_assoc]
    · rw [List.map_cons, List.foldl_cons, hall, hreports]
      simp
    · intro i t ht
      cases i with
      | zero =>
        obtain rfl : s = t := by simpa using ht
        exact ⟨r, rfl, by simpa [totalGrowth] using hplaced⟩
      | succ i =>
        obtain ⟨r', hr', hplaced'⟩ := hrs i t (by simpa using ht)
        refine ⟨r', by simpa using hr', ?_⟩
        have hstart : (t.line : Int) + ((front.length : Int) - done)
              + totalGrowth ((s :: rest).take (i + 1))
            = t.line + (((front ++ slice lines done (s.line - done)
                ++ s.hunk.replacement).length : Int) - s.stop) + totalGrowth (rest.take i) := by
          simp only [totalGrowth, List.take_succ_cons, List.map_cons, List.sum_cons, Site.growth,
            Site.stop, List.length_append, hkept]
          omega
        rw [hstart]
        exact hplaced'

/-- A correct diff applies literally. Every hunk is placed at its line, moved by the growth of the hunks
before it, and where it has an anchor the verbatim search has placed it. A signed machine word counts the
lines of any document and any hunks that are in memory. -/
theorem apply_sites (o : Options Float) (d : Document) (sites : List Site)
    (hfirst : o.order.head? = some .exact)
    (hmax : ∀ limit, o.maxHunks = some limit → sites.length ≤ limit)
    (hroom : d.size + linesPutIn sites < lineBound) (hsites : AreSites d.texts sites) :
    ∃ outcome : Outcome Float, o.apply d (sites.map Site.hunk) = .ok outcome ∧
      outcome.success = true ∧ outcome.document.texts = rewritten d.texts 0 sites ∧
      outcome.reports.length = sites.length ∧
      ∀ (i : Nat) (s : Site), sites[i]? = some s → ∃ r, outcome.reports[i]? = some r ∧
        r.IsPlacedAt s.hunk (s.line + totalGrowth (sites.take i)) := by
  have hcheck : o.checkHunks (sites.map Site.hunk) = .ok () := by
    refine o.checkHunks_eq_ok (by simpa using hmax) fun h hh index => ?_
    obtain ⟨s, hs, rfl⟩ := List.mem_map.mp hh
    exact (hsites.belongs s hs).check_eq_ok (hsites.unbroken s hs) index
  have hat : Progress.At d.texts 0 [] (⟨d, [], []⟩ : Progress Float) :=
    ⟨rfl, fun line _ _ => by simp [moved]⟩
  rw [← Document.length_texts] at hroom
  obtain ⟨htexts, rs, hreports, hlength, hrs⟩ := hat.foldl_step o hfirst rfl (by omega) sites [] 0 _
    hsites.belongs (by simpa using hroom) (fun _ _ => Nat.zero_le _) hsites.ordered
  rw [List.nil_append] at hreports htexts
  have hmatched : rs.all (·.matched) = true := by
    rw [List.all_eq_true]
    intro r hr
    obtain ⟨i, hi, rfl⟩ := List.mem_iff_getElem.mp hr
    obtain ⟨r', hr', hplaced⟩ := hrs i sites[i] (List.getElem?_eq_getElem (by omega))
    rw [List.getElem?_eq_getElem hi, Option.some.injEq] at hr'
    rw [hr']
    exact hplaced.1
  refine ⟨⟨rs, _, true⟩, ?_, rfl, htexts, hlength, fun i s hs => ?_⟩
  · rw [Options.apply, hcheck]
    simp only [hreports, hmatched]
    rfl
  · obtain ⟨r, hr, hplaced⟩ := hrs i s hs
    exact ⟨r, hr, by simpa using hplaced⟩

/-- A diff whose last anchor also stands where the document begins, and in lines that the first hunk
puts in. -/
def repeatedSites : List Site :=
  [⟨0, ⟨["a"], ["a", "b", "a"], some 0, none⟩⟩, ⟨1, ⟨[], ["c"], none, some 1⟩⟩,
    ⟨2, ⟨["a", "b"], ["b"], some 2, none⟩⟩]

theorem apply_repeatedSites :
    AreSites ["a", "b", "a", "b"] repeatedSites ∧
    ∃ outcome : Outcome Float,
      Options.standard.apply ⟨[⟨"a", .lf⟩, ⟨"b", .lf⟩, ⟨"a", .crlf⟩, ⟨"b", .none⟩]⟩
          (repeatedSites.map Site.hunk) = .ok outcome ∧
        outcome.document.texts = ["a", "b", "a", "c", "b", "b"] := by
  have hsites : AreSites ["a", "b", "a", "b"] repeatedSites := by
    refine ⟨?_, by decide, by simp [repeatedSites, Site.stop]⟩
    simp only [repeatedSites, List.forall_mem_cons, List.not_mem_nil, false_imp_iff, implies_true,
      and_true]
    exact ⟨.anchored (by decide) (by decide) rfl, .insertion rfl rfl (by decide),
      .anchored (by decide) (by decide) rfl⟩
  obtain ⟨outcome, happly, -, htexts, -⟩ := apply_sites Options.standard
    ⟨[⟨"a", .lf⟩, ⟨"b", .lf⟩, ⟨"a", .crlf⟩, ⟨"b", .none⟩]⟩ repeatedSites rfl nofun (by decide) hsites
  exact ⟨hsites, outcome, happly, htexts⟩

end TextRepair
