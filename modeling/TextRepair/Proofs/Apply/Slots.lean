import TextRepair.Proofs.Apply.Sites
import Mathlib.Data.List.Pairwise

/-!
# Changes by slots

A document of `n` lines has `2 * n + 1` slots: slot `2 * i` is the place before line `i`, slot `2 * i + 1` the
line itself. An insertion has the slot of its point, any other hunk has the slots from its first to its last
line. So hunks for different parts of the document have no slot in common (`Site.apart_iff`), and what the
document looks like after some hunks is told slot by slot, whatever the order of these hunks (`edited`). For
hunks in the order of the document, this is what `rewritten` tells line by line (`edited_eq_rewritten`).

A site to come has its anchor in its slots (`stretch_chunk_eq_anchor`), and where it stands is what the slots
before it hold (`Site.place`). Applying another site moves this place by the growth of that site if it is
ahead, and that is what a shift does, which compares places (`place_append`). Places are in the order of
slots, but two of them may coincide: a range of lines and the lines to be put in before it. This is the one
case in which the comparison goes wrong (`Site.MayPrecede`).
-/

namespace TextRepair

open Locate

/-! ### Slots -/

namespace Site

def slot (s : Site) : Nat :=
  if s.hunk.anchor = [] then 2 * s.line else 2 * s.line + 1

/-- The first slot after those of the site. -/
def slotStop (s : Site) : Nat :=
  if s.hunk.anchor = [] then 2 * s.line + 1 else 2 * s.stop

/-- Whether the site has the slot. -/
def Has (s : Site) (k : Nat) : Prop :=
  s.slot ≤ k ∧ k < s.slotStop

instance (s : Site) (k : Nat) : Decidable (s.Has k) :=
  inferInstanceAs (Decidable (_ ∧ _))

/-- Two hunks are about different parts of the document: ranges of lines have none in common, an insertion
point is not strictly inside of a range, and two insertion points differ. -/
def Apart (s t : Site) : Prop :=
  (s.stop ≤ t.line ∨ t.stop ≤ s.line) ∧ (s.hunk.anchor = [] → t.hunk.anchor = [] → s.line ≠ t.line)

/-- An insertion before the first line of a range is not applied after the range has changed its length. -/
def MayPrecede (s t : Site) : Prop :=
  s.hunk.anchor ≠ [] → t.hunk.anchor = [] → s.line = t.line → s.growth = 0

instance (s t : Site) : Decidable (s.Apart t) :=
  inferInstanceAs (Decidable (_ ∧ _))

instance (s t : Site) : Decidable (s.MayPrecede t) :=
  inferInstanceAs (Decidable (_ → _))

theorem Apart.symm {s t : Site} (h : s.Apart t) : t.Apart s :=
  ⟨h.1.symm, fun ht hs => (h.2 hs ht).symm⟩

instance : Std.Symm Apart :=
  ⟨fun _ _ => Apart.symm⟩

theorem apart_iff {s t : Site} : s.Apart t ↔ s.slotStop ≤ t.slot ∨ t.slotStop ≤ s.slot := by
  unfold Apart slot slotStop stop
  by_cases hs : s.hunk.anchor = [] <;> by_cases ht : t.hunk.anchor = []
  · simp only [hs, ht, if_true, List.length_nil, forall_const]
    omega
  · simp only [hs, ht, if_true, if_false, List.length_nil, false_imp_iff, implies_true, and_true]
    omega
  · simp only [hs, ht, if_true, if_false, List.length_nil, false_imp_iff, and_true]
    omega
  · simp only [hs, ht, if_false, false_imp_iff, and_true]
    omega

theorem slot_cases (s : Site) : s.slot = 2 * s.line ∨ s.slot = 2 * s.line + 1 := by
  unfold slot
  split_ifs
  · exact .inl rfl
  · exact .inr rfl

theorem slotStop_cases (s : Site) : s.slotStop = 2 * s.stop ∨ s.slotStop = 2 * s.stop + 1 := by
  unfold slotStop stop
  split_ifs with hs
  · rw [hs]
    exact .inr rfl
  · exact .inl rfl

theorem slot_lt_slotStop (s : Site) : s.slot < s.slotStop := by
  unfold slot slotStop stop
  split_ifs with hs
  · omega
  · have := List.length_pos_iff.mpr hs
    omega

theorem Apart.not_has {s t : Site} (h : s.Apart t) {k : Nat} (hs : s.Has k) : ¬t.Has k := by
  intro ht
  unfold Has at hs ht
  rcases apart_iff.mp h with h | h <;> omega

end Site

/-- What the document has in a slot at first. -/
def oldChunk (lines : List String) (k : Nat) : List String :=
  if k % 2 = 0 then [] else lines[k / 2]?.toList

/-- What the document has in a slot after the sites. -/
def chunk (lines : List String) (sites : List Site) (k : Nat) : List String :=
  match sites.find? fun s => s.Has k with
  | some s => if k = s.slot then s.hunk.replacement else []
  | none => oldChunk lines k

/-- The slots from `start` up to `stop`. -/
def stretch (f : Nat → List String) (start stop : Nat) : List String :=
  (List.range' start (stop - start)).flatMap f

/-- Where a site starts in the document after the sites. -/
def Site.place (s : Site) (lines : List String) (sites : List Site) : Nat :=
  (stretch (chunk lines sites) 0 s.slot).length

/-- The lines with the change of each site. -/
def edited (lines : List String) (sites : List Site) : List String :=
  stretch (chunk lines sites) 0 (2 * lines.length + 1)

theorem stretch_append (f : Nat → List String) {a b c : Nat} (hab : a ≤ b) (hbc : b ≤ c) :
    stretch f a b ++ stretch f b c = stretch f a c := by
  rw [stretch, stretch, stretch, ← List.flatMap_append]
  congr 1
  have := List.range'_append_1 (s := a) (m := b - a) (n := c - b)
  rw [Nat.add_sub_of_le hab] at this
  rw [this]
  congr 1
  omega

theorem stretch_congr {f g : Nat → List String} {a b : Nat} (h : ∀ k, a ≤ k → k < b → f k = g k) :
    stretch f a b = stretch g a b := by
  refine List.flatMap_congr fun k hk => ?_
  rw [List.mem_range'_1] at hk
  exact h k hk.1 (by omega)

theorem stretch_singleton (f : Nat → List String) (k : Nat) : stretch f k (k + 1) = f k := by
  rw [stretch, Nat.add_sub_cancel_left]
  exact List.flatMap_singleton f k

theorem oldChunk_even (lines : List String) (i : Nat) : oldChunk lines (2 * i) = [] :=
  if_pos (Nat.mul_mod_right 2 i)

theorem oldChunk_odd (lines : List String) (i : Nat) : oldChunk lines (2 * i + 1) = lines[i]?.toList := by
  have hodd : (2 * i + 1) % 2 ≠ 0 := by omega
  have hhalf : (2 * i + 1) / 2 = i := by omega
  rw [oldChunk, if_neg hodd, hhalf]

theorem stretch_oldChunk (lines : List String) (start size : Nat) :
    stretch (oldChunk lines) (2 * start) (2 * (start + size)) = slice lines start size := by
  induction size with
  | zero => simp [stretch, slice]
  | succ size ih =>
    have hlast : stretch (oldChunk lines) (2 * (start + size)) (2 * (start + (size + 1)))
        = lines[start + size]?.toList := by
      rw [← stretch_append _ (Nat.le_succ _) (by omega), stretch_singleton, oldChunk_even,
        ← oldChunk_odd, List.nil_append]
      exact stretch_singleton _ _
    rw [← stretch_append _ (b := 2 * (start + size)) (by omega) (by omega), ih, hlast, slice, slice,
      List.take_add_one, List.getElem?_drop]

theorem stretch_oldChunk_eq_slice (lines : List String) {a b i j : Nat} (ha : a = 2 * i ∨ a = 2 * i + 1)
    (hb : b = 2 * j ∨ b = 2 * j + 1) (hab : a ≤ b) (hij : i ≤ j) :
    stretch (oldChunk lines) a b = slice lines i (j - i) := by
  have hrange := stretch_oldChunk lines i (j - i)
  rw [Nat.add_sub_of_le hij] at hrange
  have hend : stretch (oldChunk lines) (2 * i) b = slice lines i (j - i) := by
    rcases hb with rfl | rfl
    · exact hrange
    · rw [← stretch_append _ (b := 2 * j) (by omega) (Nat.le_succ _), hrange, stretch_singleton,
        oldChunk_even, List.append_nil]
  rcases ha with rfl | rfl
  · exact hend
  · rw [← hend, ← stretch_append _ (Nat.le_succ _) hab, stretch_singleton, oldChunk_even,
      List.nil_append]

theorem edited_nil (lines : List String) : edited lines [] = lines := by
  have hchunk : chunk lines [] = oldChunk lines := rfl
  rw [edited, hchunk, stretch_oldChunk_eq_slice lines (i := 0) (j := lines.length) (.inl rfl) (.inr rfl)
    (Nat.zero_le _) (Nat.zero_le _), slice, List.drop_zero, Nat.sub_zero, List.take_length]

/-! ### One more site -/

section Step

variable {lines : List String} {sites : List Site} {s : Site} {k : Nat}

theorem chunk_of_not_has (hnone : ∀ t ∈ sites, ¬t.Has k) : chunk lines sites k = oldChunk lines k := by
  have hfind : sites.find? (fun t => t.Has k) = none :=
    List.find?_eq_none.mpr fun t ht => by simpa using hnone t ht
  rw [chunk, hfind]

theorem chunk_append_of_not_has (hs : ¬s.Has k) : chunk lines (sites ++ [s]) k = chunk lines sites k := by
  have hlast : List.find? (fun t => t.Has k) [s] = none := List.find?_eq_none.mpr (by simpa using hs)
  rw [chunk, chunk, List.find?_append, hlast, Option.or_none]

theorem chunk_append_of_has (hapart : ∀ t ∈ sites, t.Apart s) (hs : s.Has k) :
    chunk lines (sites ++ [s]) k = if k = s.slot then s.hunk.replacement else [] := by
  have hnone : sites.find? (fun t => t.Has k) = none :=
    List.find?_eq_none.mpr fun t ht => by simpa using (hapart t ht).symm.not_has hs
  have hlast : List.find? (fun t => t.Has k) [s] = some s := by simp [hs]
  rw [chunk, List.find?_append, hnone, hlast, Option.none_or]

theorem stretch_chunk_eq_anchor (hbelongs : s.hunk.BelongsAt lines s.line)
    (hapart : ∀ t ∈ sites, t.Apart s) : stretch (chunk lines sites) s.slot s.slotStop = s.hunk.anchor := by
  have hold : stretch (chunk lines sites) s.slot s.slotStop = stretch (oldChunk lines) s.slot s.slotStop :=
    stretch_congr fun k hle hlt => chunk_of_not_has fun t ht => (hapart t ht).symm.not_has ⟨hle, hlt⟩
  obtain ⟨hinside, hslice⟩ := hbelongs.occursAt
  rw [hold]
  unfold Site.slot Site.slotStop
  split_ifs with hanchor
  · rw [stretch_singleton, oldChunk_even, hanchor]
  · have hpos := List.length_pos_iff.mpr hanchor
    have hwhole := stretch_oldChunk lines s.line s.hunk.anchor.length
    rw [← stretch_append _ (Nat.le_succ _) (by omega), stretch_singleton, oldChunk_even, List.nil_append,
      hslice] at hwhole
    exact hwhole

theorem stretch_chunk_eq_replacement (hapart : ∀ t ∈ sites, t.Apart s) :
    stretch (chunk lines (sites ++ [s])) s.slot s.slotStop = s.hunk.replacement := by
  have hlt := s.slot_lt_slotStop
  have hfirst : chunk lines (sites ++ [s]) s.slot = s.hunk.replacement := by
    rw [chunk_append_of_has hapart ⟨le_rfl, hlt⟩, if_pos rfl]
  have hrest : stretch (chunk lines (sites ++ [s])) (s.slot + 1) s.slotStop = [] := by
    refine List.flatMap_eq_nil_iff.mpr fun k hk => ?_
    rw [List.mem_range'_1] at hk
    rw [chunk_append_of_has hapart ⟨by omega, by omega⟩, if_neg (by omega)]
  rw [← stretch_append _ (Nat.le_succ _) hlt, stretch_singleton, hfirst, hrest, List.append_nil]

theorem stretch_append_before {a b : Nat} (hb : b ≤ s.slot) :
    stretch (chunk lines (sites ++ [s])) a b = stretch (chunk lines sites) a b :=
  stretch_congr fun k _ hlt => chunk_append_of_not_has fun hs => by
    unfold Site.Has at hs
    omega

theorem stretch_append_behind {a b : Nat} (ha : s.slotStop ≤ a) :
    stretch (chunk lines (sites ++ [s])) a b = stretch (chunk lines sites) a b :=
  stretch_congr fun k hle _ => chunk_append_of_not_has fun hs => by
    unfold Site.Has at hs
    omega

theorem slotStop_le (hbelongs : s.hunk.BelongsAt lines s.line) : s.slotStop ≤ 2 * lines.length + 1 := by
  have hinside := hbelongs.occursAt.1
  unfold Site.slotStop Site.stop
  split_ifs
  · omega
  · omega

theorem edited_eq (hbelongs : s.hunk.BelongsAt lines s.line) (hapart : ∀ t ∈ sites, t.Apart s) :
    edited lines sites = stretch (chunk lines sites) 0 s.slot ++ s.hunk.anchor ++
      stretch (chunk lines sites) s.slotStop (2 * lines.length + 1) := by
  have hlt := s.slot_lt_slotStop
  rw [← stretch_chunk_eq_anchor hbelongs hapart, stretch_append _ (Nat.zero_le _) hlt.le,
    stretch_append _ (Nat.zero_le _) (slotStop_le hbelongs)]
  rfl

theorem edited_append (hbelongs : s.hunk.BelongsAt lines s.line) (hapart : ∀ t ∈ sites, t.Apart s) :
    edited lines (sites ++ [s]) = stretch (chunk lines sites) 0 s.slot ++ s.hunk.replacement ++
      stretch (chunk lines sites) s.slotStop (2 * lines.length + 1) := by
  have hlt := s.slot_lt_slotStop
  rw [← stretch_append_before (s := s) le_rfl, ← stretch_append_behind (s := s) le_rfl,
    ← stretch_chunk_eq_replacement hapart, stretch_append _ (Nat.zero_le _) hlt.le,
    stretch_append _ (Nat.zero_le _) (slotStop_le hbelongs)]
  rfl

theorem occursAt_edited (hbelongs : s.hunk.BelongsAt lines s.line) (hapart : ∀ t ∈ sites, t.Apart s) :
    OccursAt (edited lines sites) s.hunk.anchor (s.place lines sites) := by
  rw [edited_eq hbelongs hapart, Site.place]
  refine ⟨by simp, ?_⟩
  rw [slice, List.append_assoc, List.drop_left, List.take_left]

end Step

/-! ### Where sites stand -/

section Places

variable {lines : List String} {sites : List Site} {s t : Site}

theorem chunk_ne_nil (hbefore : ∀ u ∈ sites, u.Apart t ∧ u.MayPrecede t) (ht : t.hunk.anchor = [])
    (hline : t.line < lines.length) : chunk lines sites (2 * t.line + 1) ≠ [] := by
  unfold chunk
  split
  · rename_i u hfind
    obtain ⟨hapart, hprecede⟩ := hbefore u (List.mem_of_find?_eq_some hfind)
    obtain ⟨hle, hlt⟩ : u.Has (2 * t.line + 1) := by simpa using List.find?_some hfind
    have hslots := Site.apart_iff.mp hapart
    -- The slot before that of the line is the one of `t`, so a site with the line begins there, and it has
    -- lines to put in its place because it keeps its length.
    have hslot : u.slot = 2 * t.line + 1 := by
      unfold Site.slot Site.slotStop at *
      simp only [ht, if_true] at hslots
      omega
    have hanchor : u.hunk.anchor ≠ [] := by
      rintro hnil
      rw [Site.slot, if_pos hnil] at hslot
      omega
    have hgrowth : u.growth = 0 := by
      rw [Site.slot, if_neg hanchor] at hslot
      exact hprecede hanchor ht (by omega)
    have hpos := List.length_pos_iff.mpr hanchor
    rw [if_pos hslot.symm, ← List.length_pos_iff]
    unfold Site.growth at hgrowth
    omega
  · rw [oldChunk_odd, List.getElem?_eq_getElem hline]
    exact List.cons_ne_nil _ _

theorem stretch_ne_nil (hbelongs : s.hunk.BelongsAt lines s.line) (ht : t.hunk.BelongsAt lines t.line)
    (hbefore : ∀ u ∈ sites, u.Apart t ∧ u.MayPrecede t) (hprecede : s.MayPrecede t)
    (hle : t.slotStop ≤ s.slot) : stretch (chunk lines sites) t.slot s.slot ≠ [] ∨ s.growth = 0 := by
  rw [← stretch_append _ t.slot_lt_slotStop.le hle]
  by_cases hanchor : t.hunk.anchor = []
  · have hslot : t.slot = 2 * t.line := if_pos hanchor
    have hstop : t.slotStop = 2 * t.line + 1 := if_pos hanchor
    rw [hstop] at hle ⊢
    rcases hle.eq_or_lt with heq | hlt
    -- Nothing is between an insertion and a range that starts at its line.
    · right
      have hs : s.hunk.anchor ≠ [] := by
        rintro hnil
        rw [Site.slot, if_pos hnil] at heq
        omega
      rw [Site.slot, if_neg hs] at heq
      exact hprecede hs hanchor (by omega)
    · left
      have hend := slotStop_le hbelongs
      have hslots := s.slot_lt_slotStop
      rw [← stretch_append _ (Nat.le_succ _) hlt, stretch_singleton]
      simp only [Ne, List.append_eq_nil_iff, not_and]
      exact fun _ hnil => absurd hnil (chunk_ne_nil hbefore hanchor (by omega))
  · left
    rw [stretch_chunk_eq_anchor ht fun u hu => (hbefore u hu).1]
    simp [hanchor]

/-- Applying a site moves another one if it stands at or behind its start. -/
theorem place_append (hbelongs : s.hunk.BelongsAt lines s.line) (ht : t.hunk.BelongsAt lines t.line)
    (hsites : ∀ u ∈ sites, u.Apart s) (hbefore : ∀ u ∈ sites, u.Apart t ∧ u.MayPrecede t)
    (hapart : s.Apart t) (hprecede : s.MayPrecede t) :
    (t.place lines (sites ++ [s]) : Int) =
      if (s.place lines sites : Int) ≤ t.place lines sites then t.place lines sites + s.growth
      else t.place lines sites := by
  unfold Site.place
  rcases Site.apart_iff.mp hapart with hbehind | hahead
  -- Behind the site, the place moves by what the slots of the site have gained.
  · have hlt := s.slot_lt_slotStop
    rw [← stretch_append (chunk lines (sites ++ [s])) (Nat.zero_le s.slotStop) hbehind,
      ← stretch_append (chunk lines (sites ++ [s])) (Nat.zero_le s.slot) hlt.le,
      ← stretch_append (chunk lines sites) (Nat.zero_le s.slotStop) hbehind,
      ← stretch_append (chunk lines sites) (Nat.zero_le s.slot) hlt.le,
      stretch_append_before le_rfl, stretch_append_behind le_rfl, stretch_chunk_eq_replacement hsites,
      stretch_chunk_eq_anchor hbelongs hsites]
    simp only [List.length_append, Site.growth]
    split_ifs <;> omega
  -- Ahead of it, the place stays, and it comes first unless nothing is in between.
  · have hlt := t.slot_lt_slotStop
    have hle := hlt.le.trans hahead
    rw [stretch_append_before hle, ← stretch_append (chunk lines sites) (Nat.zero_le t.slot) hle]
    rcases stretch_ne_nil hbelongs ht hbefore hprecede hahead with hne | hgrowth
    · have hpos := List.length_pos_iff.mpr hne
      rw [if_neg]
      simp only [List.length_append]
      omega
    · rw [hgrowth, Int.add_zero, ite_self]

theorem place_le_length (hbelongs : s.hunk.BelongsAt lines s.line) (sites : List Site) :
    s.place lines sites ≤ (edited lines sites).length := by
  have hle := s.slot_lt_slotStop.le.trans (slotStop_le hbelongs)
  rw [edited, ← stretch_append _ (Nat.zero_le s.slot) hle, List.length_append]
  exact Nat.le_add_right _ _

theorem place_nil (hbelongs : s.hunk.BelongsAt lines s.line) : s.place lines [] = s.line := by
  have hchunk : chunk lines [] = oldChunk lines := rfl
  have hinside := hbelongs.occursAt.1
  rw [Site.place, hchunk, stretch_oldChunk_eq_slice lines (i := 0) (.inl rfl) s.slot_cases (Nat.zero_le _)
    (Nat.zero_le _)]
  exact length_slice (by omega)

end Places

/-! ### The order of sites -/

theorem chunk_perm {lines : List String} {sites sites' : List Site} (hperm : sites'.Perm sites)
    (hapart : sites.Pairwise Site.Apart) (k : Nat) : chunk lines sites' k = chunk lines sites k := by
  have hunique : ∀ s ∈ sites, ∀ t ∈ sites, s.Has k → t.Has k → s = t := by
    intro s hs t ht hsk htk
    by_contra hne
    exact (hapart.forall hs ht hne).not_has hsk htk
  unfold chunk
  cases hfind : sites.find? fun s => s.Has k with
  | none =>
    have hfind' : (sites'.find? fun s => s.Has k) = none := by
      rw [List.find?_eq_none] at hfind ⊢
      exact fun s hs => hfind s (hperm.mem_iff.mp hs)
    rw [hfind']
  | some s =>
    have hs : s.Has k := by simpa using List.find?_some hfind
    have hmem := List.mem_of_find?_eq_some hfind
    cases hfind' : sites'.find? fun s => s.Has k with
    | none =>
      rw [List.find?_eq_none] at hfind'
      exact absurd (by simpa using hs) (hfind' s (hperm.mem_iff.mpr hmem))
    | some t =>
      have ht : t.Has k := by simpa using List.find?_some hfind'
      rw [hunique t (hperm.mem_iff.mp (List.mem_of_find?_eq_some hfind')) s hmem ht hs]

theorem edited_perm {lines : List String} {sites sites' : List Site} (hperm : sites'.Perm sites)
    (hapart : sites.Pairwise Site.Apart) : edited lines sites' = edited lines sites :=
  stretch_congr fun k _ _ => chunk_perm hperm hapart k

theorem stretch_eq_rewritten {lines : List String} (sites : List Site) :
    ∀ {done k : Nat}, done ≤ lines.length → (k = 2 * done ∨ k = 2 * done + 1) →
      (∀ s ∈ sites, s.hunk.BelongsAt lines s.line) → (∀ s ∈ sites, k ≤ s.slot) →
      (sites.Pairwise fun s t => s.slotStop ≤ t.slot) →
      stretch (chunk lines sites) k (2 * lines.length + 1) = rewritten lines done sites := by
  induction sites with
  | nil =>
    intro done k hdone hk _ _ _
    have hchunk : chunk lines [] = oldChunk lines := rfl
    rw [hchunk, stretch_oldChunk_eq_slice lines hk (.inr rfl) (by omega) hdone, slice, rewritten,
      ← List.length_drop, List.take_length]
  | cons s rest ih =>
    intro done k hdone hk hbelongs hbehind hordered
    obtain ⟨hnext, hrest⟩ := List.pairwise_cons.mp hordered
    have hs := hbelongs s List.mem_cons_self
    have hle := hbehind s List.mem_cons_self
    have hlt := s.slot_lt_slotStop
    have hslot := s.slot_cases
    have hapart : ∀ t ∈ rest, t.Apart s := fun t ht => Site.apart_iff.mpr (.inr (hnext t ht))
    have hpairs : (s :: rest).Pairwise Site.Apart := hordered.imp fun h => Site.apart_iff.mpr (.inl h)
    have hchunk : chunk lines (s :: rest) = chunk lines (rest ++ [s]) :=
      funext fun k => (chunk_perm (List.perm_append_singleton s rest) hpairs k).symm
    -- No later site has a slot before this one.
    have hfront : stretch (chunk lines rest) k s.slot = slice lines done (s.line - done) := by
      rw [← stretch_oldChunk_eq_slice lines hk hslot hle (by omega)]
      refine stretch_congr fun i _ hi => chunk_of_not_has fun t ht hhas => ?_
      have := hnext t ht
      unfold Site.Has at hhas
      omega
    have hstop : s.stop ≤ lines.length := hs.occursAt.1
    have hback := ih hstop s.slotStop_cases (fun t ht => hbelongs t (List.mem_cons_of_mem s ht))
      hnext hrest
    rw [hchunk, ← stretch_append _ (hle.trans hlt.le) (slotStop_le hs), ← stretch_append _ hle hlt.le,
      stretch_append_before le_rfl, stretch_chunk_eq_replacement hapart, stretch_append_behind le_rfl,
      hfront, hback, rewritten]

/-- For sites in the order of the document, each range of lines after the lines that go before it, the
document is rewritten from the first site to the last. -/
theorem edited_eq_rewritten {lines : List String} {sites : List Site}
    (hbelongs : ∀ s ∈ sites, s.hunk.BelongsAt lines s.line)
    (hordered : sites.Pairwise fun s t => s.slotStop ≤ t.slot) :
    edited lines sites = rewritten lines 0 sites :=
  stretch_eq_rewritten sites (Nat.zero_le _) (.inl rfl) hbelongs (fun _ _ => Nat.zero_le _) hordered

end TextRepair
