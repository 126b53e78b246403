import TextRepair.Signature
import Mathlib.Data.Prod.Lex
import Mathlib.Data.List.Basic
import Mathlib.Data.List.Induction

/-!
# The first blocking diagnostic

Main statement, `Signature.first?_eq_some_iff`: the diagnostic that a session goes after is the earliest
blocking one, and of several in the same place the one that was reported first (`Signature.IsFirst`).
There is none if and only if nothing blocks (`first?_eq_none_iff`).
-/

namespace TextRepair.Signature

/-- The place by which diagnostics are ordered: line, then column. An unknown one counts as
`unknownPosition`, and so comes after every known one below that. -/
def place (s : Signature) : ℕ ×ₗ ℕ :=
  toLex (s.line.getD unknownPosition, s.column.getD unknownPosition)

theorem precedes_iff {s t : Signature} : s.precedes t = true ↔ s.place < t.place := by
  simp [precedes, place, Prod.Lex.toLex_lt_toLex]

/-- The diagnostic blocks, no blocking one stands in an earlier place, and none that was reported before
it stands in the same place. -/
def IsFirst (signatures : List Signature) (s : Signature) : Prop :=
  ∃ before after, signatures = before ++ s :: after ∧ s.isBlocking = true ∧
    (∀ t ∈ before, t.isBlocking = true → s.place < t.place) ∧
    ∀ t ∈ after, t.isBlocking = true → s.place ≤ t.place

theorem first?_concat (signatures : List Signature) (s : Signature) :
    first? (signatures ++ [s]) =
      if s.isBlocking then
        some ((first? signatures).elim s fun best => if s.precedes best then s else best)
      else first? signatures := by
  unfold first? blocking
  rw [List.filter_append, List.filter_singleton]
  cases s.isBlocking with
  | false => simp
  | true =>
    simp only [cond_true]
    cases signatures.filter isBlocking with
    | nil => rfl
    | cons best rest => simp [earliest, List.foldl_append]

theorem first?_eq_none_iff {signatures : List Signature} :
    first? signatures = none ↔ ∀ s ∈ signatures, s.isBlocking = false := by
  have hnone : first? signatures = none ↔ blocking signatures = [] := by
    unfold first?
    cases blocking signatures <;> simp
  rw [hnone, blocking, List.filter_eq_nil_iff]
  simp only [Bool.not_eq_true]

namespace IsFirst

variable {signatures : List Signature} {s best : Signature}

theorem place_le (h : IsFirst signatures best) {t : Signature} (ht : t ∈ signatures)
    (hblocking : t.isBlocking = true) : best.place ≤ t.place := by
  obtain ⟨before, after, rfl, -, hbefore, hafter⟩ := h
  rcases List.mem_append.mp ht with ht | ht
  · exact (hbefore t ht hblocking).le
  · rcases List.mem_cons.mp ht with rfl | ht
    · exact le_rfl
    · exact hafter t ht hblocking

theorem concat (h : IsFirst signatures best)
    (hs : s.isBlocking = true → best.place ≤ s.place) : IsFirst (signatures ++ [s]) best := by
  obtain ⟨before, after, rfl, hblocking, hbefore, hafter⟩ := h
  refine ⟨before, after ++ [s], by simp, hblocking, hbefore, fun t ht => ?_⟩
  rcases List.mem_append.mp ht with ht | ht
  · exact hafter t ht
  · rw [List.mem_singleton.mp ht]
    exact hs

theorem unique (h : IsFirst signatures s) (h' : IsFirst signatures best) : s = best := by
  have ⟨before, after, hsplit, hblocking, hbefore, _⟩ := h
  have ⟨before', after', hsplit', hblocking', hbefore', _⟩ := h'
  have hle : best.place ≤ s.place := h'.place_le (by simp [hsplit]) hblocking
  have hle' : s.place ≤ best.place := h.place_le (by simp [hsplit']) hblocking'
  rcases List.append_eq_append_iff.mp (hsplit.symm.trans hsplit') with
    ⟨between, hbetween, hrest⟩ | ⟨between, hbetween, hrest⟩
  all_goals rcases List.cons_eq_append_iff.mp hrest with ⟨-, hsame⟩ | ⟨_, rfl, -⟩
  · exact (List.cons.inj hsame).1.symm
  · exact absurd hle' (hbefore' s (by simp [hbetween]) hblocking).not_ge
  · exact (List.cons.inj hsame).1
  · exact absurd hle (hbefore best (by simp [hbetween]) hblocking').not_ge

end IsFirst

theorem isFirst_of_first? (signatures : List Signature) {s : Signature}
    (h : first? signatures = some s) : IsFirst signatures s := by
  induction signatures using List.reverseRecOn generalizing s with
  | nil => cases h
  | append_singleton signatures last ih =>
    rw [first?_concat] at h
    split_ifs at h with hblocking
    · cases hbest : first? signatures with
      | none =>
        rw [hbest] at h
        cases h
        have hnone := first?_eq_none_iff.mp hbest
        exact ⟨signatures, [], rfl, hblocking, fun t ht ht' => by simp [hnone t ht] at ht', by simp⟩
      | some best =>
        have hfirst := ih hbest
        rw [hbest, Option.elim_some] at h
        split_ifs at h with hprecedes <;> cases h
        · rw [precedes_iff] at hprecedes
          exact ⟨signatures, [], rfl, hblocking,
            fun t ht ht' => hprecedes.trans_le (hfirst.place_le ht ht'), by simp⟩
        · rw [precedes_iff, not_lt] at hprecedes
          exact hfirst.concat fun _ => hprecedes
    · exact (ih h).concat fun hlast => absurd hlast hblocking

theorem first?_eq_some_iff {signatures : List Signature} {s : Signature} :
    first? signatures = some s ↔ IsFirst signatures s := by
  refine ⟨isFirst_of_first? signatures, fun h => ?_⟩
  cases hfirst : first? signatures with
  | some best => rw [(isFirst_of_first? signatures hfirst).unique h]
  | none =>
    obtain ⟨before, after, rfl, hblocking, -⟩ := h
    have hnone := first?_eq_none_iff.mp hfirst s (by simp)
    rw [hblocking] at hnone
    cases hnone

end TextRepair.Signature
