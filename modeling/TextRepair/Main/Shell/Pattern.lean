import Std.Data.HashSet

/-!
# Line patterns

Regular expressions over the characters of a line, with conditions on the places between them and with
repetitions of what a group has matched. A pattern leads from places in a line to the places where its
matches end.

* `Pattern.ends` : the ends of the matches that start at some places.
* `Pattern.matchesIn`, `Pattern.accepts` : whether there is a match in a line, or of a whole text.
* `Pattern.findAll` : the matches in a line from left to right, as long as possible.
-/

namespace TextRepair.Shell

/-- A small letter as a capital and the other way round. -/
def swapCase (c : Char) : Char :=
  if c.isUpper then c.toLower else c.toUpper

/-- A character of a word. -/
def isWordChar (c : Char) : Bool :=
  c.isAlphanum || c = '_'

/-- The characters in some ranges, or those outside them. With `folded` small letters and capitals are
the same. -/
structure CharSet where
  inside : Bool
  ranges : List (Char × Char)
  folded : Bool
  deriving DecidableEq, Repr

/-- Whether a character is in a set. -/
def CharSet.has (s : CharSet) (c : Char) : Bool :=
  let among (c : Char) : Bool := s.ranges.any fun (lo, hi) => lo ≤ c && c ≤ hi
  (among c || (s.folded && among (swapCase c))) == s.inside

/-- A condition on the place between two characters. -/
inductive Edge where
  | lineStart
  | lineStop
  | wordStart
  | wordStop
  /-- The start or the end of a word. -/
  | wordEdge
  /-- Any other place. -/
  | noWordEdge
  deriving DecidableEq, Repr

/-- A regular expression. -/
inductive Pattern where
  | never
  | empty
  | one (s : CharSet)
  | edge (e : Edge)
  | seq (p q : Pattern)
  | alt (p q : Pattern)
  /-- The pattern between `least` and `most` times, without an upper end if there is no `most`. -/
  | times (p : Pattern) (least : Nat) (most : Option Nat)
  | group (n : Nat) (p : Pattern)
  /-- The text that group `n` has matched last. -/
  | same (n : Nat) (folded : Bool)
  deriving Repr, Inhabited

/-- A place in a line. -/
structure Place where
  /-- The character in front of the place; none at the start of the line. -/
  before : Option Char
  after : List Char
  /-- The number of characters after the place. -/
  left : Nat
  /-- What the groups have matched on the way to the place. -/
  groups : List (Nat × List Char)
  deriving Repr, Inhabited

namespace Place

/-- The start of a line. -/
def start (line : List Char) : Place :=
  ⟨none, line, line.length, []⟩

/-- All places of a line from `s` on. -/
def onward (s : Place) : List Place :=
  match s with
  | ⟨_, [], _, _⟩ => [s]
  | ⟨_, c :: cs, left, groups⟩ => s :: onward ⟨some c, cs, left - 1, groups⟩
  termination_by s.after.length

/-- The place after a character of a set. -/
def step? (s : Place) (set : CharSet) : Option Place :=
  match s.after with
  | c :: cs => if set.has c then some ⟨some c, cs, s.left - 1, s.groups⟩ else none
  | [] => none

/-- Whether a condition holds at a place. -/
def satisfies (s : Place) (e : Edge) : Bool :=
  let fromWord := s.before.any isWordChar
  let toWord := s.after.head?.any isWordChar
  match e with
  | .lineStart => s.before.isNone
  | .lineStop => s.after.isEmpty
  | .wordStart => !fromWord && toWord
  | .wordStop => fromWord && !toWord
  | .wordEdge => fromWord != toWord
  | .noWordEdge => fromWord == toWord

/-- The place `n` characters further on. -/
def skip (s : Place) (n : Nat) : Place :=
  match n with
  | 0 => s
  | n + 1 => ⟨(s.after.drop n).head?, s.after.drop (n + 1), s.left - (n + 1), s.groups⟩

/-- The text from a place to a later one. -/
def textTo (s stop : Place) : List Char :=
  s.after.take (s.left - stop.left)

/-- The place after another occurrence of the text of a group. -/
def again? (s : Place) (n : Nat) (folded : Bool) : Option Place := do
  let (_, text) ← s.groups.find? (·.1 = n)
  let found := s.after.take text.length
  let isSame := if folded then found.map Char.toLower = text.map Char.toLower else found = text
  if isSame then some (s.skip text.length) else none

/-- A later place, at which a group that starts here ends. -/
def closing (s : Place) (n : Nat) (stop : Place) : Place :=
  { stop with groups := (n, s.textTo stop) :: stop.groups.filter (·.1 ≠ n) }

/-- What tells the places of a line apart. -/
abbrev Key := Nat × List (Nat × String)

/-- What tells a place from others of its line. -/
def key (s : Place) : Key :=
  (s.left, s.groups.map fun (n, text) => (n, String.ofList text))

/-- The places that are not among those seen so far, and all places seen then. -/
def unseen (seen : Std.HashSet Key) (ss : List Place) : List Place × Std.HashSet Key :=
  match ss with
  | [] => ([], seen)
  | s :: rest =>
    if seen.contains s.key then unseen seen rest
    else
      let (others, seen) := unseen (seen.insert s.key) rest
      (s :: others, seen)

/-- Every place once. -/
def distinct (ss : List Place) : List Place :=
  (unseen ∅ ss).1

/-- The places after `n` steps. -/
def advance (n : Nat) (step : List Place → List Place) (ss : List Place) : List Place :=
  match n with
  | 0 => ss
  | n + 1 => if ss.isEmpty then [] else advance n step (step ss)

/-- The places after at most `n` steps from the places `fresh`, apart from those seen before. -/
def upTo (n : Nat) (step : List Place → List Place) (seen : Std.HashSet Key) (fresh : List Place) :
    List Place :=
  match n with
  | 0 => fresh
  | n + 1 =>
    if fresh.isEmpty then []
    else
      let (next, seen) := unseen seen (step fresh)
      fresh ++ upTo n step seen next

/-- The places after at least `least` and at most `most` steps. -/
def repeated (step : List Place → List Place) (least : Nat) (most : Option Nat) (ss : List Place) :
    List Place :=
  let (first, seen) := unseen ∅ (advance least step ss)
  let farthest := (first.map Place.left).foldl max 0
  upTo ((most.getD (least + farthest + 1)) - least) step seen first

end Place

namespace Pattern

/-- The ends of the matches that start at some places. -/
def ends : Pattern → List Place → List Place
  | never, _ => []
  | empty, ss => ss
  | one set, ss => ss.filterMap (·.step? set)
  | edge e, ss => ss.filter (·.satisfies e)
  | seq p q, ss => ends q (ends p ss)
  | alt p q, ss => Place.distinct (ends p ss ++ ends q ss)
  | times p least most, ss => Place.repeated (ends p) least most ss
  | group n p, ss => Place.distinct (ss.flatMap fun s => (ends p [s]).map (s.closing n))
  | same n folded, ss => ss.filterMap (·.again? n folded)

/-- Whether the pattern looks back at a group. -/
def looksBack : Pattern → Bool
  | same _ _ => true
  | seq p q | alt p q => p.looksBack || q.looksBack
  | times p _ _ | group _ p => p.looksBack
  | _ => false

/-- The pattern without its groups. -/
def ungrouped : Pattern → Pattern
  | group _ p => p.ungrouped
  | seq p q => seq p.ungrouped q.ungrouped
  | alt p q => alt p.ungrouped q.ungrouped
  | times p least most => times p.ungrouped least most
  | p => p

/-- The pattern with groups only if it looks back at them. -/
def simplified (p : Pattern) : Pattern :=
  if p.looksBack then p else p.ungrouped

/-- One given character. -/
def char (folded : Bool) (c : Char) : Pattern :=
  one ⟨true, [(c, c)], folded⟩

/-- Given characters in order. -/
def literal (folded : Bool) (cs : List Char) : Pattern :=
  cs.foldr (fun c p => seq (char folded c) p) empty

/-- Any of some patterns. -/
def anyOf (ps : List Pattern) : Pattern :=
  ps.foldr alt never

/-- How a match has to lie in its line. -/
inductive Extent where
  | anywhere
  /-- Between other characters than those of a word. -/
  | word
  | line
  deriving DecidableEq, Repr

/-- Whether a match may start at a place. -/
def Extent.startsAt (e : Extent) (s : Place) : Bool :=
  match e with
  | anywhere => true
  | word => !s.before.any isWordChar
  | line => s.before.isNone

/-- Whether a match may end at a place. -/
def Extent.stopsAt (e : Extent) (s : Place) : Bool :=
  match e with
  | anywhere => true
  | word => !s.after.head?.any isWordChar
  | line => s.after.isEmpty

/-- Whether the pattern matches in a line. -/
def matchesIn (p : Pattern) (e : Extent) (line : List Char) : Bool :=
  (p.ends ((Place.start line).onward.filter e.startsAt)).any e.stopsAt

/-- Whether the pattern matches a whole text. -/
def accepts (p : Pattern) (cs : List Char) : Bool :=
  (p.ends [.start cs]).any (·.after.isEmpty)

/-- The longest match that starts at a place, by its length. -/
def longest? (p : Pattern) (e : Extent) (s : Place) : Option Nat :=
  if e.startsAt s then (((p.ends [s]).filter e.stopsAt).map fun stop => s.left - stop.left).max?
  else none

/-- The matches of at least one character from a place on, from left to right and as long as possible:
the number of characters in front of each, and its text. -/
def findAll (p : Pattern) (e : Extent) : (fuel : Nat) → (offset : Nat) → Place → List (Nat × List Char)
  | 0, _, _ => []
  | fuel + 1, offset, s =>
    if s.after.isEmpty then []
    else
      match p.longest? e s with
      | some (n + 1) =>
        (offset, s.after.take (n + 1)) :: findAll p e fuel (offset + n + 1) (s.skip (n + 1))
      | _ => findAll p e fuel (offset + 1) (s.skip 1)

end Pattern

end TextRepair.Shell
