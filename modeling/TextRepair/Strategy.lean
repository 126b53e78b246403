/-!
# Strategies

The ways of placing a hunk in a document, and their names. Four of them search for the hunk's anchor,
from the most precise to the most tolerant; the fifth puts lines at a given place.
-/

namespace TextRepair

/-- A way of placing a hunk. -/
inductive Strategy where
  /-- The anchor verbatim. -/
  | exact
  /-- The anchor line for line, up to blanks. -/
  | blanks
  /-- The lines most similar to the anchor as one text. -/
  | approximate
  /-- The block most similar to the anchor, letter case and blank lines ignored. -/
  | intent
  /-- A given insertion point; nothing is searched. -/
  | insertion
  deriving DecidableEq, Repr, Inhabited

namespace Strategy

/-- All strategies. -/
def all : List Strategy :=
  [exact, blanks, approximate, intent, insertion]

/-- The default order of search, most precise first. -/
def cascade : List Strategy :=
  [exact, blanks, approximate, intent]

/-- The name in reports and settings. -/
def name : Strategy → String
  | exact => "exact_context"
  | blanks => "whitespace_tolerant"
  | approximate => "approximate_text"
  | intent => "intent_block"
  | insertion => "insertion_point"

/-- The strategy of a name. -/
def ofName? (s : String) : Option Strategy :=
  all.find? (·.name = s)

/-- Whether the strategy searches for an anchor. -/
def locates : Strategy → Bool
  | insertion => false
  | _ => true

/-- Whether the lines found may differ from the anchor. -/
def isFuzzy : Strategy → Bool
  | blanks | approximate | intent => true
  | exact | insertion => false

theorem ofName?_name (s : Strategy) : ofName? s.name = some s := by
  cases s <;> decide

end Strategy

end TextRepair
