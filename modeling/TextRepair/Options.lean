import TextRepair.Locate.Search

/-!
# Options

The settings of one application of an edit, their defaults, and what makes them invalid.
-/

namespace TextRepair

/-- The settings of one application. -/
structure Options (S : Type) where
  /-- The score that an approximate match must reach. -/
  similarityThreshold : S
  /-- The score that a block match must reach. -/
  intentThreshold : S
  /-- The strategies to try, in order. -/
  order : List Strategy
  /-- The most hunks an edit may have. -/
  maxHunks : Option Nat
  /-- How many lines longer or shorter than the anchor an approximate match may be. -/
  windowSlack : Nat
  /-- Whether new lines take the indentation of the place where they go. -/
  reindent : Bool
  deriving Repr

/-- What makes settings invalid. -/
inductive OptionsError (S : Type) where
  /-- A threshold is not above 0 and at most 1. -/
  | threshold (setting : String) (value : S)
  | emptyOrder
  /-- The order names a strategy that does not search. -/
  | notSearching (strategy : Strategy)
  | repeated (strategy : Strategy)
  | zeroHunks
  deriving Repr

namespace OptionsError

/-- What is wrong, with `text` as the notation of numbers. -/
def reason {S : Type} (text : S → String) : OptionsError S → String
  | threshold setting value => s!"{setting} must be in (0, 1], got {text value}"
  | emptyOrder => "strategy_order must not be empty"
  | notSearching strategy => s!"{strategy.name} cannot be part of strategy_order"
  | repeated strategy => s!"strategy_order lists {strategy.name} twice"
  | zeroHunks => "max_hunks must be at least 1 when set"

def message {S : Type} (text : S → String) (e : OptionsError S) : String :=
  s!"invalid apply options: {e.reason text}"

end OptionsError

namespace Options

variable {S : Type} [Score S]

/-- The settings used where none are given. -/
def standard : Options S where
  similarityThreshold := Score.decimal 8 1
  intentThreshold := Score.decimal 6 1
  order := Strategy.cascade
  maxHunks := none
  windowSlack := 2
  reindent := true

instance : Inhabited (Options S) := ⟨standard⟩

/-- Whether a threshold is above 0 and at most 1. -/
def isThreshold (x : S) : Bool :=
  Score.lt (Score.ofNat 0) x && Score.le x (Score.ofNat 1)

/-- The first fault in an order whose entries before these are `earlier`. -/
def checkOrder (earlier : List Strategy) : List Strategy → Except (OptionsError S) Unit
  | [] => .ok ()
  | s :: rest =>
    if !s.locates then .error (.notSearching s)
    else if s ∈ earlier then .error (.repeated s)
    else checkOrder (s :: earlier) rest

/-- Refuses settings by their first fault: thresholds, then the order, then the limit. -/
def check (o : Options S) : Except (OptionsError S) Unit := do
  if !isThreshold o.similarityThreshold then
    .error (.threshold "similarity_threshold" o.similarityThreshold)
  if !isThreshold o.intentThreshold then
    .error (.threshold "intent_threshold" o.intentThreshold)
  if o.order.isEmpty then .error .emptyOrder
  checkOrder [] o.order
  if o.maxHunks = some 0 then .error .zeroHunks

/-- The strategy with the settings that it needs; none for a strategy that does not search. -/
def matcher? (o : Options S) : Strategy → Option (Matcher S)
  | .exact => some .exact
  | .blanks => some .blanks
  | .approximate => some (.approximate o.similarityThreshold o.windowSlack)
  | .intent => some (.intent o.intentThreshold)
  | .insertion => none

/-- The strategies to try, in order. -/
def matchers (o : Options S) : List (Matcher S) :=
  o.order.filterMap o.matcher?

end Options

end TextRepair
