import TextRepair.Text.Blank

/-!
# Lines of a text

A line ends at each line feed, and a carriage return right before that line feed belongs to the
terminator. A text that ends in a terminator has no further line, and a carriage return elsewhere
is an ordinary character.
-/

namespace TextRepair.Text

/-- The pieces of a text that end at a line feed, each without it, and the unterminated rest;
`current` holds the reversed start of the first piece. -/
def splitFeeds (current : List Char) : List Char → List (List Char) × List Char
  | [] => ([], current.reverse)
  | c :: cs =>
    if c = '\n' then
      let (pieces, rest) := splitFeeds [] cs
      (current.reverse :: pieces, rest)
    else
      splitFeeds (c :: current) cs

/-- A line without one carriage return at its end. -/
def dropReturn (cs : List Char) : List Char :=
  match cs.getLast? with
  | some '\r' => cs.dropLast
  | _ => cs

/-- The lines of a text, without their terminators. -/
def lines (s : String) : List String :=
  let (pieces, rest) := splitFeeds [] s.toList
  pieces.map (fun piece => String.ofList (dropReturn piece)) ++
    if rest.isEmpty then [] else [String.ofList rest]

/-- The lines from the first to the last one with a visible character, none if there is no such
line. -/
def dropOuterBlank (ls : List String) : List String :=
  ((ls.dropWhile isBlankText).reverse.dropWhile isBlankText).reverse

end TextRepair.Text
