import TextRepair.FileTree
import TextRepair.Main.Shell.Bytes
import TextRepair.Main.Shell.Expression

/-!
# Wildcards

A word with wildcards stands for the names of the files that match it. `pattern` also serves where a
word is compared with a text.
-/

namespace TextRepair.Shell

/-- A character of a word; a quoted one stands for itself. -/
structure Glyph where
  char : Char
  quoted : Bool
  deriving DecidableEq, Repr

namespace Wildcard

/-- The characters of some glyphs. -/
def plain (gs : List Glyph) : List Char :=
  gs.map Glyph.char

/-- Whether a glyph is an unquoted character. -/
def isUnquoted (c : Char) (g : Glyph) : Bool :=
  !g.quoted && g.char = c

/-- Whether a glyph stands for more than itself. -/
def isWild (g : Glyph) : Bool :=
  isUnquoted '*' g || isUnquoted '?' g || isUnquoted '[' g

/-- Any character. -/
def anyChar : Pattern :=
  .one ⟨false, [], false⟩

/-- The class of characters whose name stands after an opening bracket, and what follows it. -/
def class? (gs : List Glyph) : Option (List (Char × Char) × List Glyph) :=
  match gs with
  | ⟨':', false⟩ :: rest =>
    let name := rest.takeWhile fun g => g.char.isAlpha
    match rest.drop name.length with
    | ⟨':', false⟩ :: ⟨']', false⟩ :: rest =>
      (classRanges? (String.ofList (plain name))).map fun rs => (rs, rest)
    | _ => none
  | _ => none

/-- The ranges of a set up to its closing bracket, which is no entry unless it comes first, and what
follows it. -/
def entries? : (fuel : Nat) → List Glyph → Option (List (Char × Char) × List Glyph)
  | 0, _ => none
  | fuel + 1, gs =>
    let (found, rest) : List (Char × Char) × List Glyph :=
      match gs with
      | g :: rest =>
        match if isUnquoted '[' g then class? rest else none with
        | some (rs, rest) => (rs, rest)
        | none =>
          match rest with
          | ⟨'-', false⟩ :: h :: more =>
            if isUnquoted ']' h then ([(g.char, g.char)], rest) else ([(g.char, h.char)], more)
          | _ => ([(g.char, g.char)], rest)
      | [] => ([], [])
    match rest with
    | [] => none
    | g :: after =>
      if isUnquoted ']' g then some (found, after)
      else (entries? fuel rest).map fun (rs, rest) => (found ++ rs, rest)

/-- A set of characters after an opening bracket, and what follows it. -/
def set? (gs : List Glyph) : Option (Pattern × List Glyph) :=
  let negated := gs.head?.any (isUnquoted '!')
  let gs := if negated then gs.drop 1 else gs
  (entries? (gs.length + 1) gs).map fun (rs, rest) => (.one ⟨!negated, rs, false⟩, rest)

/-- The pattern that some glyphs stand for. -/
def patternWithin : (fuel : Nat) → List Glyph → Pattern
  | 0, _ | _, [] => .empty
  | fuel + 1, g :: gs =>
    let (first, rest) : Pattern × List Glyph :=
      if isUnquoted '*' g then (.times anyChar 0 none, gs)
      else if isUnquoted '?' g then (anyChar, gs)
      else if isUnquoted '[' g then (set? gs).getD (.char false g.char, gs)
      else (.char false g.char, gs)
    .seq first (patternWithin fuel rest)

/-- The pattern that some glyphs stand for. -/
def pattern (gs : List Glyph) : Pattern :=
  patternWithin gs.length gs

/-- The glyphs of a pattern that is not part of a script. A backslash quotes the next character, and a
set may be negated by either mark. -/
def ofText : List Char → List Glyph
  | '\\' :: c :: cs => ⟨c, true⟩ :: ofText cs
  | '[' :: '^' :: cs => ⟨'[', false⟩ :: ⟨'!', false⟩ :: ofText cs
  | c :: cs => ⟨c, false⟩ :: ofText cs
  | [] => []

/-- Whether a pattern that is not part of a script accepts the name of a file. A hidden one has to be
asked for by its dot. -/
def acceptsName (text name : String) : Bool :=
  (!name.startsWith "." || text.startsWith ".") && (pattern (ofText text.toList)).accepts name.toList

/-- The glyphs between slashes. -/
def components : List Glyph → List (List Glyph)
  | [] => [[]]
  | g :: gs =>
    if g.char = '/' then [] :: components gs
    else
      match components gs with
      | first :: rest => (g :: first) :: rest
      | [] => [[g]]

/-- The names in a directory that match. Hidden ones have to be asked for by their dot. -/
def namesIn (tree : FileTree) (cwd : Path) (directory : String) (gs : List Glyph) : List String :=
  match tree.resolve cwd (if directory.isEmpty then "." else Bytes.toName directory) with
  | .error _ => []
  | .ok p =>
    let asked := gs.head?.any fun g => g.char = '.'
    let names := (tree.names p).map Bytes.ofName
    let names := if asked then "." :: ".." :: names else names
    names.filter fun name => (asked || !name.startsWith ".") && (pattern gs).accepts name.toList

/-- The names of files that start with `start` and go on as the components say. -/
def complete (tree : FileTree) (cwd : Path) (start : String) : List (List Glyph) → List String
  | [] => [start]
  | [last] =>
    if last.any isWild then (namesIn tree cwd start last).map (start ++ ·)
    else
      let name := start ++ String.ofList (plain last)
      match tree.resolve cwd (Bytes.toName name) with
      | .ok p => if (tree.node? p).isSome then [name] else []
      | .error _ => []
  | next :: rest =>
    let names :=
      if next.any isWild then namesIn tree cwd start next else [String.ofList (plain next)]
    names.flatMap fun name => complete tree cwd (start ++ name ++ "/") rest

/-- The words that some glyphs stand for: the names of files in order, or the word itself if there is
none. -/
def expand (tree : FileTree) (cwd : Path) (gs : List Glyph) : List String :=
  let found := if gs.any isWild then complete tree cwd "" (components gs) else []
  if found.isEmpty then [String.ofList (plain gs)]
  else found.mergeSort fun a b => !decide (b < a)

end Wildcard

end TextRepair.Shell
