import TextRepair.Main.Shell.Arithmetic
import TextRepair.Main.Shell.State
import TextRepair.Main.Shell.Wildcard

/-!
# Expanding words

A word with parameters, arithmetic and the output of commands stands for any number of fields.
-/

namespace TextRepair.Shell

/-- Fields being built. -/
structure Fields where
  done : List (List Glyph)
  /-- The field that may still grow, its last character first. -/
  current : Option (List Glyph)
  /-- A blank has ended the last field, so that a separator after it ends no other one. -/
  isAfterBlank : Bool

namespace Fields

/-- No fields. -/
def none : Fields :=
  ⟨[], .none, false⟩

/-- More characters for the last field. -/
def append (f : Fields) (quoted : Bool) (cs : List Char) : Fields :=
  ⟨f.done, some ((cs.map (⟨·, quoted⟩)).reverse ++ f.current.getD []), false⟩

/-- The last field ends. -/
def cut (f : Fields) : Fields :=
  match f.current with
  | some gs => ⟨f.done ++ [gs.reverse], .none, f.isAfterBlank⟩
  | .none => f

/-- The last field ends, and an empty one is there if there was none. -/
def separate (f : Fields) : Fields :=
  match f.current, f.isAfterBlank with
  | some gs, _ => ⟨f.done ++ [gs.reverse], .none, false⟩
  | .none, true => { f with isAfterBlank := false }
  | .none, false => { f with done := f.done ++ [[]] }

/-- A value that is split at separators. -/
def split (separators : List Char) (f : Fields) : List Char → Fields
  | [] => f
  | c :: cs =>
    let isBlank := c = ' ' || c = '\t' || c = '\n'
    let next :=
      if !separators.contains c then f.append false [c]
      else if !isBlank then f.separate
      else if f.current.isSome then { f.cut with isAfterBlank := true }
      else f
    split separators next cs

/-- Values that are fields of their own, added one by one. -/
def each (add : Fields → String → Fields) (f : Fields) : List String → Fields
  | [] => f
  | [value] => add f value
  | value :: rest => each add (add f value).cut rest

/-- All characters, one field after the other. -/
def glyphs (f : Fields) : List Glyph :=
  f.done.flatten ++ (f.current.getD []).reverse

end Fields

namespace Expansion

/-- A text without its shortest or longest start that a pattern accepts. -/
def dropStart (longest : Bool) (p : Pattern) (cs : List Char) : List Char :=
  let left := (p.ends [.start cs]).map Place.left
  match if longest then left.min? else left.max? with
  | some n => cs.drop (cs.length - n)
  | none => cs

/-- A text without its shortest or longest end that a pattern accepts. -/
def dropEnd (longest : Bool) (p : Pattern) (cs : List Char) : List Char :=
  let counts := List.range (cs.length + 1)
  match (if longest then counts else counts.reverse).find? fun n => p.accepts (cs.drop n) with
  | some n => cs.take n
  | none => cs

/-- The value of a parameter, which may have to be set. -/
def required (name : String) : Action String := do
  let s ← get
  match s.parameter? name with
  | some value => return value
  | none =>
    if s.has .nounset && name ≠ "@" && name ≠ "*" then
      Action.abort s!"{name}: parameter not set"
    else return ""

/-- The signal for a quotient that is too large. -/
def divisionSignal : Nat := 8

/-- The value of an arithmetic expression. Its assignments are made. -/
def calculate (source : String) : Action (List Char) := do
  let s ← get
  match Arithmetic.value (fun name => (s.parameter? name).getD "") source with
  | .error fault =>
    match fault.message source with
    | some message => Action.abort message
    | none => throw (.killed divisionSignal)
  | .ok (n, assigned) =>
    assigned.reverse.forM fun (name, value) => Action.assign "" name (toString value)
    return (toString n).toList

section

variable (capture : Enclosing → List Char → Action (List Char))

/-- Adds the value of an expansion: quoted as it is, unquoted split into fields if `splits`. -/
def place (splits quoted : Bool) (f : Fields) (cs : List Char) : Action Fields := do
  let separators := (← get).separators
  return if quoted || !splits then f.append quoted cs else f.split separators cs

/-- Adds a parameter as it is. -/
def placeParameter (splits quoted : Bool) (f : Fields) (name : String) : Action Fields := do
  let s ← get
  if splits && (name = "@" || (name = "*" && !quoted)) then
    let add (f : Fields) (value : String) : Fields :=
      if quoted then f.append true value.toList else f.split s.separators value.toList
    return f.each add (s.parameters.drop 1)
  else place splits quoted f (← required name).toList

mutual

/-- Adds a part of a word. A text in the word of an adjustment is split like a value. -/
def addPart (splits isInner : Bool) (f : Fields) : Part → Action Fields
  | .text cs quoted => place (splits && isInner) quoted f cs
  | .parameter name none quoted => placeParameter splits quoted f name
  | .parameter name (some (adjustment, word)) quoted => do
    let value := (← get).parameter? name
    let isMissing (emptyCounts : Bool) : Bool :=
      match value with
      | some v => emptyCounts && v.isEmpty
      | none => true
    match adjustment with
    | .default e =>
      if isMissing e then addParts splits true f word else placeParameter splits quoted f name
    | .alternative e => if isMissing e then return f else addParts splits true f word
    | .assign e =>
      if isMissing e then
        let text := Wildcard.plain (← addParts false true .none word).glyphs
        Action.assign "" name (String.ofList text)
      placeParameter splits quoted f name
    | .require e =>
      if isMissing e then
        let text := String.ofList (Wildcard.plain (← addParts false true .none word).glyphs)
        let reason := if e then "parameter not set or null" else "parameter not set"
        Action.abort s!"{name}: {if text.isEmpty then reason else text}"
      else placeParameter splits quoted f name
    | .length => place splits quoted f (toString (← required name).length).toList
    | .dropStart longest =>
      let p := Wildcard.pattern (← addParts false true .none word).glyphs
      place splits quoted f (dropStart longest p (← required name).toList)
    | .dropEnd longest =>
      let p := Wildcard.pattern (← addParts false true .none word).glyphs
      place splits quoted f (dropEnd longest p (← required name).toList)
  | .unreadable => Action.abort "Bad substitution"
  | .home => return f.append true (((← get).value? "HOME").getD "~").toList
  | .output source enclosing quoted => do place splits quoted f (← capture enclosing source)
  | .arithmetic expression quoted => do
    let text := Wildcard.plain (← addParts false true .none expression).glyphs
    place splits quoted f (← calculate (String.ofList text))

/-- Adds parts of a word. -/
def addParts (splits isInner : Bool) (f : Fields) : List Part → Action Fields
  | [] => return f
  | part :: rest => do addParts splits isInner (← addPart splits isInner f part) rest

end

/-- What a word stands for where it is not split. -/
def glyphs (w : Word) : Action (List Glyph) := do
  return (← addParts capture false false .none w).glyphs

/-- The text that a word stands for where it is not split. -/
def text (w : Word) : Action String := do
  return String.ofList (Wildcard.plain (← glyphs capture w))

/-- The fields that words stand for, with wildcards replaced by the names of files. -/
def fields : List Word → Action (List String)
  | [] => return []
  | w :: rest => do
    let found := (← addParts capture true false .none w).cut.done
    let s ← get
    let names := found.flatMap fun gs =>
      if s.has .noglob then [String.ofList (Wildcard.plain gs)]
      else Wildcard.expand s.tree s.cwd gs
    return names ++ (← fields rest)

end

end Expansion

end TextRepair.Shell
