import TextRepair.Main.Shell.Program
import TextRepair.Main.Shell.Quoting

/-!
# Showing files

The program that prints files one after the other, possibly with numbers before the lines and with
signs for characters that have no visible form.
-/

namespace TextRepair.Shell.Program

/-- How files are shown. -/
structure Display where
  /-- Numbers before all lines, or only before those that are not blank. -/
  numbers : Bool
  numbersText : Bool
  /-- One blank line for several in a row. -/
  squeezes : Bool
  /-- Signs for characters without a visible form, for tabs, and for ends of lines. -/
  signs : Bool
  tabs : Bool
  ends : Bool

namespace Display

def known : Options.Known where
  bare := ['b', 'e', 'n', 's', 't', 'u', 'v', 'A', 'E', 'T']
  valued := []
  names :=
    [⟨"number-nonblank", "b", .bare⟩, ⟨"number", "n", .bare⟩, ⟨"squeeze-blank", "s", .bare⟩,
      ⟨"show-nonprinting", "v", .bare⟩, ⟨"show-ends", "E", .bare⟩, ⟨"show-tabs", "T", .bare⟩,
      ⟨"show-all", "A", .bare⟩, ⟨"help", "help", .bare⟩, ⟨"version", "version", .bare⟩]

def ofOptions (r : Options.Reading) : Display where
  numbers := r.has "n" || r.has "b"
  numbersText := r.has "b"
  squeezes := r.has "s"
  signs := r.has "v" || r.has "A" || r.has "e" || r.has "t"
  tabs := r.has "T" || r.has "A" || r.has "t"
  ends := r.has "E" || r.has "A" || r.has "e"

/-- Whether files are shown as they are. -/
def isPlain (d : Display) : Bool :=
  !d.numbers && !d.squeezes && !d.signs && !d.tabs && !d.ends

/-- The sign of a control character, and of a character of seven bits otherwise. -/
def sevenBits (n : Nat) : List Char :=
  if n < 32 then ['^', Char.ofNat (n + 64)] else if n = 127 then ['^', '?'] else [Char.ofNat n]

/-- A character as it is shown. -/
def character (d : Display) (c : Char) : List Char :=
  if c = '\t' then if d.tabs then ['^', 'I'] else [c]
  else if !d.signs then [c]
  else if c.toNat < 128 then sevenBits c.toNat
  else ['M', '-'] ++ sevenBits (c.toNat - 128)

/-- The lines of a text, each with whether it has an end. -/
def lines (text : String) : List (List Char × Bool) :=
  let pieces := (text.splitOn "\n").map String.toList
  pieces.dropLast.map (·, true) ++ (pieces.getLast?.filter (!·.isEmpty)).toList.map (·, false)

/-- A line without its end. -/
def body (d : Display) (line : List Char) (isEnded : Bool) : List Char :=
  if d.ends && isEnded && line.getLast? = some '\r' then
    line.dropLast.flatMap d.character ++ ['^', 'M']
  else line.flatMap d.character

/-- Lines, the first of which is number `n`. -/
def shown (d : Display) (n : Nat) (isAfterBlank : Bool) : List (List Char × Bool) → List Char
  | [] => []
  | (line, isEnded) :: rest =>
    let isBlank := line.isEmpty
    if d.squeezes && isBlank && isAfterBlank then shown d n true rest
    else
      let isNumbered := d.numbers && !(d.numbersText && isBlank)
      let start :=
        if isNumbered then (flushRight 6 (toString n)).toList ++ ['\t'] else []
      start ++ d.body line isEnded ++ (if isEnded && d.ends then ['$'] else []) ++
        (if isEnded then ['\n'] else []) ++ shown d (if isNumbered then n + 1 else n) isBlank rest

end Display

/-- Prints files one after the other. -/
def cat (s : Setting) (args : List String) : Answered :=
  let r := Options.read Display.known args
  let d := Display.ofOptions r
  let visible (text : String) : String :=
    if d.isPlain then text else String.ofList (d.shown 1 false (Display.lines text))
  let visit (done : Answered × String × Setting) (name : String) : Answered × String × Setting :=
    let (answered, before, s) := done
    let said := Quoting.ifNeeded name
    let failed (reason : String) : Answered × String × Setting :=
      (answered.followedBy (failing 1 s!"cat: {said}: {reason}"), before, s)
    match content s name with
    | .error e => failed e.reason
    | .ok text =>
      if s.outputFile.isSome && source? s name = s.outputFile && !text.isEmpty then
        failed "input file is output file"
      else
        let now := before ++ text
        let added := ((visible now).drop (visible before).length).copy
        let next : Answered :=
          { Answered.ofOutput added with rest := if name = "-" then some "" else none }
        (answered.followedBy next, now, if name = "-" then { s with input := some "" } else s)
  match r.fault with
  | some reason => misused 1 "cat" reason
  | none =>
    let names := if r.operands.isEmpty then ["-"] else r.operands
    let all := (names.foldl visit (.ofStatus 0, "", s)).1
    if names.contains "-" && s.input.isNone then
      all.followedBy (failing 1 s!"cat: closing standard input: {FileError.closed.reason}")
    else all

end TextRepair.Shell.Program
