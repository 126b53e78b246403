/-!
# Names in messages

Programs quote a name in their messages so that a shell would read it back: in single quotes, with
unreadable characters written out between a dollar sign's quotes, and in double quotes if a single
quote is all that is odd about it.
-/

namespace TextRepair.Shell.Quoting

/-- A single quote. -/
def quote : Char := Char.ofNat 39

/-- What a character is to a shell. -/
inductive Role where
  | plain
  /-- A character that quotes of both kinds protect. -/
  | mild
  /-- A character that has to be in single quotes. -/
  | strong
  /-- A character that has to be written out. -/
  | hidden
  deriving DecidableEq, Repr

/-- The role of a character at a place of a text of some length. -/
def roleOf (place length : Nat) (c : Char) : Role :=
  if c.toNat < 32 || 127 ≤ c.toNat then .hidden
  else if c = ' ' || c = quote then .mild
  else if c = '#' || c = '~' then if place = 0 then .mild else .plain
  else if c = '\x7b' || c = '\x7d' then if length = 1 then .mild else .plain
  else if ['!', '"', '$', '&', '(', ')', '*', ';', '<', '=', '>', '[', '^', Char.ofNat 0x60, '|', '?',
    '\\'].contains c then .strong
  else .plain

/-- A character written out. -/
def writtenOut (c : Char) : List Char :=
  let letters : List (Nat × Char) :=
    [(7, 'a'), (8, 'b'), (9, 't'), (10, 'n'), (11, 'v'), (12, 'f'), (13, 'r')]
  match letters.find? (·.1 = c.toNat) with
  | some (_, letter) => ['\\', letter]
  | none =>
    let digit (n : Nat) : Char := Char.ofNat ('0'.toNat + n % 8)
    ['\\', digit (c.toNat / 64), digit (c.toNat / 8), digit c.toNat]

/-- A text in single quotes with backslashes before those in it and with hidden characters written out. -/
def escaped (text : String) : String :=
  let one (c : Char) : List Char :=
    if c.toNat < 32 || 127 ≤ c.toNat then writtenOut c
    else if c = quote || c = '\\' then ['\\', c]
    else [c]
  String.ofList (quote :: text.toList.flatMap one ++ [quote])

/-- The characters of a text between single quotes; `isOpen` after characters that are written out. -/
def singleQuoted (isOpen : Bool) : List (Char × Role) → List Char
  | [] => []
  | (c, role) :: rest =>
    if role = .hidden then
      (if isOpen then [] else [quote, '$', quote]) ++ writtenOut c ++ singleQuoted true rest
    else
      (if isOpen then [quote, quote] else []) ++
        (if c = quote then [quote, '\\', quote, quote] else [c]) ++ singleQuoted false rest

/-- A text in quotes. -/
def always (text : String) : String :=
  let cs := text.toList
  let marked := cs.zipIdx.map fun (c, place) => (c, roleOf place cs.length c)
  if cs.contains quote && marked.all fun (_, role) => role = .plain || role = .mild then
    "\"" ++ text ++ "\""
  else String.ofList (quote :: singleQuoted false marked ++ [quote])

/-- A text in quotes if it needs them in front of a colon. -/
def ifNeeded (text : String) : String :=
  let cs := text.toList
  let isPlain (c : Char) (place : Nat) : Bool :=
    roleOf place cs.length c = .plain && c ≠ ':'
  if !cs.isEmpty && cs.zipIdx.all fun (c, place) => isPlain c place then text else always text

/-- Characters in quotes from which a shell reads them back; `fuel` bounds the quotes. -/
def readableRuns : (fuel : Nat) → List Char → List Char
  | 0, _ => []
  | fuel + 1, cs =>
    let rest := cs.dropWhile (· ≠ quote)
    let quotes := rest.takeWhile (· = quote)
    let after := rest.dropWhile (· = quote)
    quote :: cs.takeWhile (· ≠ quote) ++ [quote] ++
      (if quotes.isEmpty then [] else '"' :: quotes ++ ['"']) ++
      if after.isEmpty then [] else readableRuns fuel after

/-- A text in quotes from which a shell reads it back: single quotes in double quotes and all else in single
quotes. -/
def readable (text : String) : String :=
  String.ofList (readableRuns (text.length + 1) text.toList)

end TextRepair.Shell.Quoting
