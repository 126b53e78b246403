import TextRepair.Json

/-!
# Tables under construction

A table knows how it came to be: by its own header, on the way to the header of a table in it, or on
the way along a dotted key. A table is defined once. Its own header may come after headers of tables
in it, but not after dotted keys; dotted keys add only to tables made by dotted keys.
-/

namespace TextRepair.Toml

/-- How a table came to be. -/
inductive Origin where
  | header
  /-- By the header of a table inside. -/
  | implied
  | dotted
  deriving DecidableEq, Repr

/-- What a key leads to. -/
inductive Node where
  | value (j : Json)
  | table (origin : Origin) (entries : List (String × Node))
  /-- The tables of a header in double brackets, last one last. -/
  | tables (elements : List (List (String × Node)))

/-- The keys of a table in order. -/
abbrev Entries := List (String × Node)

namespace Entries

/-- What a key leads to. -/
def get? (entries : Entries) (key : String) : Option Node :=
  (entries.find? (·.1 = key)).map Prod.snd

/-- The entries with another value for a key. -/
def replace (entries : Entries) (key : String) (node : Node) : Entries :=
  entries.map fun entry => if entry.1 = key then (key, node) else entry

/-- The entries with a key that is not among them yet. -/
def insert? (entries : Entries) (key : String) (node : Node) : Option Entries :=
  match get? entries key with
  | none => some (entries ++ [(key, node)])
  | some _ => none

/-- Changes the table at the end of a path, making the tables on the way that are missing. The path
leads through the last one of tables in double brackets and never through a value; with `dotted`, not
through tables with a header. -/
def alter (dotted : Bool) (change : Origin → Entries → Option Entries) :
    List String → Origin → Entries → Option Entries
  | [], origin, entries => change origin entries
  | key :: path, _, entries =>
    match get? entries key with
    | none =>
      let origin : Origin := if dotted then .dotted else .implied
      (alter dotted change path origin []).map fun inner =>
        entries ++ [(key, .table origin inner)]
    | some (.value _) => none
    | some (.table origin inner) =>
      if dotted && origin = .header then none
      else (alter dotted change path origin inner).map fun inner =>
        replace entries key (.table origin inner)
    | some (.tables elements) =>
      (alter dotted change path .header (elements.getLastD [])).map fun inner =>
        replace entries key (.tables (elements.dropLast ++ [inner]))

/-- Gives a dotted key a value. -/
def define? (entries : Entries) (path : List String) (key : String) (j : Json) : Option Entries :=
  let add (origin : Origin) (inner : Entries) : Option Entries :=
    if (origin = .dotted) = path.isEmpty then none else insert? inner key (.value j)
  alter true add path .header entries

/-- Gives a dotted key a value in the table that a header has opened. -/
def defineIn? (entries : Entries) (header path : List String) (key : String) (j : Json) :
    Option Entries :=
  alter false (fun _ inner => define? inner path key j) header .header entries

/-- Opens the table of a header. -/
def openTable? (entries : Entries) (path : List String) (key : String) : Option Entries :=
  let change (_ : Origin) (inner : Entries) : Option Entries :=
    match get? inner key with
    | none => some (inner ++ [(key, .table .header [])])
    | some (.table .implied below) => some (replace inner key (.table .header below))
    | some _ => none
  alter false change path .header entries

/-- Opens another table of a header in double brackets. -/
def openElement? (entries : Entries) (path : List String) (key : String) : Option Entries :=
  let change (_ : Origin) (inner : Entries) : Option Entries :=
    match get? inner key with
    | none => some (inner ++ [(key, .tables [[]])])
    | some (.tables elements) => some (replace inner key (.tables (elements ++ [[]])))
    | some _ => none
  alter false change path .header entries

end Entries

mutual

/-- The data value of what a key leads to. -/
def Node.toJson : Node → Json
  | .value j => j
  | .table _ entries => .object (fieldsOf entries)
  | .tables elements => .list (objectsOf elements)

/-- The fields of a table. -/
def fieldsOf : List (String × Node) → List (String × Json)
  | [] => []
  | (key, node) :: rest => (key, node.toJson) :: fieldsOf rest

/-- The objects of a list of tables. -/
def objectsOf : List (List (String × Node)) → List Json
  | [] => []
  | entries :: rest => .object (fieldsOf entries) :: objectsOf rest

end

end TextRepair.Toml
