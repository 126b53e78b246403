/-!
# Options of programs

Options and operands of a program come in any order. An option is a letter after a dash, possibly
joined with others, or a name after two dashes, of which a start is enough that no other name has.
After two dashes alone everything is an operand.

* `Options.read` : the options and operands of a program, up to the first fault.
-/

namespace TextRepair.Shell.Options

/-- Whether an option takes a value. -/
inductive Arity where
  | bare
  | valued
  /-- A value only after an equals sign. -/
  | optional
  deriving DecidableEq, Repr

/-- A long name of an option, and the name it is known by, which may be a letter. -/
structure LongName where
  name : String
  key : String
  arity : Arity
  deriving DecidableEq, Repr

/-- The options that a program knows. -/
structure Known where
  /-- The letters of options without a value. -/
  bare : List Char
  /-- The letters of options with a value. -/
  valued : List Char
  names : List LongName

/-- An option that is given, with its value. -/
structure Given where
  key : String
  value : String
  deriving DecidableEq, Repr

/-- What the arguments of a program give. -/
structure Reading where
  options : List Given
  operands : List String
  /-- What is wrong with the arguments. Options after a fault are not given. -/
  fault : Option String
  deriving Repr

namespace Reading

/-- Whether an option is given. -/
def has (r : Reading) (key : String) : Bool :=
  r.options.any (·.key = key)

/-- The value of the last of some options, of which there may be none. -/
def last? (r : Reading) (keys : List String) : Option Given :=
  r.options.reverse.find? fun g => keys.contains g.key

end Reading

/-- A text in single quotes. -/
def inQuotes (text : String) : String :=
  let quote := String.singleton (Char.ofNat 39)
  quote ++ text ++ quote

/-- The option that a long name or the start of one stands for, or what is wrong with it. -/
def named (known : Known) (given : String) : Except String LongName :=
  let option (name : String) : String := inQuotes ("--" ++ name)
  let name := String.ofList (given.toList.takeWhile (· ≠ '='))
  match known.names.find? (·.name = name) with
  | some long => .ok long
  | none =>
    match known.names.filter (·.name.startsWith name) with
    | [] => .error ("unrecognized option " ++ option given)
    | first :: more =>
      match more.filter fun long => long.key ≠ first.key || long.arity ≠ first.arity with
      | [] => .ok first
      | others =>
        let shown := (first :: others).map fun long => " " ++ option long.name
        .error (s!"option {option given} is ambiguous; possibilities:" ++ String.join shown)

/-- Adds the options in the letters of an argument; `rest` are the arguments after it, of which the value
of the last letter may be one. -/
def letters (known : Known) (r : Reading) (rest : List String) : List Char → Reading × List String
  | [] => (r, rest)
  | c :: cs =>
    let key := String.singleton c
    let add (value : String) : Reading := { r with options := r.options ++ [⟨key, value⟩] }
    let fault (reason : String) : Reading := { r with fault := some (reason ++ " -- " ++ inQuotes key) }
    if known.bare.contains c then letters known (add "") rest cs
    else if known.valued.contains c then
      match cs, rest with
      | [], [] => (fault "option requires an argument", [])
      | [], value :: rest => (add value, rest)
      | cs, rest => (add (String.ofList cs), rest)
    else (fault "invalid option", [])

/-- Adds the option with a long name; `rest` are the arguments after it. -/
def long (known : Known) (r : Reading) (rest : List String) (given : String) : Reading × List String :=
  let fault (reason : String) : Reading × List String := ({ r with fault := some reason }, [])
  let value? : Option String :=
    match given.toList.dropWhile (· ≠ '=') with
    | _ :: value => some (String.ofList value)
    | [] => none
  match named known given with
  | .error reason => fault reason
  | .ok option =>
    let add (value : String) : Reading := { r with options := r.options ++ [⟨option.key, value⟩] }
    let shown := inQuotes ("--" ++ option.name)
    match option.arity, value?, rest with
    | .bare, none, _ => (add "", rest)
    | .bare, some _, _ => fault s!"option {shown} doesn't allow an argument"
    | .optional, value, _ => (add (value.getD ""), rest)
    | .valued, some value, _ => (add value, rest)
    | .valued, none, value :: rest => (add value, rest)
    | .valued, none, [] => fault s!"option {shown} requires an argument"

/-- Reads at most `fuel` arguments. -/
def readFrom (known : Known) : (fuel : Nat) → Reading → List String → Reading
  | 0, r, _ | _, r, [] => r
  | fuel + 1, r, arg :: rest =>
    if r.fault.isSome then r
    else
      match arg.toList with
      | ['-', '-'] => { r with operands := r.operands ++ rest }
      | '-' :: '-' :: name =>
        let (r, rest) := long known r rest (String.ofList name)
        readFrom known fuel r rest
      | '-' :: c :: cs =>
        let (r, rest) := letters known r rest (c :: cs)
        readFrom known fuel r rest
      | _ => readFrom known fuel { r with operands := r.operands ++ [arg] } rest

/-- The options and operands in the arguments of a program. -/
def read (known : Known) (args : List String) : Reading :=
  readFrom known args.length ⟨[], [], none⟩ args

end TextRepair.Shell.Options
