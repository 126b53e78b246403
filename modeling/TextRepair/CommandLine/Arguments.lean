import TextRepair.Text.CharClass

/-!
# Options of a command line

A command line has options of its own, the name of a command, and the options of that command.
Options have long names, after two dashes, and may have a letter, after one dash; letters may be
joined. A value follows as the next argument or, joined, with or without an equals sign.

* `scan` : the options of one level, up to the name of a command.
-/

namespace TextRepair.CommandLine

/-- Why a command line asks for no work. -/
inductive Stop where
  /-- It has a fault. -/
  | usage
  | help
  | version
  deriving DecidableEq, Repr

/-- What an option takes. -/
inductive Arity where
  | flag
  /-- A flag that may be repeated. -/
  | count
  /-- A value that passes a test. -/
  | value (accepts : String → Bool)
  | help
  | version

/-- An option. -/
structure OptionSpec where
  name : String
  letter : Option Char
  arity : Arity

/-- The options given at a level with their values, in order. -/
abbrev Given := List (String × String)

namespace Given

/-- The value of an option. -/
def value? (g : Given) (name : String) : Option String :=
  (g.find? (·.1 = name)).map Prod.snd

/-- Whether an option is given. -/
def has (g : Given) (name : String) : Bool :=
  g.any (·.1 = name)

/-- How often an option is given. -/
def count (g : Given) (name : String) : Nat :=
  g.countP (·.1 = name)

/-- The options with one more, which must not be there yet. -/
def addOnce (g : Given) (name value : String) : Except Stop Given :=
  if g.has name then .error .usage else .ok (g ++ [(name, value)])

/-- The options with a value. -/
def addValue (g : Given) (name : String) (accepts : String → Bool) (value : String) :
    Except Stop Given :=
  if accepts value then g.addOnce name value else .error .usage

end Given

/-- An option that still needs its value: its name and the test of its value. -/
abbrev Pending := Option (String × (String → Bool))

/-- Whether a text may be the name of a file. -/
def isFileName (s : String) : Bool :=
  !s.isEmpty

/-- The number of a text: a sign and digits. -/
def number? (s : String) : Option Int :=
  match s.toList with
  | '-' :: cs => (Text.natOfDigits? cs).map fun n => -(n : Int)
  | '+' :: cs => (Text.natOfDigits? cs).map fun n => (n : Int)
  | cs => (Text.natOfDigits? cs).map fun n => (n : Int)

/-- The natural number of a text, of 32 bits. -/
def count? (s : String) : Option Nat :=
  (number? s).bind fun n => if 0 ≤ n ∧ n < UInt32.size then some n.toNat else none

/-- An option with a long name, after its dashes. -/
def long (specs : List OptionSpec) (g : Given) (arg : List Char) : Except Stop (Given × Pending) := do
  let name := String.ofList (arg.takeWhile (· ≠ '='))
  let value : Option String :=
    match arg.dropWhile (· ≠ '=') with
    | _ :: value => some (String.ofList value)
    | [] => none
  match specs.find? (·.name = name), value with
  | none, _ => .error .usage
  | some spec, value =>
    match spec.arity, value with
    | .value accepts, some value => return (← g.addValue name accepts value, none)
    | .value accepts, none => return (g, some (name, accepts))
    | .flag, none => return (← g.addOnce name "", none)
    | .count, none => return (g ++ [(name, "")], none)
    | .help, none => .error .help
    | .version, none => .error .version
    | _, some _ => .error .usage

/-- Options given by joined letters, of which the last one may take the rest as its value. -/
def letters (specs : List OptionSpec) (g : Given) : List Char → Except Stop (Given × Pending)
  | [] => .ok (g, none)
  | c :: rest =>
    match specs.find? (·.letter = some c) with
    | none => .error .usage
    | some spec =>
      match spec.arity with
      | .value accepts =>
        match rest with
        | [] => .ok (g, some (spec.name, accepts))
        | '=' :: value =>
          (g.addValue spec.name accepts (String.ofList value)).map fun g => (g, none)
        | value => (g.addValue spec.name accepts (String.ofList value)).map fun g => (g, none)
      | .flag => (g.addOnce spec.name "").bind fun g => letters specs g rest
      | .count => letters specs (g ++ [(spec.name, "")]) rest
      | .help => .error .help
      | .version => .error .version

/-- The options of a level, up to the name of a command if there is one, and what follows it. -/
def scan (specs : List OptionSpec) (commands : List String) (g : Given) (pending : Pending) :
    List String → Except Stop (Given × Option (String × List String))
  | [] => if pending.isNone then .ok (g, none) else .error .usage
  | arg :: rest =>
    match pending, arg.toList with
    | none, ['-', '-'] => if rest.isEmpty then .ok (g, none) else .error .usage
    | none, '-' :: '-' :: name =>
      (long specs g name).bind fun (g, pending) => scan specs commands g pending rest
    | none, '-' :: c :: more =>
      (letters specs g (c :: more)).bind fun (g, pending) => scan specs commands g pending rest
    | some _, '-' :: _ :: _ => .error .usage
    | some (name, accepts), _ =>
      (g.addValue name accepts arg).bind fun g => scan specs commands g none rest
    | none, _ => if arg ∈ commands then .ok (g, some (arg, rest)) else .error .usage

end TextRepair.CommandLine
