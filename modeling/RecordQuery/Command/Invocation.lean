import RecordQuery.Settings.Layer
import RecordQuery.Text.Parts

/-!
# Command lines

The arguments of the program name a command, its operands and its options. They are read from left
to right, and the first that is a mistake or asks for help decides what the whole line is.
-/

namespace RecordQuery

/-- What a command line is that names no command to run. -/
inductive Usage where
  | help
  | mistake
  deriving DecidableEq, Repr

inductive Command where
  /-- Shows how queries are read. -/
  | parse (queries : List String) (rules : RuleLayer) (json : Bool)
  /-- Filters and sorts the records of a file or of the standard input. -/
  | filter (query : String) (file : Option String) (rules : RuleLayer) (caseSensitive json : Bool)
  /-- Shows the settings in effect. -/
  | config
  deriving DecidableEq, Repr

/-- A command line that names a command. -/
structure Invocation where
  command : Command
  verbosity : Nat
  deriving DecidableEq, Repr

namespace Invocation

/-- The options and operands that a command takes. -/
structure Grammar where
  /-- Options without a value. -/
  flags : List String := []
  /-- Options with a value. -/
  valued : List String := []
  fewest : Nat := 0
  /-- The most operands; none for any number. -/
  most : Option Nat := none

/-- A part of a command line after the name of the command. -/
inductive Item where
  | operand (s : String)
  | flag (name : String)
  | value (name value : String)
  | verbose
  | help
  | mistake
  deriving DecidableEq, Repr

/-! ## Cutting arguments into items -/

/-- The items of an argument that starts with one hyphen: one for each letter after it. -/
def lettersOf : List Char → List Item
  | [] => []
  | 'v' :: rest => .verbose :: lettersOf rest
  | 'h' :: _ => [.help]
  | _ :: _ => [.mistake]

/-- The name of an option without a value. -/
def flagItem (g : Grammar) (name : String) : Item :=
  if name = "verbose" then .verbose
  else if name = "help" then .help
  else if g.flags.contains name then .flag name
  else .mistake

/-- Whether an argument can be the value of the option before it. -/
def isValue (argument : List Char) : Bool := argument.head? != some '-' || argument = ['-']

/-- The items of the arguments of a command, after the name of an option that waits for its value.
After a double hyphen all arguments are operands. -/
def items (g : Grammar) : (waiting : Option String) → List String → List Item
  | none, [] => []
  | some _, [] => [.mistake]
  | some name, argument :: rest =>
    if isValue argument.toList then .value name argument :: items g none rest else [.mistake]
  | none, argument :: rest =>
    match argument.toList with
    | ['-', '-'] => rest.map .operand
    | '-' :: '-' :: body =>
      let name := String.ofList (body.takeWhile (· != '='))
      match body.dropWhile (· != '=') with
      | [] =>
        if g.valued.contains name then items g (some name) rest
        else flagItem g name :: items g none rest
      | _ :: value =>
        (if g.valued.contains name then .value name (String.ofList value) else .mistake) ::
          items g none rest
    | '-' :: c :: letters => lettersOf (c :: letters) ++ items g none rest
    | _ => .operand argument :: items g none rest

/-! ## Collecting items -/

/-- What the items of a command line have said so far. -/
structure Draft where
  operands : List String := []
  flags : List String := []
  validKeys : List String := []
  defaultKey : Option String := none
  maxLength : Option Nat := none
  verbosity : Nat := 0

namespace Draft

/-- A length: digits after an optional plus, at most 64 bits. -/
def length? (s : String) : Option Nat :=
  let digits := match s.toList with
    | '+' :: rest => rest
    | rest => rest
  let n := digits.foldl (fun n c => 10 * n + (c.toNat - 48)) 0
  if digits.isEmpty || !digits.all Char.isDigit || 0xFFFFFFFFFFFFFFFF < n then none else some n

/-- Takes the value of an option. Only keys may be given more than once. -/
def takeValue (d : Draft) (name value : String) : Except Usage Draft :=
  if name = "valid-key" then .ok { d with validKeys := d.validKeys ++ [value] }
  else if name = "default-key" then
    if d.defaultKey.isSome then .error .mistake else .ok { d with defaultKey := some value }
  else match length? value with
    | some n => if d.maxLength.isSome then .error .mistake else .ok { d with maxLength := some n }
    | none => .error .mistake

/-- Takes one more item. A second operand is the name of a file unless there may be more, and a name
is not empty. -/
def take (g : Grammar) (d : Draft) : Item → Except Usage Draft
  | .operand s =>
    let isFile := g.most.isSome && d.operands.length = 1
    if g.most.any (· ≤ d.operands.length) || (isFile && s = "") then .error .mistake
    else .ok { d with operands := d.operands ++ [s] }
  | .flag name =>
    if d.flags.contains name then .error .mistake else .ok { d with flags := name :: d.flags }
  | .value name value => d.takeValue name value
  | .verbose => .ok { d with verbosity := d.verbosity + 1 }
  | .help => .error .help
  | .mistake => .error .mistake

/-- What the arguments of a command say. -/
def ofArguments (g : Grammar) (arguments : List String) : Except Usage Draft := do
  let d ← (items g none arguments).foldlM (take g) {}
  if d.operands.length < g.fewest then .error .mistake else .ok d

/-- The rules that the options give. -/
def rules (d : Draft) : RuleLayer where
  validKeys := if d.validKeys.isEmpty then none else some d.validKeys
  defaultKey := d.defaultKey
  strictLiterals := if d.flags.contains "strict" then some true else none
  maxQueryLength := d.maxLength

end Draft

/-! ## Commands -/

def ruleOptions : List String := ["valid-key", "default-key", "max-length"]

def parseGrammar : Grammar where
  flags := ["strict", "json"]
  valued := ruleOptions
  fewest := 1

def filterGrammar : Grammar where
  flags := ["strict", "case-sensitive", "json"]
  valued := ruleOptions
  fewest := 1
  most := some 2

def configGrammar : Grammar where
  most := some 0

def commandNames : List String := ["parse", "filter", "config", "help"]

/-- What a line is that asks for help on the named commands. -/
def helpOn : List String → Usage
  | [] => .help
  | [name] => if commandNames.contains name then .help else .mistake
  | _ => .mistake

/-- The command of this name with these arguments. -/
def ofCommand (name : String) (arguments : List String) : Except Usage Invocation :=
  match name with
  | "parse" => do
    let d ← Draft.ofArguments parseGrammar arguments
    return ⟨.parse d.operands d.rules (d.flags.contains "json"), d.verbosity⟩
  | "filter" => do
    let d ← Draft.ofArguments filterGrammar arguments
    return ⟨.filter (d.operands.headD "") (d.operands[1]?) d.rules
      (d.flags.contains "case-sensitive") (d.flags.contains "json"), d.verbosity⟩
  | "config" => do
    let d ← Draft.ofArguments configGrammar arguments
    return ⟨.config, d.verbosity⟩
  | "help" => .error (helpOn arguments)
  | _ => .error .mistake

/-- How often the items of an option in front of the command ask for more output. -/
def verbosityOf : List Item → Except Usage Nat
  | [] => .ok 0
  | .verbose :: rest => (verbosityOf rest).map (· + 1)
  | .help :: _ => .error .help
  | _ => .error .mistake

/-- The command that the arguments name, after options that asked `verbosity` times for more output.
Options after the name of the command take precedence over those in front of it. -/
def ofArgumentsFrom (verbosity : Nat) : List String → Except Usage Invocation
  | [] => .error .mistake
  | argument :: rest =>
    if argument = "-" || argument = "--" then .error .mistake
    else if argument.toList.head? = some '-' then do
      let n ← verbosityOf (items {} none [argument])
      ofArgumentsFrom (verbosity + n) rest
    else do
      let i ← ofCommand argument rest
      return if i.verbosity = 0 then { i with verbosity } else i

/-- The command that the arguments name. -/
def ofArguments (arguments : List String) : Except Usage Invocation := ofArgumentsFrom 0 arguments

/-- The level of the program's log. -/
def logLevel (i : Invocation) : String :=
  match i.verbosity with
  | 0 => "warn"
  | 1 => "debug"
  | _ => "trace"

end Invocation

end RecordQuery
