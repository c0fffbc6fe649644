import CallSieve.Command

namespace CallSieve

inductive Subcommand where
  | check
  | listPresets
  | init
  | help
  deriving DecidableEq, Repr

namespace Subcommand

def all : List Subcommand := [check, listPresets, init, help]

def name : Subcommand → String
  | check => "check"
  | listPresets => "list-presets"
  | init => "init"
  | help => "help"

def parse? (text : String) : Option Subcommand := all.find? (·.name == text)

end Subcommand

inductive Switch where
  | verbose
  | config
  | help
  | version
  | format
  | presets
  | symbols
  | force
  deriving DecidableEq, Repr

namespace Switch

def long : Switch → String
  | verbose => "verbose"
  | config => "config"
  | help => "help"
  | version => "version"
  | format => "format"
  | presets => "presets"
  | symbols => "symbols"
  | force => "force"

def short? : Switch → Option Char
  | verbose => some 'v'
  | config => some 'c'
  | help => some 'h'
  | version => some 'V'
  | format => some 'f'
  | presets | symbols | force => none

def takesValue : Switch → Bool
  | config | format | presets => true
  | verbose | help | version | symbols | force => false

/-- The option as messages show it, with a word for its value. -/
def synopsis (s : Switch) : String :=
  "--" ++ s.long ++ if s.takesValue then " <" ++ s.long.toUpper ++ ">" else ""

/-- The options that may stand after a subcommand, or before there is one. -/
def allowed : Option Subcommand → List Switch
  | none => [verbose, config, help, version]
  | some .check => [format, presets, symbols, verbose, config, help]
  | some .listPresets => [verbose, config, help]
  | some .init => [force, verbose, config, help]
  | some .help => []

end Switch

inductive ArgumentError where
  | unknownOption (text : String)
  | repeated (s : Switch)
  | missingValue (s : Switch)
  | unneededValue (s : Switch) (value : String)
  | badValue (s : Switch) (value : String)
  | unknownSubcommand (text : String)
  | missingSubcommand
  | emptySnapshot
  | missingSnapshot
  | unexpected (text : String)
  deriving DecidableEq, Repr

def ArgumentError.message : ArgumentError → String
  | unknownOption text => "unexpected argument '" ++ text ++ "' found"
  | repeated s => "the argument '" ++ s.synopsis ++ "' cannot be used multiple times"
  | missingValue s => "a value is required for '" ++ s.synopsis ++ "' but none was supplied"
  | unneededValue s value =>
    "unexpected value '" ++ value ++ "' for '" ++ s.synopsis ++ "' found; no more were expected"
  | badValue s value => "invalid value '" ++ value ++ "' for '" ++ s.synopsis ++ "'"
  | unknownSubcommand text => "unrecognized subcommand '" ++ text ++ "'"
  | missingSubcommand => "a subcommand is required but one was not provided"
  | emptySnapshot => "a value is required for '<SNAPSHOT>' but none was supplied"
  | missingSnapshot => "the following required arguments were not provided: <SNAPSHOT>"
  | unexpected text => "unexpected argument '" ++ text ++ "' found"

/-- What ends the reading of arguments before the last one. -/
inductive Stop where
  | help
  | version
  | misuse (e : ArgumentError)
  deriving DecidableEq, Repr

structure Reading where
  subcommand : Option Subcommand := none
  /-- The options since the subcommand, or since the beginning before it. -/
  seen : List Switch := []
  /-- An option whose value is the next argument. -/
  pending : Option Switch := none
  /-- Whether what follows is no option, whatever it looks like. -/
  operandsOnly : Bool := false
  verbose : Bool := false
  config : Option FilePath := none
  snapshot : Option FilePath := none
  format : Format := .text
  presets : Option String := none
  mode : Mode := .tree
  force : Bool := false
  topic : Option Subcommand := none
  deriving Repr

namespace Reading

/-- Reads an option with its value, which is empty for one that takes none. -/
def give (r : Reading) (s : Switch) (value : String) : Except Stop Reading :=
  if r.seen.contains s then .error (.misuse (.repeated s))
  else
    let r := { r with seen := s :: r.seen, pending := none }
    match s with
    | .verbose => .ok { r with verbose := true }
    | .config =>
      if value.isEmpty then .error (.misuse (.badValue s value))
      else .ok { r with config := some (.ofString value) }
    | .help => .error .help
    | .version => .error .version
    | .format =>
      match Format.parse? value with
      | some format => .ok { r with format }
      | none => .error (.misuse (.badValue s value))
    | .presets => .ok { r with presets := some value }
    | .symbols => .ok { r with mode := .symbol }
    | .force => .ok { r with force := true }

/-- Reads an option by its long name, with what stands after an equals sign. -/
def long (r : Reading) (name : String) (value : Option String) : Except Stop Reading :=
  match (Switch.allowed r.subcommand).find? (·.long == name), value with
  | none, _ => .error (.misuse (.unknownOption ("--" ++ name)))
  | some s, some value => if s.takesValue then r.give s value else .error (.misuse (.unneededValue s value))
  | some s, none => if s.takesValue then .ok { r with pending := some s } else r.give s ""

/-- Reads options by their letters. What follows the letter of one that takes a
    value is its value, after an equals sign or without. -/
def shorts (r : Reading) : List Char → Except Stop Reading
  | [] => .ok r
  | c :: cs =>
    match (Switch.allowed r.subcommand).find? (·.short? == some c) with
    | none => .error (.misuse (.unknownOption ("-" ++ c.toString)))
    | some s =>
      if s.takesValue then
        match cs with
        | [] => .ok { r with pending := some s }
        | '=' :: value => r.give s (String.ofList value)
        | value => r.give s (String.ofList value)
      else do shorts (← r.give s "") cs

/-- Reads an argument that is no option: the subcommand, the snapshot of a check,
    or the topic of help. After `help` no argument is an option. -/
def operand (r : Reading) (text : String) : Except Stop Reading :=
  match r.subcommand with
  | none =>
    if r.operandsOnly then .error (.misuse (.unexpected text))
    else match Subcommand.parse? text with
      | some c => .ok { r with subcommand := some c, seen := [], operandsOnly := c == .help }
      | none => .error (.misuse (.unknownSubcommand text))
  | some .check =>
    if r.snapshot.isSome then .error (.misuse (.unexpected text))
    else if text.isEmpty then .error (.misuse .emptySnapshot)
    else .ok { r with snapshot := some (.ofString text) }
  | some .listPresets | some .init => .error (.misuse (.unexpected text))
  | some .help =>
    match r.topic, Subcommand.parse? text with
    | none, some c => .ok { r with topic := some c }
    | _, _ => .error (.misuse (.unknownSubcommand text))

/-- Whether an argument may be a value of the option before it. -/
def isValue (argument : String) : Bool := argument == "-" || !argument.startsWith "-"

def step (r : Reading) (argument : String) : Except Stop Reading :=
  match r.pending with
  | some s => if isValue argument then r.give s argument else .error (.misuse (.missingValue s))
  | none =>
    if r.operandsOnly then r.operand argument
    else match argument.toList with
      | ['-', '-'] => .ok { r with operandsOnly := true }
      | '-' :: '-' :: option =>
        match option.span (· != '=') with
        | (name, []) => r.long (String.ofList name) none
        | (name, _ :: value) => r.long (String.ofList name) (some (String.ofList value))
      | '-' :: c :: cs => r.shorts (c :: cs)
      | _ => r.operand argument

/-- The command, if nothing is left to be read. -/
def finish (r : Reading) : Except Stop Invocation :=
  match r.pending, r.subcommand, r.snapshot with
  | some s, _, _ => .error (.misuse (.missingValue s))
  | none, none, _ => .error (.misuse .missingSubcommand)
  | none, some .check, none => .error (.misuse .missingSnapshot)
  | none, some .check, some snapshot =>
    .ok ⟨r.verbose, r.config, .check { snapshot, format := r.format, presets := r.presets, mode := r.mode }⟩
  | none, some .listPresets, _ => .ok ⟨r.verbose, r.config, .listPresets⟩
  | none, some .init, _ => .ok ⟨r.verbose, r.config, .init r.force⟩
  | none, some .help, _ => .error .help

end Reading

def Invocation.ofArguments (arguments : List String) : Except Stop Invocation := do
  (← arguments.foldlM Reading.step {}).finish

end CallSieve
