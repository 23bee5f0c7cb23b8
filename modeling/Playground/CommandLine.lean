import Playground.CommandLine.Address
import Playground.Settings

set_option autoImplicit false

/-! # The command line

Options have a long name and, most of them, a short one; those that take a value take it from the
same word or from the next one. Words are looked at from left to right.

An option whose value is the next word is only settled when the next known option or the end is
reached: that is when it is found to have no value, to have been given before, or to have a value
that does not fit. A word that is no option at all is refused at once, before that. -/

namespace Playground.CommandLine

/-! ## Options -/

/-- The options that take a value. -/
inductive Setting where
  | addr
  | config
  | maxConcurrent
  | runTimeout
  | compileTimeout
  deriving DecidableEq, Repr

inductive Switch where
  | help
  | version
  deriving DecidableEq, Repr

inductive Flag where
  | setting (s : Setting)
  | switch (s : Switch)
  deriving DecidableEq, Repr

def Flag.ofLong? : String → Option Flag
  | "addr" => some (.setting .addr)
  | "config" => some (.setting .config)
  | "max-concurrent" => some (.setting .maxConcurrent)
  | "run-timeout" => some (.setting .runTimeout)
  | "compile-timeout" => some (.setting .compileTimeout)
  | "help" => some (.switch .help)
  | "version" => some (.switch .version)
  | _ => none

def Flag.ofShort? : Char → Option Flag
  | 'a' => some (.setting .addr)
  | 'c' => some (.setting .config)
  | 'm' => some (.setting .maxConcurrent)
  | 'h' => some (.switch .help)
  | 'V' => some (.switch .version)
  | _ => none

/-- Why the program does not start: it was asked about itself, or the words are wrong. -/
inductive Usage where
  | displayHelp
  | displayVersion
  | unknownArgument
  /-- A value is missing, or is empty where it may not be. -/
  | invalidValue
  /-- A value is not of the form that its option wants. -/
  | valueValidation
  | argumentConflict
  | tooManyValues
  deriving DecidableEq, Repr

def Usage.name : Usage → String
  | .displayHelp => "DisplayHelp"
  | .displayVersion => "DisplayVersion"
  | .unknownArgument => "UnknownArgument"
  | .invalidValue => "InvalidValue"
  | .valueValidation => "ValueValidation"
  | .argumentConflict => "ArgumentConflict"
  | .tooManyValues => "TooManyValues"

/-- The options, for those who ask. -/
def helpText : String :=
  "Usage: playground [OPTIONS]\n\nOptions:\n" ++
  "  -a, --addr <ADDR>                          Server address to listen on\n" ++
  "  -c, --config <CONFIG>                      TOML file with settings\n" ++
  "  -m, --max-concurrent <MAX_CONCURRENT>      Maximum number of concurrent executions\n" ++
  "      --run-timeout <RUN_TIMEOUT>            Limit of the run step in seconds\n" ++
  "      --compile-timeout <COMPILE_TIMEOUT>    Limit of the compile step in seconds\n" ++
  "  -h, --help                                 Print help\n" ++
  "  -V, --version                              Print version"

/-- What is said instead of starting. -/
def Usage.message : Usage → String
  | .displayHelp => helpText
  | .displayVersion => "playground 0.1.0"
  | .unknownArgument => "error: unexpected argument found"
  | .invalidValue => "error: a value is required"
  | .valueValidation => "error: invalid value"
  | .argumentConflict => "error: an option cannot be used multiple times"
  | .tooManyValues => "error: unexpected value found; no more were expected"

/-- Being asked is no fault. -/
def Usage.exitCode : Usage → UInt32
  | .displayHelp => 0
  | .displayVersion => 0
  | _ => 2

def Switch.usage : Switch → Usage
  | .help => .displayHelp
  | .version => .displayVersion

/-! ## Values -/

/-- What the command line says. -/
structure Arguments where
  addr : Option Address
  config : Option String
  overrides : Settings.Overrides
  deriving DecidableEq, Repr

def Arguments.empty : Arguments := ⟨none, none, none, none, none⟩

/-- A whole number of 64 bits, which a plus may precede. -/
def readNumber? (s : String) : Option Nat :=
  let ds :=
    match s.toList with
    | '+' :: ds => ds
    | ds => ds
  if ds.isEmpty ∨ ¬ds.all Char.isDigit then none
  else
    let n := ds.foldl (fun n d => n * 10 + (d.toNat - '0'.toNat)) 0
    if n < 1 <<< 64 then some n else none

def Arguments.has (a : Arguments) : Setting → Bool
  | .addr => a.addr.isSome
  | .config => a.config.isSome
  | .maxConcurrent => a.overrides.maxConcurrent.isSome
  | .runTimeout => a.overrides.runSeconds.isSome
  | .compileTimeout => a.overrides.compileSeconds.isSome

/-- The arguments with a value for an option, if it is one. -/
def Arguments.set (a : Arguments) (s : Setting) (v : String) : Except Usage Arguments :=
  match s with
  | .addr =>
      match Address.read? v with
      | some addr => .ok { a with addr := some addr }
      | none => .error .valueValidation
  | .config => if v = "" then .error .invalidValue else .ok { a with config := some v }
  | .maxConcurrent =>
      match readNumber? v with
      | some n => .ok { a with overrides := { a.overrides with maxConcurrent := some n } }
      | none => .error .valueValidation
  | .runTimeout =>
      match readNumber? v with
      | some n => .ok { a with overrides := { a.overrides with runSeconds := some n } }
      | none => .error .valueValidation
  | .compileTimeout =>
      match readNumber? v with
      | some n => .ok { a with overrides := { a.overrides with compileSeconds := some n } }
      | none => .error .valueValidation

/-- Settles an option. That it was given before is found before its value is looked at. -/
def Arguments.settle (a : Arguments) (s : Setting) (v : Option String) : Except Usage Arguments :=
  match v with
  | none => .error .invalidValue
  | some v => if a.has s then .error .argumentConflict else a.set s v

/-! ## Words -/

/-- A word by itself. -/
inductive Word where
  /-- Two dashes: all that follows is no option. -/
  | separator
  | long (name : String) (value : Option String)
  | short (c : Char) (rest : List Char)
  | plain (s : String)
  deriving DecidableEq, Repr

def Word.ofString (s : String) : Word :=
  match s.toList with
  | ['-', '-'] => .separator
  | '-' :: '-' :: cs =>
      let name := String.ofList (cs.takeWhile (· != '='))
      match cs.dropWhile (· != '=') with
      | [] => .long name none
      | _ :: value => .long name (some (String.ofList value))
  | '-' :: c :: rest => .short c rest
  | _ => .plain s

/-- The value that follows a short option in its word; an equals sign before it does not belong to
    it. -/
def attachedValue : List Char → Option String
  | [] => none
  | '=' :: rest => some (String.ofList rest)
  | rest => some (String.ofList rest)

/-- How far the words have been read: what is settled, the option that is not, with its value once
    that is known, and whether two dashes have been seen. -/
structure Progress where
  settled : Arguments
  pending : Option (Setting × Option String)
  separated : Bool
  deriving DecidableEq, Repr

namespace Progress

def start : Progress := ⟨.empty, none, false⟩

/-- Settles the pending option. -/
def resolve (p : Progress) : Except Usage Progress :=
  match p.pending with
  | none => .ok p
  | some (s, v) => (p.settled.settle s v).map fun a => { p with settled := a, pending := none }

/-- A known option, with the value from its own word if there is one. -/
def takeFlag (p : Progress) (f : Flag) (value : Option String) : Except Usage Progress := do
  let p ← p.resolve
  match f, value with
  | .switch s, _ => throw s.usage
  | .setting s, none => return { p with pending := some (s, none) }
  | .setting s, some v => return { p with settled := ← p.settled.settle s (some v) }

def step (p : Progress) (word : String) : Except Usage Progress :=
  if p.separated then .error .unknownArgument
  else
    match Word.ofString word with
    | .separator => .ok { p with separated := true }
    | .long name value =>
        match Flag.ofLong? name, value with
        | none, _ => .error .unknownArgument
        | some (.switch _), some _ => .error .tooManyValues
        | some f, value => p.takeFlag f value
    | .short c rest =>
        match Flag.ofShort? c with
        | none => .error .unknownArgument
        | some f => p.takeFlag f (attachedValue rest)
    | .plain s =>
        match p.pending with
        | some (o, none) => .ok { p with pending := some (o, some s) }
        | _ => .error .unknownArgument

end Progress

/-- What a sequence of words says. -/
def read (words : List String) : Except Usage Arguments := do
  let p ← words.foldlM Progress.step .start
  return (← p.resolve).settled

/-! ## What the program runs with -/

/-- The address to listen on if none is given. -/
def defaultAddress : Address := .v4 [0, 0, 0, 0] 3000

def Arguments.address (a : Arguments) : Address := a.addr.getD defaultAddress

/-- The settings that the arguments ask for, on a host with a directory for temporary files. -/
def Arguments.settings (a : Arguments) (temporary : String)
    (readFile : String → Except HostError String) : Except Failure Settings :=
  Settings.layered temporary
    (a.config.map fun path => Settings.ofFile temporary path (readFile path)) a.overrides

end Playground.CommandLine
