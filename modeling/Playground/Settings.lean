import Playground.Duration
import Playground.Failure
import Playground.HostError
import Playground.Toml.Read
import Playground.Toml.Write

set_option autoImplicit false

/-! # Settings

What can be set: limits, where workspaces are made, and the names of the tools. Every setting has a
default, a file may set some of them, and flags may override a few of those. Settings that reach the
service have been checked: `Settings.validate` is the only gate.

Where workspaces are made by default is up to the host, which has a directory for temporary files.
Its path is a text here, as are all paths that a file or a flag can name. -/

namespace Playground

structure Settings where
  /-- How long a program may run. -/
  runLimit : Duration
  /-- How long a compiler may run. -/
  compileLimit : Duration
  /-- Executions that may hold a workspace at the same time. -/
  maxConcurrent : Nat
  /-- The directory in which workspaces are made. -/
  workspaceRoot : String
  pythonInterpreter : String
  javaCompiler : String
  javaRuntime : String
  cppCompiler : String
  cppStandard : String
  deriving DecidableEq, Repr

namespace Settings

/-- The settings of a host with this directory for temporary files. -/
def defaultIn (temporary : String) : Settings where
  runLimit := .ofSeconds 5
  compileLimit := .ofSeconds 30
  maxConcurrent := 10
  workspaceRoot := temporary
  pythonInterpreter := "python3"
  javaCompiler := "javac"
  javaRuntime := "java"
  cppCompiler := "g++"
  cppStandard := "17"

/-- The directory for temporary files, if the environment names none. -/
def usualTemporary : String := "/tmp"

def default : Settings := defaultIn usualTemporary

/-! ## Checking -/

/-- The settings, if a service can be run with them. Of two faults the first one here is named. -/
def validate (s : Settings) : Except Failure Settings :=
  if s.maxConcurrent = 0 then
    .error (.system "max_concurrent_executions must be at least 1")
  else if s.runLimit.isZero || s.compileLimit.isZero then
    .error (.system "timeouts must be non-zero")
  else .ok s

theorem validate_eq_ok_iff (s t : Settings) :
    s.validate = .ok t ↔ t = s ∧ s.maxConcurrent ≠ 0 ∧ s.runLimit.isZero = false ∧
      s.compileLimit.isZero = false := by
  unfold validate
  split
  · next h => simp [h]
  · split
    · next h => cases hrun : s.runLimit.isZero <;> simp_all
    · next h₁ h₂ =>
        simp only [Bool.or_eq_true, not_or, Bool.not_eq_true] at h₂
        simp [h₁, h₂, eq_comm]

/-! ## Settings files -/

open Toml

/-- A text setting: its default if the file does not have it, nothing if it is no string. -/
def textField (file : Members) (key fallback : String) : Option String :=
  match file.get? key with
  | none => some fallback
  | some (.text s) => some s
  | some _ => none

/-- A whole number that is not negative. -/
def numberField (file : Members) (key : String) (fallback : Nat) : Option Nat :=
  match file.get? key with
  | none => some fallback
  | some (.integer i) => if 0 ≤ i then some i.toNat else none
  | some _ => none

/-- A limit, in whole seconds in the file. -/
def limitField (file : Members) (key : String) (fallback : Duration) : Option Duration :=
  match file.get? key with
  | none => some fallback
  | some (.integer i) => if 0 ≤ i then some (.ofSeconds i.toNat) else none
  | some _ => none

/-- The settings of a file on top of the defaults. Keys that are no setting do not matter. -/
def ofMembers? (temporary : String) (file : Members) : Option Settings := do
  let default := defaultIn temporary
  return {
    runLimit := ← limitField file "run_timeout" default.runLimit
    compileLimit := ← limitField file "compile_timeout" default.compileLimit
    maxConcurrent := ← numberField file "max_concurrent_executions" default.maxConcurrent
    workspaceRoot := ← textField file "workspace_root" default.workspaceRoot
    pythonInterpreter := ← textField file "python_interpreter" default.pythonInterpreter
    javaCompiler := ← textField file "java_compiler" default.javaCompiler
    javaRuntime := ← textField file "java_runtime" default.javaRuntime
    cppCompiler := ← textField file "cpp_compiler" default.cppCompiler
    cppStandard := ← textField file "cpp_std" default.cppStandard }

/-- The settings of a file's text, checked. What is wrong with a text that is no settings file is
    not said. -/
def ofToml (temporary text : String) : Except Failure Settings :=
  match (Toml.read? text).bind (ofMembers? temporary) with
  | some s => s.validate
  | none => .error (.system "Invalid executor config")

/-- The settings of a file that the host was asked for. -/
def ofFile (temporary path : String) (text : Except HostError String) :
    Except Failure Settings :=
  match text with
  | .ok text => ofToml temporary text
  | .error e => .error (.system ("Failed to read config " ++ path ++ ": " ++ e.message))

/-- The settings as the text of a file; limits in whole seconds, rounded down. There is no such text
    if a number is too large for one. -/
def toToml? (s : Settings) : Option String := do
  let run ← writeNumber? s.runLimit.seconds
  let compile ← writeNumber? s.compileLimit.seconds
  let most ← writeNumber? s.maxConcurrent
  return String.ofList <|
    writeLine "run_timeout" run ++ writeLine "compile_timeout" compile ++
      writeLine "max_concurrent_executions" most ++
      writeLine "workspace_root" (writeText s.workspaceRoot) ++
      writeLine "python_interpreter" (writeText s.pythonInterpreter) ++
      writeLine "java_compiler" (writeText s.javaCompiler) ++
      writeLine "java_runtime" (writeText s.javaRuntime) ++
      writeLine "cpp_compiler" (writeText s.cppCompiler) ++
      writeLine "cpp_std" (writeText s.cppStandard)

/-! ## Flags -/

/-- Settings given on the command line; limits are in whole seconds. -/
structure Overrides where
  maxConcurrent : Option Nat
  runSeconds : Option Nat
  compileSeconds : Option Nat
  deriving DecidableEq, Repr

def override (s : Settings) (o : Overrides) : Settings :=
  { s with
    maxConcurrent := o.maxConcurrent.getD s.maxConcurrent
    runLimit := (o.runSeconds.map .ofSeconds).getD s.runLimit
    compileLimit := (o.compileSeconds.map .ofSeconds).getD s.compileLimit }

/-- The settings of a file, if there is one, with the flags on top, checked. The file is checked on
    its own first. -/
def layered (temporary : String) (file : Option (Except Failure Settings)) (o : Overrides) :
    Except Failure Settings := do
  let base ← file.getD (.ok (defaultIn temporary))
  (base.override o).validate

end Settings

end Playground
