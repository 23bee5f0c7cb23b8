import Playground.Machine.Program
import Playground.Process.Signal
import Playground.Shell.Syntax

set_option autoImplicit false

/-! # The state of a shell

A shell keeps variables, functions, what it was told about signals, and the status of its last
command. A command changes them, makes calls, and may **jump**: out of a loop, out of a function, or
out of the shell. -/

namespace Playground.Shell

open Machine (Bytes Call Script)

structure Variable where
  /-- A variable may be marked before it has a value. -/
  value : Option Bytes
  isExported : Bool
  isReadonly : Bool

/-- A command in the background. -/
structure Job where
  number : Nat
  /-- Its last process. -/
  process : Nat

structure State where
  /-- What the shell is called in its complaints. -/
  name : Bytes
  arguments : List Bytes
  /-- The variables, in the order in which they came. -/
  held : List (Bytes × Variable)
  functions : List (Bytes × Command)
  documents : List (Nat × Word)
  nextDocument : Nat
  status : Nat
  line : Nat
  process : Nat
  lastBackground : Option Nat
  /-- The letters of the options that are set. -/
  options : List Char
  /-- What is done about signals; zero stands for the end of the shell. -/
  traps : List (Signal × Bytes)
  /-- Signals that were caught and not looked at. -/
  caught : List Signal
  jobs : List Job
  /-- Processes that have ended while others were waited for. -/
  ended : List (Nat × WaitStatus)
  /-- What variables were before they became local, for each function that is being called. -/
  locals : List (List (Bytes × Option Variable))
  loops : Nat
  /-- The status of the last command that was substituted in the current command. -/
  substituted : Option Nat
  /-- The command that complains. -/
  speaker : Option Bytes

/-- How a command is left. -/
inductive Jump where
  | exit (code : Nat)
  /-- Out of a function or a file of commands. -/
  | leave (code : Nat)
  | breakLoop (depth : Nat)
  | continueLoop (depth : Nat)
  /-- After a complaint. -/
  | failure
  /-- Out of a copy of the shell, which has nothing left to do. -/
  | halt (code : Nat)

abbrev Run := ExceptT Jump (StateT State Script)

/-- The status of a command that has failed after a complaint. -/
def failureStatus : Nat := 2

def lift {α : Type} (script : Script α) : Run α := ExceptT.lift (StateT.lift script)

def ask (c : Call) : Run c.Reply := lift (Script.ask c)

/-- Runs something, and returns how it was left if it was. -/
def attempt {α : Type} (r : Run α) : Run (Except Jump α) := fun s => do
  let (result, s) ← r s
  return (.ok result, s)

def leaveWith {α : Type} (j : Jump) : Run α := throw j

def setStatus (code : Nat) : Run Unit := modify fun s => { s with status := code }

def hasOption (letter : Char) : Run Bool := do return (← get).options.contains letter

/-! ## Complaints -/

/-- A complaint of the shell, or of the command that speaks for it. -/
def complain (message : Bytes) : Run Unit := do
  let s ← get
  let speaker :=
    match s.speaker with
    | some name => name ++ ": ".toList
    | none => []
  lift (Script.put Script.stderr
    (s.name ++ ": ".toList ++ Bytes.ofNat s.line ++ ": ".toList ++ speaker ++ message ++ ['\n']))

/-- Complains, and leaves the command. -/
def fail {α : Type} (message : Bytes) : Run α := do
  complain message
  leaveWith .failure

/-- The same, about something with a name. -/
def failOf {α : Type} (name : Bytes) (what : String) : Run α :=
  fail (name ++ ": ".toList ++ what.toList)

/-! ## Variables -/

def State.held? (s : State) (name : Bytes) : Option Variable := s.held.lookup name

def State.value? (s : State) (name : Bytes) : Option Bytes :=
  (s.held? name).bind Variable.value

def State.putVariable (s : State) (name : Bytes) (v : Variable) : State :=
  { s with
    held :=
      if (s.held? name).isSome then
        s.held.map fun entry => if entry.1 = name then (name, v) else entry
      else s.held ++ [(name, v)] }

def State.dropVariable (s : State) (name : Bytes) : State :=
  { s with held := s.held.filter fun entry => entry.1 ≠ name }

/-- Gives a variable a value. -/
def assign (name value : Bytes) : Run Unit := do
  let s ← get
  let old := (s.held? name).getD ⟨none, s.options.contains 'a', false⟩
  if old.isReadonly then failOf name "is read only"
  else set (s.putVariable name { old with value := some value })

/-- Marks a variable. -/
def mark (name : Bytes) (f : Variable → Variable) : Run Unit :=
  modify fun s => s.putVariable name (f ((s.held? name).getD ⟨none, false, false⟩))

def unassign (name : Bytes) : Run Unit := do
  let s ← get
  match s.held? name with
  | some v =>
      if v.isReadonly then failOf name "is read only" else set (s.dropVariable name)
  | none => pure ()

/-- The variables that programs are told of. -/
def State.environment (s : State) : List (Bytes × Bytes) :=
  s.held.filterMap fun (name, v) =>
    if v.isExported then v.value.map fun value => (name, value) else none

/-- The characters at which what has been expanded is split. -/
def State.separators (s : State) : Bytes := (s.value? "IFS".toList).getD " \t\n".toList

/-- Does something, after which variables are what they were. -/
def keepingVariables (names : List Bytes) (r : Run Unit) : Run Unit := do
  let old ← get
  let result ← attempt r
  modify fun s => names.foldl (fun s name =>
    match old.held? name with
    | some v => s.putVariable name v
    | none => s.dropVariable name) s
  match result with
  | .ok () => pure ()
  | .error j => leaveWith j

/-! ## Words about signals -/

/-- The signal with a number or a name, zero being the end of the shell. -/
def signalOf? (b : Bytes) : Option Signal :=
  match Bytes.toNat? b with
  | some n => if n ≤ 64 then some n else none
  | none =>
      let name := (String.ofList b).toUpper
      if name = "EXIT" then some 0 else Signal.ofShortName? name

end Playground.Shell
