import Playground.Machine.Pipe
import Playground.Machine.Process

set_option autoImplicit false

/-! # The state of the machine

Files, processes, and what joins them: open descriptions, which say what a descriptor refers to and
how far it has been read or written, and pipes. A process that the machine's owner watches is read
from and written to by the owner as well. Time is counted in microseconds. -/

namespace Playground.Machine

inductive Object where
  | readEnd (pipe : Nat)
  | writeEnd (pipe : Nat)
  | file (location : Location) (access : Access)
  | directory (location : Location)
  | device (device : Device)
  deriving DecidableEq, Repr

structure Description where
  object : Object
  offset : Nat
  deriving DecidableEq, Repr

/-- A stream of a watched process: its pipe, what has come out of it, last first, and when it was
    closed. -/
structure Tap where
  pipe : Nat
  chunks : List (List UInt8)
  closed : Option Nat
  deriving DecidableEq, Repr

/-- A process that is watched on behalf of somebody. -/
structure Watch where
  owner : Nat
  process : Nat
  began : Nat
  /-- The time after which it is watched no longer. -/
  deadline : Nat
  /-- The pipe that its input is written to, while that is open. -/
  feed : Option Nat
  input : List UInt8
  fed : Option Nat
  stdout : Tap
  stderr : Tap
  ended : Option (Nat × WaitStatus)
  deriving DecidableEq, Repr

structure State where
  now : Nat
  files : FileSystem
  /-- The directory that the machine's owner is in. -/
  directory : Location
  /-- Where programs are looked for. -/
  searchPath : List String
  processes : Processes
  descriptions : List (Nat × Description)
  pipes : List (Nat × Pipe)
  watches : List Watch
  /-- The number for the next thing that needs one. -/
  next : Nat
  /-- How many identifiers have been drawn. -/
  drawn : Nat

namespace State

/-! ## Descriptions -/

def describe (m : State) (d : Description) : Nat × State :=
  (m.next, { m with next := m.next + 1, descriptions := (m.next, d) :: m.descriptions })

def description? (m : State) (p : Process) (number : Nat) : Option (Nat × Description) :=
  (p.description? number).bind fun id => (m.descriptions.lookup id).map fun d => (id, d)

def setDescription (m : State) (id : Nat) (d : Description) : State :=
  { m with
    descriptions := m.descriptions.map fun entry => if entry.1 == id then (id, d) else entry }

/-- The machine without the descriptions that nobody holds. -/
def sweep (m : State) : State :=
  { m with
    descriptions := m.descriptions.filter fun entry =>
      m.processes.any fun p => p.descriptors.any fun d => d.description == entry.1 }

def setProcess (m : State) (p : Process) : State :=
  { m with processes := m.processes.update p }

/-! ## Pipes -/

def newPipe (m : State) (capacity : Nat) : Nat × State :=
  (m.next, { m with next := m.next + 1, pipes := (m.next, .empty capacity) :: m.pipes })

def pipe (m : State) (id : Nat) : Pipe := (m.pipes.lookup id).getD (.empty 0)

def setPipe (m : State) (id : Nat) (p : Pipe) : State :=
  { m with pipes := m.pipes.map fun entry => if entry.1 == id then (id, p) else entry }

/-- Does some process have a descriptor for the object? -/
def isHeld (m : State) (o : Object) : Bool :=
  m.processes.any fun p => p.descriptors.any fun d =>
    match m.descriptions.lookup d.description with
    | some held => held.object == o
    | none => false

/-- Is there anybody who can still write to the pipe? -/
def hasWriter (m : State) (id : Nat) : Bool :=
  m.isHeld (.writeEnd id) || m.watches.any fun w => w.feed == some id

/-- Is there anybody who can still read from the pipe? -/
def hasReader (m : State) (id : Nat) : Bool :=
  m.isHeld (.readEnd id) || m.watches.any fun w =>
    (w.stdout.pipe == id && w.stdout.closed.isNone) ||
      (w.stderr.pipe == id && w.stderr.closed.isNone)

/-- The machine without the pipes that nobody can use. -/
def drain (m : State) : State :=
  { m with pipes := m.pipes.filter fun entry => m.hasWriter entry.1 || m.hasReader entry.1 }

/-- The machine without what nobody holds any more. -/
def tidy (m : State) : State := m.sweep.drain

end State

end Playground.Machine
