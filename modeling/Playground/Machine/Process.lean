import Playground.Machine.Call

set_option autoImplicit false

/-! # Processes

A process is running its script or has ended and waits to be looked after by its parent. Every
process belongs to a group and a session, which it takes over from its parent; it may leave both for
new ones of its own. Killing a group kills those who are in it at that moment and nobody else. -/

namespace Playground.Machine

/-- A descriptor of a process: a number that stands for an open description. -/
structure Descriptor where
  number : Nat
  description : Nat
  /-- Is it given up when the process becomes another program? -/
  isPrivate : Bool
  deriving DecidableEq, Repr

inductive Life where
  | running (script : Script Nat)
  | ended (status : WaitStatus)

structure Process where
  id : Nat
  parent : Nat
  group : Nat
  session : Nat
  /-- What it was started as. -/
  command : List UInt8
  directory : Location
  /-- The bits that the modes of new files do not get. -/
  mask : Nat
  descriptors : List Descriptor
  ignored : List Signal
  caught : List Signal
  /-- Signals that were caught and not looked at. -/
  pending : List Signal
  isStopped : Bool
  /-- It does not run before this time. -/
  readyAt : Nat
  /-- When a sleep that has begun is over. -/
  alarm : Option Nat
  life : Life

namespace Process

def isRunning (p : Process) : Bool :=
  match p.life with
  | .running _ => true
  | .ended _ => false

def status? (p : Process) : Option WaitStatus :=
  match p.life with
  | .running _ => none
  | .ended status => some status

def description? (p : Process) (number : Nat) : Option Nat :=
  (p.descriptors.find? fun d => d.number == number).map Descriptor.description

def dropDescriptor (p : Process) (number : Nat) : Process :=
  { p with descriptors := p.descriptors.filter fun d => d.number != number }

def setDescriptor (p : Process) (d : Descriptor) : Process :=
  { p with descriptors := d :: (p.dropDescriptor d.number).descriptors }

/-- The first descriptor from a bound on that is not in use. -/
def freeDescriptor (p : Process) (bound : Nat) : Nat :=
  ((List.range (p.descriptors.length + 1)).map fun (n : Nat) => bound + n).find?
    (fun n => (p.description? n).isNone) |>.getD bound

/-- The process after its end: it holds nothing any more. -/
def finish (p : Process) (status : WaitStatus) : Process :=
  { p with descriptors := [], pending := [], isStopped := false, life := .ended status }

def disposition (p : Process) (s : Signal) : Disposition :=
  if p.ignored.contains s then .ignore
  else if p.caught.contains s then .catch
  else .default

def dispose (p : Process) (s : Signal) (d : Disposition) : Process :=
  let ignored := p.ignored.filter (· != s)
  let caught := p.caught.filter (· != s)
  match d with
  | .default => { p with ignored := ignored, caught := caught }
  | .ignore => { p with ignored := s :: ignored, caught := caught }
  | .catch => { p with ignored := ignored, caught := s :: caught }

/-- What a signal does to a process. Nothing can be done about being killed or stopped. -/
def receive (p : Process) (s : Signal) : Process :=
  if p.isRunning = false ∨ s = 0 then p
  else if s = Signal.kill then p.finish (.killedBy s)
  else if s = Signal.stop then { p with isStopped := true }
  else
    let p := if s = Signal.resume then { p with isStopped := false } else p
    match p.disposition s with
    | .ignore => p
    | .catch => { p with pending := p.pending ++ [s] }
    | .default =>
        if s.isHarmless then p
        else if s.stops then { p with isStopped := true }
        else p.finish (.killedBy s)

/-- Is the process meant by a target that another process has named? -/
def isMeantBy (p sender : Process) : Target → Bool
  | .process id => p.id == id
  | .group id => p.group == id
  | .ownGroup => p.group == sender.group
  | .all => p.id != sender.id

/-- A copy of a process, which is its child. -/
def fork (p : Process) (child readyAt : Nat) (script : Script Nat) : Process :=
  { p with
    id := child
    parent := p.id
    pending := []
    isStopped := false
    readyAt := readyAt
    alarm := none
    life := .running script }

/-- The process as the first of a new group and of a new session. -/
def newSession (p : Process) : Process := { p with group := p.id, session := p.id }

/-- The process as the first of a new group. -/
def newGroup (p : Process) : Process := { p with group := p.id }

def identity (p : Process) : Identity := ⟨p.id, p.parent, p.group, p.session⟩

def listing (p : Process) : Listing := ⟨p.identity, p.isStopped, !p.isRunning, p.command⟩

end Process

/-! ## Tables -/

/-- All processes, oldest first. -/
abbrev Processes := List Process

namespace Processes

/-- The process that looks after those whose parents are gone. -/
def initial : Nat := 1

def find? (ps : Processes) (id : Nat) : Option Process := List.find? (fun p => p.id == id) ps

def update (ps : Processes) (p : Process) : Processes :=
  ps.map fun q => if q.id == p.id then p else q

/-- Nobody waits for a process whose parent is gone. -/
def isForgotten (p : Process) : Bool := p.parent == initial && !p.isRunning

/-- Hands the children of processes that have ended over to the initial process, and forgets those
    that have ended there. -/
def settle (ps : Processes) : Processes :=
  let gone := (ps.filter fun p => !p.isRunning).map Process.id
  if gone.isEmpty then ps
  else
    (ps.map fun p => if gone.contains p.parent then { p with parent := initial } else p).filter
      fun p => !isForgotten p

/-- Sends a signal to all processes that are meant. -/
def signal (ps : Processes) (isMeant : Process → Bool) (s : Signal) : Processes :=
  settle (ps.map fun p => if isMeant p then p.receive s else p)

def killGroup (ps : Processes) (group : Nat) : Processes :=
  signal ps (fun p => p.group == group) Signal.kill

/-- The process comes to its end by itself. -/
def exit (ps : Processes) (id code : Nat) : Processes :=
  settle (ps.map fun p => if p.id == id then p.finish (.exited code) else p)

/-- Takes a process that has ended off the table. -/
def reap (ps : Processes) (id : Nat) : Processes := ps.filter fun p => p.id != id

/-- The processes that one has started and that have not been handed over to another. -/
def children (ps : Processes) (id : Nat) : Processes := ps.filter fun p => p.parent == id

end Processes

end Playground.Machine
