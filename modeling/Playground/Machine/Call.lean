import Playground.HostError
import Playground.Machine.FileSystem
import Playground.Process.WaitStatus

set_option autoImplicit false

/-! # Calls

A running program is known to the machine by the calls it makes. A `Script` is a program seen in
this way: it has ended with an exit code, or it makes a call and goes on with the reply. What
it computes between two calls is its own affair. -/

namespace Playground.Machine

/-- What a file is opened for. -/
inductive Access where
  | read
  /-- From the start, and without what was there. -/
  | overwrite
  /-- From the end. -/
  | append
  /-- From the start, and with what was there. -/
  | update
  /-- Only if it is not there. -/
  | create
  deriving DecidableEq, Repr

/-- What a process does about a signal. -/
inductive Disposition where
  | default
  | ignore
  | catch
  deriving DecidableEq, Repr

/-- Which process a signal is for, or is waited for. -/
inductive Target where
  | process (id : Nat)
  | group (id : Nat)
  | ownGroup
  | all
  deriving DecidableEq, Repr

/-- What is told of a node. -/
structure Status where
  location : Location
  node : Node
  deriving DecidableEq, Repr

/-- What `identity` tells of a process. -/
structure Identity where
  process : Nat
  parent : Nat
  group : Nat
  session : Nat
  deriving DecidableEq, Repr

/-- How a wait ends: with a process that has changed, with nothing yet if it is not to block, or
    with a signal. -/
inductive Waited where
  | ended (process : Nat) (status : WaitStatus)
  | nothing
  | interrupted
  deriving DecidableEq, Repr

inductive Call where
  /-- Lets others run. Replies with the signals that were caught since the last time. -/
  | yield
  | read (descriptor count : Nat)
  | write (descriptor : Nat) (octets : List UInt8)
  | openAt (path : String) (access : Access) (mode : Nat)
  /-- Makes the second descriptor refer to what the first one does. -/
  | duplicate (descriptor as : Nat)
  /-- Makes a free descriptor, not below a bound, refer to what this one does. -/
  | save (descriptor bound : Nat)
  | close (descriptor : Nat)
  /-- Replies with the ends to read from and to write to. -/
  | makePipe
  /-- Makes a copy of the process. Replies with its number, and to the copy with zero. -/
  | fork
  /-- Becomes another program. There is a reply only if that fails. -/
  | exec (path : String) (arguments : List (List UInt8))
      (environment : List (List UInt8 × List UInt8))
  /-- Ends the process. There is no reply. -/
  | exit (code : Nat)
  | wait (target : Option Nat) (blocks : Bool)
  | signal (target : Target) (signal : Signal)
  | dispose (signal : Signal) (disposition : Disposition)
  | disposition (signal : Signal)
  | identity
  | newSession
  /-- Leaves the process's group for a new one. -/
  | newGroup
  /-- Microseconds. -/
  | sleep (time : Nat)
  | clock
  | directory
  | changeDirectory (path : String)
  | mask (newMask : Option Nat)
  | status (path : String) (follow : Bool)
  | readLink (path : String)
  | list (path : String)
  | makeDirectory (path : String) (mode : Nat)
  | makeLink (target path : String)
  | copyLink (source path : String)
  | unlink (path : String)
  | removeDirectory (path : String)
  | rename (source target : String)
  | setMode (path : String) (mode : Nat)
  | processes

/-- What is told of a process in a list of all. -/
structure Listing where
  identity : Identity
  isStopped : Bool
  isZombie : Bool
  command : List UInt8
  deriving DecidableEq, Repr

def Call.Reply : Call → Type
  | .yield => List Signal
  | .read _ _ => Except HostError (List UInt8)
  | .write _ _ => Except HostError Nat
  | .openAt _ _ _ => Except HostError Nat
  | .duplicate _ _ => Except HostError Unit
  | .save _ _ => Except HostError Nat
  | .close _ => Except HostError Unit
  | .makePipe => Nat × Nat
  | .fork => Nat
  | .exec _ _ _ => HostError
  | .exit _ => Empty
  | .wait _ _ => Except HostError Waited
  | .signal _ _ => Except HostError Unit
  | .dispose _ _ => Unit
  | .disposition _ => Disposition
  | .identity => Identity
  | .newSession => Except HostError Unit
  | .newGroup => Unit
  | .sleep _ => Unit
  | .clock => Nat
  | .directory => Except HostError String
  | .changeDirectory _ => Except HostError Unit
  | .mask _ => Nat
  | .status _ _ => Except HostError Status
  | .readLink _ => Except HostError String
  | .list _ => Except HostError (List String)
  | .makeDirectory _ _ => Except HostError Unit
  | .makeLink _ _ => Except HostError Unit
  | .copyLink _ _ => Except HostError Unit
  | .unlink _ => Except HostError Unit
  | .removeDirectory _ => Except HostError Unit
  | .rename _ _ => Except HostError Unit
  | .setMode _ _ => Except HostError Unit
  | .processes => List Listing

inductive Script (α : Type) where
  | done (a : α)
  | call (c : Call) (next : c.Reply → Script α)

namespace Script

variable {α β : Type}

/-- The script that makes one call. -/
def ask (c : Call) : Script c.Reply := .call c .done

/-- The script that ends at once, and with it all that it is part of. -/
def exitWith (code : Nat) : Script α := .call (.exit code) Empty.elim

/-- One script after another. -/
def andThen : Script α → (α → Script β) → Script β
  | .done a, f => f a
  | .call c next, f => .call c fun reply => (next reply).andThen f

instance : Monad Script where
  pure := .done
  bind := andThen

end Script

end Playground.Machine
