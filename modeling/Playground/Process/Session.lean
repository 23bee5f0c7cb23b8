import Playground.Duration
import Playground.Failure
import Playground.HostError
import Playground.Process.Output
import Playground.Text.Utf8

set_option autoImplicit false

/-! # Watching a process

Four things are waited for when a process is watched: that it ends, that all who could write to its
output and to its errors have closed them, and that its input has been handed over or given up.
Each happens at some time after the start, or not at all. The process has finished within a limit
when all four have happened by then; a fault of a stream before that ends the watch. -/

namespace Playground

/-- A stream that is read: what came, and when it was closed. -/
structure Captured where
  octets : List UInt8
  /-- Nanoseconds after the start. -/
  closed : Option Nat
  deriving DecidableEq, Repr

def Captured.text (c : Captured) : String := String.ofList (Text.Utf8.decodeLossy c.octets)

structure Session where
  /-- The process, which leads the group of the same number. -/
  process : Nat
  ended : Option (Nat × WaitStatus)
  stdout : Captured
  stderr : Captured
  /-- When the input was handed over or given up. -/
  fed : Option Nat
  fault : Option (Nat × HostError)
  deriving DecidableEq, Repr

namespace Session

/-- What a watch comes to. -/
inductive Result where
  | finished (output : ProcessOutput)
  | faulted (error : HostError)
  | overrun
  deriving DecidableEq, Repr

/-- The time at which the last of the four has happened, if all have. -/
def completion? (s : Session) : Option Nat := do
  let (ended, _) ← s.ended
  let out ← s.stdout.closed
  let err ← s.stderr.closed
  let fed ← s.fed
  return max (max ended out) (max err fed)

/-- Has this happened within the limit? -/
def within (limit : Duration) (time : Option Nat) : Bool :=
  match time with
  | some t => t ≤ limit.nanoseconds
  | none => false

/-- What is known at the limit. -/
def result (s : Session) (limit : Duration) : Result :=
  match s.fault, s.ended with
  | some (t, e), _ => if within limit (some t) then .faulted e else .overrun
  | none, some (_, status) =>
      if within limit s.completion? then .finished ⟨status, s.stdout.text, s.stderr.text⟩
      else .overrun
  | none, none => .overrun

end Session

end Playground
