import Playground.Shell.Builtin
import Playground.Shell.Redirection

set_option autoImplicit false

/-! # Copies of the shell

Commands that must not change the shell, or that go on beside it, are executed by a copy of it. A
copy does what it is there for and halts; it never goes on with what its parent was about to
do. -/

namespace Playground.Shell

open Machine (Bytes Script)

namespace Child

/-! ## Copies -/

/-- Forgets what a copy does not take over: commands on signals, jobs and loops. -/
def enter : Run Unit := do
  let s ← get
  for (signal, text) in s.traps do
    if signal ≠ 0 ∧ text ≠ [] then ask (.dispose signal .default) else pure ()
  set { s with
    traps := s.traps.filter fun t => t.1 ≠ 0 && t.2.isEmpty
    caught := []
    jobs := []
    ended := []
    loops := 0 }

/-- The code with which a shell ends that was left in some way. -/
def codeOf (s : State) : Except Jump Unit → Nat
  | .ok () => s.status
  | .error (.exit code) => code
  | .error (.leave code) => code
  | .error .failure => failureStatus
  | .error (.halt code) => code
  | .error (.breakLoop _) => s.status
  | .error (.continueLoop _) => s.status

/-- Does something and what is to be done at the end of the shell. Returns the exit code. -/
def conclude (evaluate : Bytes → Run Unit) (body : Run Unit) : Run Nat := do
  match ← attempt body with
  | .error (.halt code) => leaveWith (.halt code)
  | result =>
      let s ← get
      let code := codeOf s result
      match s.traps.lookup 0 with
      | none => return code
      | some [] => return code
      | some text =>
          set { s with status := code, traps := s.traps.filter fun t => t.1 ≠ 0 }
          match ← attempt (evaluate text) with
          | .error (.exit code) => return code
          | .error (.halt code) => leaveWith (.halt code)
          | _ => return code

/-- Makes a copy of the shell. Returns its number to the parent. -/
def start (inCopy : Run Nat) : Run Nat := do
  let child : Nat ← ask .fork
  if child = 0 then
    enter
    leaveWith (.halt (← inCopy))
  else return child

/-- Leaves something that needs no answer to a copy. -/
def later (body : Run Unit) : Run Unit := do
  let _ ← start do
    body
    return 0

/-- Is there a command for some signal, or for the end of the shell? -/
def hasTraps (s : State) : Bool := s.traps.any fun t => !t.2.isEmpty

/-! ## Waiting -/

/-- Waits for processes, whatever signals are caught meanwhile. Returns how they ended, the last one
    first. Others that end meanwhile are remembered. -/
def await (steps : Nat) (processes : List Nat) (ended : List (Nat × WaitStatus)) :
    Run (List (Nat × WaitStatus)) :=
  match steps with
  | 0 => return ended
  | steps + 1 => do
      if ended.length = processes.length then return ended
      else
        match ← ask (.wait none true) with
        | .ok (.ended process status) =>
            if processes.contains process then
              await steps processes ((process, status) :: ended)
            else
              modify fun s => { s with ended := (process, status) :: s.ended }
              await steps processes ended
        | .ok _ =>
            Builtin.notice
            await steps processes ended
        | .error _ => return ended

/-- Waits for the processes of a command, and takes over the status of the last one. It is told if a
    signal has ended the one that ended last. -/
def awaitAll (processes : List Nat) : Run Unit := do
  let ended ← await Script.endless processes []
  match ended with
  | (_, status) :: _ => Builtin.tell status
  | [] => pure ()
  let status := (processes.getLast?).bind fun process => List.lookup process ended
  setStatus (Builtin.codeOf (status.getD (.exited 127)))

/-- Takes note of a command in the background. -/
def addJob (process : Nat) : Run Unit :=
  modify fun s =>
    { s with
      lastBackground := some process
      jobs := s.jobs ++ [⟨s.jobs.length + 1, process⟩]
      status := 0 }

/-- What a command in the background has in place of the shell's input and of the signals from the
    keyboard. -/
def detach (readsNothing : Bool) : Run Unit := do
  ask (.dispose 2 .ignore)
  ask (.dispose 3 .ignore)
  if readsNothing then
    match ← ask (.openAt "/dev/null" .read 0) with
    | .ok n => Redirection.move n 0
    | .error _ => pure ()
  else pure ()

/-! ## Programs -/

/-- The error that is told of several. What is not there is told only if nothing else is. -/
def worse (a b : HostError) : HostError :=
  match b with
  | .notFound => a
  | .notADirectory => a
  | b => b

/-- Becomes the first of these programs that can be started. Returns what is wrong if none can. -/
def becomeFirst (arguments : List (List UInt8)) (environment : List (List UInt8 × List UInt8))
    (fault : HostError) : List Bytes → Run HostError
  | [] => return fault
  | path :: paths => do
      let e : HostError ← ask (.exec (Bytes.toText path) arguments environment)
      match e with
      | .notExecutable =>
          let shell := Bytes.toOctets "/bin/sh".toList
          let e : HostError ← ask (.exec "/bin/sh"
            (shell :: Bytes.toOctets path :: arguments.drop 1) environment)
          return e
      | e => becomeFirst arguments environment (worse fault e) paths

/-- Becomes a program. If that cannot be, the shell ends. -/
def become (name : Bytes) (arguments : List Bytes) : Run Unit := do
  let s ← get
  let environment := s.environment.map fun (name, value) =>
    (Bytes.toOctets name, Bytes.toOctets value)
  let words := (name :: arguments).map Bytes.toOctets
  let e ← becomeFirst words environment .notFound (Builtin.candidates s name)
  let isMissing := e == .notFound || e == .notADirectory
  let reason := if name = [] then Script.errorText .permissionDenied
    else if isMissing then "not found".toList else Script.errorText e
  complain (name ++ ": ".toList ++ reason)
  let code :=
    if name = [] ∨ isMissing ∨ e = .nameTooLong ∨ e = .tooManyLinks then 127 else 126
  leaveWith (.exit code)

end Child

end Playground.Shell
