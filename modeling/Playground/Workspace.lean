import Playground.Failure
import Playground.Path
import Playground.Plan
import Playground.Toolchain

set_option autoImplicit false

/-! # Workspaces

A workspace is a directory that belongs to one execution. It is made new, so a directory that is
already there is never taken over, and it is removed however the execution ends. -/

namespace Playground

structure Workspace where
  path : String
  id : String
  deriving DecidableEq, Repr

namespace Workspace

/-- The path of the workspace with an identifier. -/
def pathOf (root id : String) : String := Path.join root ("polyglot-" ++ id)

/-! ## Making and removing one -/

def rootFailure (root : String) (e : HostError) : Failure :=
  .workspace ("Failed to create workspace root " ++ root ++ ": " ++ e.message)

def directoryFailure (e : HostError) : Failure :=
  .workspace ("Failed to create workspace directory: " ++ e.message)

/-- Makes a workspace under a root, which is made too if it is not there. -/
def create (root : String) : Plan (Except Failure Workspace) := do
  let id ← Plan.request .drawId
  let path := pathOf root id
  match ← Plan.request (.createTree root) with
  | .error e => return .error (rootFailure root e)
  | .ok () =>
      match ← Plan.request (.createPrivate path) with
      | .error e => return .error (directoryFailure e)
      | .ok () => return .ok ⟨path, id⟩

def remove (w : Workspace) : Plan Unit := Plan.request (.remove w.path)

/-- Uses a workspace that is removed afterwards, whatever came of it. -/
def within {α : Type} (root : String) (use : Workspace → Plan (Except Failure α)) :
    Plan (Except Failure α) := do
  match ← create root with
  | .error f => return .error f
  | .ok w =>
      let result ← use w
      w.remove
      return result

/-! ## Files -/

def filePath (w : Workspace) (name : String) : String := Path.join w.path name

def writeFailure (path : String) (e : HostError) : Failure :=
  .workspace ("Failed to write " ++ path ++ ": " ++ e.message)

/-- Writes a file and returns its path. -/
def write (w : Workspace) (name contents : String) : Plan (Except Failure String) := do
  let path := w.filePath name
  match ← Plan.request (.write path contents) with
  | .ok () => return .ok path
  | .error e => return .error (writeFailure path e)

/-- Writes the source to the file that a toolchain expects it in, if it expects one. -/
def writeSource (w : Workspace) (t : Toolchain) (code : String) : Plan (Except Failure Unit) :=
  match t.sourceName? with
  | none => pure (.ok ())
  | some name => do
      match ← w.write name code with
      | .ok _ => return .ok ()
      | .error f => return .error f

/-! ## Processes -/

/-- Is the program started by its path as it is written? Other names are looked up. -/
def isPath (program : String) : Bool := Path.isAbsolute program || Path.startsHere program

/-- The path that a program is started by. -/
def resolve (program : String) : Plan (Except Failure String) :=
  if isPath program then pure (.ok program)
  else do
    match ← Plan.request (.locate program) with
    | some path => return .ok path
    | none => return .error (.missingTools [program])

def spawnFailure (program : String) (e : HostError) : Failure :=
  .system ("Failed to spawn " ++ program ++ ": " ++ e.message)

def streamFailure (e : HostError) : Failure :=
  .system ("Process I/O failed: " ++ e.message)

/-- Ends what a watched process has left behind. One that finished is gone itself; the others are
    killed with their group. -/
def settle (s : Session) (stage : Stage) (limit : Duration) :
    Plan (Except Failure ProcessOutput) := do
  Plan.request (.killGroup s.process)
  match s.result limit with
  | .finished output => return .ok output
  | .faulted e =>
      Plan.request (.killProcess s.process)
      return .error (streamFailure e)
  | .overrun =>
      Plan.request (.killProcess s.process)
      return .error (.timeout stage)

/-- Runs a command in the workspace, but no longer than this. -/
def run (w : Workspace) (command : Command) (input : Option String) (limit : Duration)
    (stage : Stage) : Plan (Except Failure ProcessOutput) :=
  (resolve command.program).onSuccess fun program => do
    match ← Plan.request (.watch ⟨program, command.arguments, w.path, input⟩ limit) with
    | .error e => return .error (spawnFailure command.program e)
    | .ok session => settle session stage limit

end Workspace

end Playground
