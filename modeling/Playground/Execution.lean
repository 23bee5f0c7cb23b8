import Playground.Workspace

set_option autoImplicit false

/-! # Executions

How a piece of code is run: the tools are looked for, a workspace is made, the source is written,
compiled if the language has a compiler, and run. The first of these that fails decides what is
reported, and nothing after it is done. -/

namespace Playground.Execution

/-- The tools that cannot be found, in the order in which they are wanted. -/
def missingTools : List String → Plan (List String)
  | [] => pure []
  | tool :: tools => do
      let found ← Plan.request (.locate tool)
      let missing ← missingTools tools
      return if found.isSome then missing else tool :: missing

def checkTools (t : Toolchain) : Plan (Except Failure Unit) := do
  match ← missingTools t.requiredTools with
  | [] => return .ok ()
  | missing => return .error (.missingTools missing)

/-- Compiles the source of a workspace, if that has to be done. -/
def compile (s : Settings) (t : Toolchain) (w : Workspace) : Plan (Except Failure Unit) :=
  match t.compileCommand? w.path with
  | none => pure (.ok ())
  | some command =>
      (w.run command none s.compileLimit .compile).onSuccess fun output =>
        pure (if output.status.isSuccess then .ok () else .error (.compilation output.diagnostics))

/-- Runs the code in its workspace and returns what it wrote. -/
def run (s : Settings) (t : Toolchain) (w : Workspace) (code : String) (input : Option String) :
    Plan (Except Failure String) :=
  (w.run (t.runCommand w.path code) input s.runLimit .run).onSuccess fun output =>
    pure (if output.status.isSuccess then .ok output.stdout
      else .error (.runtime output.diagnostics))

/-- What is done in the workspace. -/
def inWorkspace (s : Settings) (t : Toolchain) (code : String) (input : Option String)
    (w : Workspace) : Plan (Except Failure String) :=
  (w.writeSource t code).onSuccess fun _ =>
    (compile s t w).onSuccess fun _ => run s t w code input

/-- The whole execution. -/
def plan (s : Settings) (l : Language) (code : String) (input : Option String) :
    Plan (Except Failure String) :=
  let t := Toolchain.ofSettings s l
  (checkTools t).onSuccess fun _ => Workspace.within s.workspaceRoot (inWorkspace s t code input)

end Playground.Execution
