set_option autoImplicit false

/-! # Failures

Why an execution did not answer with a program's output. A `Failure` holds the cause; its wording
is `Failure.message` and nothing else. Every failure belongs to one of six kinds, which is what
callers that are programs look at: two of them are the caller's fault, three are the submitted
program's, and the last one is ours. -/

namespace Playground

/-- The two commands that an execution may start. -/
inductive Stage where
  | compile
  | run
  deriving DecidableEq, Repr

def Stage.name : Stage → String
  | .compile => "Compilation"
  | .run => "Execution"

/-! ## Kinds -/

inductive Kind where
  | malformedRequest
  | unsupportedLanguage
  | compileFailure
  | runtimeFailure
  | timeout
  | internalFault
  deriving DecidableEq, Repr

namespace Kind

def all : List Kind :=
  [.malformedRequest, .unsupportedLanguage, .compileFailure, .runtimeFailure, .timeout,
    .internalFault]

/-- The name of a kind on the wire. -/
def name : Kind → String
  | .malformedRequest => "malformed_request"
  | .unsupportedLanguage => "unsupported_language"
  | .compileFailure => "compile_failure"
  | .runtimeFailure => "runtime_failure"
  | .timeout => "timeout"
  | .internalFault => "internal_fault"

def ofName? (name : String) : Option Kind := all.find? fun k => k.name == name

theorem ofName?_name (k : Kind) : ofName? k.name = some k := by cases k <;> decide

/-- Is a request of this kind of failure to blame on who sent it? -/
def isCallersFault : Kind → Bool
  | .malformedRequest => true
  | .unsupportedLanguage => true
  | _ => false

end Kind

/-! ## Causes -/

inductive Failure where
  | malformedRequest (reason : String)
  | unsupportedLanguage (tag : String)
  | compilation (diagnostics : String)
  | runtime (diagnostics : String)
  | timeout (stage : Stage)
  | missingTools (names : List String)
  | workspace (reason : String)
  | io (reason : String)
  | system (reason : String)
  deriving DecidableEq, Repr

namespace Failure

def kind : Failure → Kind
  | .malformedRequest _ => .malformedRequest
  | .unsupportedLanguage _ => .unsupportedLanguage
  | .compilation _ => .compileFailure
  | .runtime _ => .runtimeFailure
  | .timeout _ => .timeout
  | .missingTools _ => .internalFault
  | .workspace _ => .internalFault
  | .io _ => .internalFault
  | .system _ => .internalFault

/-- The wording of a failure. A program that failed speaks for itself: its diagnostics stand
    without a word of ours. -/
def message : Failure → String
  | .malformedRequest reason => "Malformed request: " ++ reason
  | .unsupportedLanguage tag => "Unsupported language: " ++ tag
  | .compilation diagnostics => "Compilation error:\n" ++ diagnostics
  | .runtime diagnostics => diagnostics
  | .timeout stage => stage.name ++ " timed out"
  | .missingTools names => "Required tool not found: " ++ ", ".intercalate names
  | .workspace reason => "Workspace error: " ++ reason
  | .io reason => "IO error: " ++ reason
  | .system reason => "System error: " ++ reason

end Failure

/-! ## Outcomes -/

/-- What the caller of an execution gets: the program's output, or a failure in words and its
    kind. -/
inductive Outcome where
  | success (output : String)
  | failure (error : String) (kind : Kind)
  deriving DecidableEq, Repr

namespace Outcome

def ofFailure (f : Failure) : Outcome := .failure f.message f.kind

def ofExcept : Except Failure String → Outcome
  | .ok output => .success output
  | .error f => ofFailure f

def isSuccess : Outcome → Bool
  | .success _ => true
  | .failure _ _ => false

def output? : Outcome → Option String
  | .success output => some output
  | .failure _ _ => none

def error? : Outcome → Option String
  | .success _ => none
  | .failure error _ => some error

def kind? : Outcome → Option Kind
  | .success _ => none
  | .failure _ kind => some kind

end Outcome

end Playground
