import Playground.Language
import Playground.Path
import Playground.Settings

set_option autoImplicit false

/-! # Toolchains

How a language is built and run. A compiled language has a file that its source is written to and a
command that compiles it; an interpreted one takes the code as an argument. Commands name their
files by the path of the workspace they run in. -/

namespace Playground

/-- A program and its arguments. The program is looked up unless it is a path. -/
structure Command where
  program : String
  arguments : List String
  deriving DecidableEq, Repr

inductive Toolchain where
  | python (interpreter : String)
  | java (compiler runtime : String)
  | cpp (standard compiler : String)
  deriving DecidableEq, Repr

namespace Toolchain

/-! ## Making one -/

def newPython (interpreter : Option String) : Toolchain :=
  .python (interpreter.getD Settings.default.pythonInterpreter)

def newJava (compiler runtime : Option String) : Toolchain :=
  .java (compiler.getD Settings.default.javaCompiler) (runtime.getD Settings.default.javaRuntime)

def newCpp (standard compiler : Option String) : Toolchain :=
  .cpp (standard.getD Settings.default.cppStandard) (compiler.getD Settings.default.cppCompiler)

/-- The toolchain that the settings name for a language. -/
def ofSettings (s : Settings) : Language → Toolchain
  | .python => .python s.pythonInterpreter
  | .java => .java s.javaCompiler s.javaRuntime
  | .cpp => .cpp s.cppStandard s.cppCompiler

def language : Toolchain → Language
  | .python _ => .python
  | .java _ _ => .java
  | .cpp _ _ => .cpp

/-! ## What it asks for -/

/-- The file that the source is written to, if it is not passed inline. The name of the Java file
    is that of its public class, which is the entry point. -/
def sourceName? : Toolchain → Option String
  | .python _ => none
  | .java _ _ => some "Main.java"
  | .cpp _ _ => some "main.cpp"

/-- The command that compiles the source in a workspace. -/
def compileCommand? (t : Toolchain) (workspace : String) : Option Command :=
  match t with
  | .python _ => none
  | .java compiler _ => some ⟨compiler, [Path.join workspace "Main.java"]⟩
  | .cpp standard compiler =>
      some ⟨compiler, ["-std=c++" ++ standard, Path.join workspace "main.cpp", "-o",
        Path.join workspace "main"]⟩

/-- The command that runs the code in a workspace. -/
def runCommand (t : Toolchain) (workspace code : String) : Command :=
  match t with
  | .python interpreter => ⟨interpreter, ["-c", code]⟩
  | .java _ runtime => ⟨runtime, ["-cp", workspace, "Main"]⟩
  | .cpp _ _ => ⟨Path.join workspace "main", []⟩

/-- The programs that must be there. -/
def requiredTools : Toolchain → List String
  | .python interpreter => [interpreter]
  | .java compiler runtime => [compiler, runtime]
  | .cpp _ compiler => [compiler]

end Toolchain

end Playground
