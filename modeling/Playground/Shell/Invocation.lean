import Playground.Shell.Interpreter

set_option autoImplicit false

/-! # Invocations

A shell is given commands as an argument, in a file, or on its standard input. -/

namespace Playground.Shell

open Machine (Bytes Script Program)

namespace Invocation

/-- Where commands come from. -/
inductive Source where
  | argument (text : Bytes)
  | file (path : Bytes)
  | input

end Invocation

/-- How a shell is started: its options, its commands, what it is called, and its arguments. -/
structure Invocation where
  options : List Char
  source : Invocation.Source
  name : Bytes
  arguments : List Bytes

namespace Invocation

/-- The options in front of the arguments, and whether they say that commands are an argument or
    the input. -/
def takeOptions (steps : Nat) (letters : List Char) (words : List Bytes) :
    Except Bytes (List Char × List Bytes) :=
  match steps, words with
  | 0, _ => .ok (letters, words)
  | _, [] => .ok (letters, [])
  | steps + 1, word :: rest =>
      match word with
      | ['-', '-'] => .ok (letters, rest)
      | ['-'] => .ok (letters, rest)
      | sign :: c :: cs =>
          if sign ≠ '-' ∧ sign ≠ '+' then .ok (letters, words)
          else if c :: cs = ['o'] then
            match rest with
            | name :: rest =>
                match Builtin.optionNames.lookup (String.ofList name) with
                | some letter => takeOptions steps (letters ++ [letter]) rest
                | none => .error ("Illegal option -o ".toList ++ name)
            | [] => .ok (letters, [])
          else
            match (c :: cs).find? fun d =>
                !(d == 'c' || d == 'l' || (Builtin.optionNames.map Prod.snd).contains d) with
            | some d => .error ("Illegal option ".toList ++ [sign, d])
            | none =>
                let letters := if sign = '-' then letters ++ (c :: cs)
                  else letters.filter fun d => !(c :: cs).contains d
                takeOptions steps letters rest
      | _ => .ok (letters, words)

def ofArguments (name : Bytes) (words : List Bytes) : Except Bytes Invocation :=
  match takeOptions (words.length + 1) [] words with
  | .error e => .error e
  | .ok (letters, rest) =>
      let options := letters.filter fun c => c != 'c'
      if letters.contains 'c' then
        match rest with
        | [] => .error "-c requires an argument".toList
        | text :: rest => .ok ⟨options, .argument text, rest.headD name, rest.drop 1⟩
      else
        match rest with
        | [] => .ok ⟨options, .input, name, []⟩
        | path :: arguments =>
            if letters.contains 's' then .ok ⟨options, .input, name, rest⟩
            else .ok ⟨options, .file path, path, arguments⟩

/-- The variables that a shell begins with. -/
def inherited (environment : List (Bytes × Bytes)) (parent : Nat) : List (Bytes × Variable) :=
  let taken := environment.filterMap fun (name, value) =>
    if Bytes.isName name then some (name, (⟨some value, true, false⟩ : Variable)) else none
  let own (name value : String) : Bytes × Variable :=
    (name.toList, ⟨some value.toList, false, false⟩)
  let defaults :=
    [own "IFS" " \t\n", own "OPTIND" "1", own "PPID" (toString parent), own "PS1" "# ",
      own "PS2" "> ", own "PS4" "+ ",
      own "PATH" "/usr/local/sbin:/usr/local/bin:/usr/sbin:/usr/bin:/sbin:/bin"]
  let isFixed (name : Bytes) : Bool := name == "IFS".toList || name == "PPID".toList
  let taken := taken.filter fun entry => !isFixed entry.1
  taken ++ defaults.filter fun entry => !(taken.any fun other => other.1 == entry.1)

def initial (name : Bytes) (environment : List (Bytes × Bytes)) (process parent : Nat) : State where
  name := name
  arguments := []
  held := inherited environment parent
  functions := []
  documents := []
  nextDocument := 0
  status := 0
  line := 0
  process := process
  lastBackground := none
  options := []
  traps := []
  caught := []
  jobs := []
  ended := []
  locals := []
  loops := 0
  substituted := none
  speaker := none

/-- Takes the name of the directory over from the environment if it is right. -/
def enterDirectory : Run Unit := do
  let actual ← ask .directory
  let path : Bytes ←
    match actual, (← get).value? "PWD".toList with
    | .ok path, some known =>
        let here ← ask (.status "." true)
        let there ← ask (.status (Bytes.toText known) true)
        match here, there with
        | .ok h, .ok t =>
            pure (if h.location = t.location ∧ known.head? = some '/' then known
              else Bytes.ofString path)
        | _, _ => pure (Bytes.ofString path)
    | .ok path, none => pure (Bytes.ofString path)
    | .error e, _ => do
        complain ("getcwd() failed: ".toList ++ Script.errorText e)
        pure []
  assign "PWD".toList path
  mark "PWD".toList fun v => { v with isExported := true }

/-- Executes the commands that a shell is started for. -/
def obey (p : Invocation) : Run Unit := do
  let settle : Run Unit :=
    modify fun s => { s with name := p.name, arguments := p.arguments }
  let evaluate := Interpreter.evaluate Script.endless
  match p.source with
  | .argument text =>
      settle
      evaluate Mode.ordinary text
  | .file path =>
      let text ← Interpreter.readText path
      settle
      evaluate Mode.ordinary text
  | .input =>
      settle
      match ← lift (Script.readAll Script.stdin) with
      | .ok text => evaluate Mode.ordinary text
      | .error _ => pure ()

end Invocation

/-- The shell. -/
def program : Program := fun s => do
  let identity ← Script.ask .identity
  let start := Invocation.initial s.name s.environment identity.process identity.parent
  let run : Run Nat := do
    match Invocation.ofArguments s.name s.arguments with
    | .error e =>
        complain e
        return failureStatus
    | .ok invocation =>
        Invocation.enterDirectory
        modify fun s => { s with options := invocation.options }
        Child.conclude (Interpreter.evaluate Script.endless Mode.ordinary) invocation.obey
  let (result, _) ← run start
  match result with
  | .ok code => return code
  | .error (.halt code) => return code
  | .error _ => return failureStatus

end Playground.Shell
