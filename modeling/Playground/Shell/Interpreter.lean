import Playground.Shell.Child
import Playground.Shell.Reader

set_option autoImplicit false

/-! # Executing commands

Commands are executed by recursion on them, and so are the commands that they read from texts. Both
are bounded by a number of steps that no run reaches. -/

namespace Playground.Shell

open Machine (Bytes Script)

/-- What the surroundings of a command make of it. -/
structure Mode where
  /-- Nothing is to be done after it, so that the shell itself may become the program. -/
  isLast : Bool
  /-- Its failure is looked at by somebody. -/
  isTested : Bool

namespace Mode

def ordinary : Mode := ⟨false, false⟩
def tested : Mode := ⟨false, true⟩
def last : Mode := ⟨true, false⟩

/-- For a command that is followed by something. -/
def followed (m : Mode) : Mode := ⟨false, m.isTested⟩

end Mode

namespace Interpreter

/-! ## Around commands -/

/-- With the option for that, the shell ends when a command has failed and nobody looks at it. -/
def check (mode : Mode) : Run Unit := do
  let s ← get
  if s.status ≠ 0 ∧ mode.isTested = false ∧ s.options.contains 'e' then
    leaveWith (.exit s.status)
  else pure ()

/-- With the option for that, writes down what is about to be executed. -/
def trace (words : List Bytes) : Run Unit := do
  let s ← get
  if s.options.contains 'x' ∧ words ≠ [] then
    let start := (s.value? "PS4".toList).getD "+ ".toList
    lift (Script.put Script.stderr (start ++ Bytes.joinWith [' '] words ++ ['\n']))
  else pure ()

/-- What a round of a loop has led to. -/
inductive Round where
  | goesOn
  | ends

/-- Does what a loop repeats once. -/
def round (body : Run Unit) : Run Round := do
  match ← attempt body with
  | .ok () => return .goesOn
  | .error (.continueLoop 0) => return .goesOn
  | .error (.continueLoop (depth + 1)) => leaveWith (.continueLoop depth)
  | .error (.breakLoop 0) => return .ends
  | .error (.breakLoop (depth + 1)) => leaveWith (.breakLoop depth)
  | .error j => leaveWith j

/-- Does something inside one more loop. -/
def insideLoop (body : Run Unit) : Run Unit := do
  modify fun s => { s with loops := s.loops + 1 }
  let result ← attempt body
  modify fun s => { s with loops := s.loops - 1 }
  match result with
  | .ok () => pure ()
  | .error j => leaveWith j

/-- Does something, and takes leaving it for its end. -/
def catchLeave (body : Run Unit) : Run Unit := do
  match ← attempt body with
  | .ok () => pure ()
  | .error (.leave code) => setStatus code
  | .error j => leaveWith j

/-- How many functions may be called within each other. -/
def callLimit : Nat := 1000

/-- Does something with other arguments and with variables of its own. -/
def asFunction (arguments : List Bytes) (body : Run Unit) : Run Unit := do
  let s ← get
  if callLimit ≤ s.locals.length then
    fail "Maximum function recursion depth (1000) reached".toList
  set { s with arguments := arguments, locals := [] :: s.locals, loops := 0 }
  let result ← attempt (catchLeave body)
  modify fun t =>
    let t := (t.locals.headD []).foldl (fun t (name, v) =>
      match v with
      | some v => t.putVariable name v
      | none => t.dropVariable name) t
    { t with arguments := s.arguments, locals := s.locals, loops := s.loops }
  match result with
  | .ok () => pure ()
  | .error j => leaveWith j

/-- Does something in whose complaints a command speaks. -/
def speaking {α : Type} (name : Bytes) (body : Run α) : Run α := do
  let old := (← get).speaker
  modify fun s => { s with speaker := some name }
  let result ← attempt body
  modify fun s => { s with speaker := old }
  match result with
  | .ok a => return a
  | .error j => leaveWith j

/-- Executes a command of the shell's own, which speaks for itself. Its failure is not the shell's
    unless the command is a special one. -/
def asBuiltin (name : Bytes) (isSpecial : Bool) (body : Run Nat) : Run Unit := do
  match ← attempt (speaking name body) with
  | .ok code => setStatus code
  | .error .failure => if isSpecial then leaveWith .failure else setStatus failureStatus
  | .error j => leaveWith j

/-- Gives variables their values, marked for programs if that is wanted. -/
def assignAll (substitute : Command → Run Bytes) (isExported : Bool) :
    List (Bytes × Word) → Run Unit
  | [] => pure ()
  | (name, word) :: rest => do
      let value ← Expansion.text substitute (Expansion.assignedParts (← get) word)
      trace [name ++ '=' :: value]
      assign name value
      if isExported then mark name fun v => { v with isExported := true } else pure ()
      assignAll substitute isExported rest

/-- Does something with these variables set. -/
def withAssignments (substitute : Command → Run Bytes) (assignments : List (Bytes × Word))
    (body : Run Unit) : Run Unit :=
  match assignments with
  | [] => body
  | assignments =>
      keepingVariables (assignments.map Prod.fst) do
        assignAll substitute true assignments
        body

/-- Connects a member of a pipeline with the ones before and after it. -/
def connect (before : Option Nat) (after : Option (Nat × Nat)) : Run Unit := do
  match before with
  | some n => Redirection.move n 0
  | none => pure ()
  match after with
  | some (reads, writes) =>
      Redirection.move writes 1
      let _ ← ask (.close reads)
  | none => pure ()

def closeIf (descriptor : Option Nat) : Run Unit := do
  match descriptor with
  | some n =>
      let _ ← ask (.close n)
  | none => pure ()

/-- Starts the members of a pipeline. Returns their numbers. -/
def startAll (run : Command → Run Nat) (isDetached : Bool) (before : Option Nat) :
    List Command → Run (List Nat)
  | [] => return []
  | [command] => do
      let child ← Child.start do
        if isDetached then Child.detach before.isNone else pure ()
        connect before none
        run command
      closeIf before
      return [child]
  | command :: rest => do
      let (reads, writes) : Nat × Nat ← ask .makePipe
      let child ← Child.start do
        if isDetached then Child.detach before.isNone else pure ()
        connect before (some (reads, writes))
        run command
      closeIf before
      let _ ← ask (.close writes)
      return child :: (← startAll run isDetached (some reads) rest)

/-- All that a descriptor gives, without the line ends at its end. -/
def readOutput (descriptor : Nat) : Run Bytes := do
  match ← lift (Script.readAll descriptor) with
  | .ok b => return ((b.filter fun c => c.toNat ≠ 0).reverse.dropWhile (· == '\n')).reverse
  | .error _ => return []

/-- Does the text match one of the patterns? -/
def matchesOne (substitute : Command → Run Bytes) (text : Bytes) : List Word → Run Bool
  | [] => return false
  | word :: words => do
      let items := Pattern.read (← Expansion.glyphsOf substitute word)
      if Pattern.hits items text then return true else matchesOne substitute text words

/-- The path of a file of commands. -/
def findText (name : Bytes) : Run Bytes := do
  if name.contains '/' then return name
  else
    match ← Builtin.locate name with
    | some path => return path
    | none => failOf name "not found"

/-- The contents of a file of commands. -/
def readText (path : Bytes) : Run Bytes := do
  match ← lift (Script.readFile path) with
  | .ok text => return text
  | .error e => fail (Redirection.faultOf .read path e)

/-! ## Execution -/

mutual

/-- The output of a command. -/
def substitute (steps : Nat) (body : Command) : Run Bytes :=
  match steps with
  | 0 => return []
  | steps + 1 => do
      let (reads, writes) : Nat × Nat ← ask .makePipe
      let child ← Child.start do
        Redirection.move writes 1
        let _ ← ask (.close reads)
        Child.conclude (evaluate steps Mode.ordinary) (exec steps Mode.last body)
      let _ ← ask (.close writes)
      let output ← readOutput reads
      let _ ← ask (.close reads)
      let status ← get
      Child.awaitAll [child]
      modify fun s => { s with substituted := some s.status, status := status.status }
      return output
  termination_by structural steps

/-- Executes the commands of a text. -/
def evaluate (steps : Nat) (mode : Mode) (text : Bytes) : Run Unit :=
  match steps with
  | 0 => pure ()
  | steps + 1 => do
      evaluateFrom steps mode false (Reader.start text 1 (← get).nextDocument)
  termination_by structural steps

/-- Executes what is left of a text. A text without commands succeeds. -/
def evaluateFrom (steps : Nat) (mode : Mode) (hasBegun : Bool) (r : ReaderState) : Run Unit :=
  match steps with
  | 0 => pure ()
  | steps + 1 => do
      match Reader.nextCommand r with
      | .error fault =>
          modify fun s => { s with line := fault.line }
          fail fault.message.toList
      | .ok (none, _) => if hasBegun then pure () else setStatus 0
      | .ok (some command, r) =>
          modify fun s =>
            { s with
              documents := r.documents ++ s.documents
              nextDocument := r.nextDocument }
          exec steps ⟨mode.isLast && Reader.isAtEnd r, mode.isTested⟩ command
          evaluateFrom steps mode true { r with documents := [] }
  termination_by structural steps

/-- Executes the commands for the signals that were caught. -/
def attend (steps : Nat) : Run Unit :=
  match steps with
  | 0 => pure ()
  | steps + 1 => do
      Builtin.notice
      match (← get).caught with
      | [] => pure ()
      | signal :: rest =>
          modify fun s => { s with caught := rest }
          let s ← get
          match s.traps.lookup signal with
          | some text =>
              evaluate steps Mode.ordinary text
              setStatus s.status
          | none => pure ()
          attend steps
  termination_by structural steps

def exec (steps : Nat) (mode : Mode) (command : Command) : Run Unit :=
  match steps with
  | 0 => pure ()
  | steps + 1 => do
      if ← hasOption 'n' then return
      match command with
      | .skip => pure ()
      | .simple line assignments words redirects =>
          execSimple steps mode line assignments words redirects
          attend steps
          check mode
      | .pipeline isNegated commands =>
          match isNegated, commands with
          | true, [body] => exec steps Mode.tested body
          | _, commands =>
              let run (c : Command) : Run Nat :=
                Child.conclude (evaluate steps Mode.ordinary) (exec steps Mode.last c)
              Child.awaitAll (← startAll run false none commands)
          attend steps
          if isNegated then
            modify fun s => { s with status := if s.status = 0 then 1 else 0 }
          else check mode
      | .both first second =>
          exec steps Mode.tested first
          if (← get).status = 0 then exec steps mode second else pure ()
      | .either first second =>
          exec steps Mode.tested first
          if (← get).status = 0 then pure () else exec steps mode second
      | .sequence first second =>
          exec steps mode.followed first
          exec steps mode second
      | .background line body =>
          modify fun s => { s with line := line }
          let run (c : Command) : Run Nat :=
            Child.conclude (evaluate steps Mode.ordinary) (exec steps Mode.last c)
          let members :=
            match body with
            | .pipeline false commands => commands
            | body => [body]
          let processes ← startAll run true none members
          Child.addJob (processes.getLastD 0)
          attend steps
      | .subshell line body redirects =>
          modify fun s => { s with line := line }
          execSubshell steps mode body redirects
          attend steps
          check mode
      | .redirected line body redirects =>
          modify fun s => { s with line := line }
          let prepared ← redirects.mapM (Redirection.prepare (substitute steps))
          Redirection.around Child.later prepared (setStatus failureStatus)
            (exec steps mode.followed body)
      | .branch test ifTrue ifFalse =>
          exec steps Mode.tested test
          if (← get).status = 0 then exec steps mode ifTrue
          else
            match ifFalse with
            | .skip => setStatus 0
            | ifFalse => exec steps mode ifFalse
      | .loop isUntil test body => insideLoop (repeatWhile steps mode isUntil test body 0)
      | .each line name words body =>
          modify fun s => { s with line := line }
          let fields ←
            match words with
            | some words => Expansion.fields (substitute steps) words
            | none => do pure (← get).arguments
          setStatus 0
          insideLoop (repeatFor steps mode name body fields)
      | .choose line word cases =>
          modify fun s => { s with line := line }
          let text ← Expansion.text (substitute steps) word
          setStatus 0
          choose steps mode text cases
      | .define name body =>
          modify fun s =>
            { s with
              functions := (name, body) :: s.functions.filter fun entry => entry.1 ≠ name
              status := 0 }
  termination_by structural steps

/-- Repeats commands as long as a test says so. -/
def repeatWhile (steps : Nat) (mode : Mode) (isUntil : Bool) (test body : Command) (code : Nat) :
    Run Unit :=
  match steps with
  | 0 => pure ()
  | steps + 1 => do
      attend steps
      match ← round (exec steps Mode.tested test) with
      | .ends => setStatus code
      | .goesOn =>
          if ((← get).status = 0) = (isUntil = true) then setStatus code
          else
            match ← round (exec steps mode.followed body) with
            | .ends => pure ()
            | .goesOn => repeatWhile steps mode isUntil test body (← get).status
  termination_by structural steps

/-- Repeats commands for each value of a variable. -/
def repeatFor (steps : Nat) (mode : Mode) (name : Bytes) (body : Command) (values : List Bytes) :
    Run Unit :=
  match steps, values with
  | 0, _ => pure ()
  | _, [] => pure ()
  | steps + 1, value :: values => do
      assign name value
      match ← round (exec steps mode.followed body) with
      | .ends => pure ()
      | .goesOn => repeatFor steps mode name body values
  termination_by structural steps

/-- Executes the commands of the first case that a text matches. -/
def choose (steps : Nat) (mode : Mode) (text : Bytes) (cases : List (List Word × Command)) :
    Run Unit :=
  match steps, cases with
  | 0, _ => pure ()
  | _, [] => pure ()
  | steps + 1, (patterns, body) :: cases => do
      if ← matchesOne (substitute steps) text patterns then exec steps mode body
      else choose steps mode text cases
  termination_by structural steps

/-- Executes a command in a copy of the shell, or in the shell itself if nothing comes after. -/
def execSubshell (steps : Nat) (mode : Mode) (body : Command) (redirects : List Redirect) :
    Run Unit :=
  match steps with
  | 0 => pure ()
  | steps + 1 => do
      let inside : Run Unit := do
        let prepared ← redirects.mapM (Redirection.prepare (substitute steps))
        Redirection.applyAll Child.later prepared
        exec steps Mode.last body
      if mode.isLast ∧ Child.hasTraps (← get) = false then
        Child.enter
        inside
        leaveWith (.exit (← get).status)
      else
        let child ← Child.start (Child.conclude (evaluate steps Mode.ordinary) inside)
        Child.awaitAll [child]
  termination_by structural steps

def execSimple (steps : Nat) (mode : Mode) (line : Nat) (assignments : List (Bytes × Word))
    (words : List Word) (redirects : List Redirect) : Run Unit :=
  match steps with
  | 0 => pure ()
  | steps + 1 => do
      modify fun s => { s with line := line, substituted := none }
      let fields ← Expansion.fields (substitute steps) words
      trace fields
      let prepared ← redirects.mapM (Redirection.prepare (substitute steps))
      match fields with
      | [] =>
          Redirection.around Child.later prepared (setStatus failureStatus) do
            assignAll (substitute steps) false assignments
            modify fun s => { s with status := s.substituted.getD 0 }
      | name :: arguments =>
          let s ← get
          match s.functions.lookup name with
          | some body =>
              if Builtin.isSpecial name then
                execBuiltin steps mode false assignments name arguments prepared
              else
                Redirection.around Child.later prepared (setStatus failureStatus)
                  (withAssignments (substitute steps) assignments
                    (asFunction arguments (exec steps mode.followed body)))
          | none =>
              if Builtin.isBuiltin name then
                execBuiltin steps mode false assignments name arguments prepared
              else execProgram steps mode assignments name arguments prepared
  termination_by structural steps

/-- Executes a command of the shell's own. -/
def execBuiltin (steps : Nat) (mode : Mode) (isPlain : Bool) (assignments : List (Bytes × Word))
    (name : Bytes) (arguments : List Bytes) (prepared : List Redirection.Prepared) : Run Unit :=
  match steps with
  | 0 => pure ()
  | steps + 1 => do
      let isSpecial := Builtin.isSpecial name && !isPlain
      let body : Run Unit := do
        match String.ofList name with
        | "eval" =>
            speaking name (evaluate steps mode.followed (Bytes.joinWith [' '] arguments))
        | "." =>
            match arguments with
            | [] => setStatus 0
            | file :: _ =>
                let text ← speaking name do
                  readText (← findText file)
                speaking file (catchLeave (evaluate steps mode.followed text))
        | "exec" =>
            let arguments :=
              if arguments.head? == some ['-', '-'] then arguments.drop 1 else arguments
            match arguments with
            | [] => setStatus 0
            | program :: rest =>
                assignAll (substitute steps) true assignments
                speaking name (Child.become program rest)
        | "command" =>
            match ← attempt (speaking name (Builtin.withOptions { flags := "pvV" } arguments)) with
            | .error .failure => setStatus failureStatus
            | .error j => leaveWith j
            | .ok (options, words) =>
                match options.has 'v', options.has 'V', words with
                | true, _, words => setStatus (← Builtin.describe false words)
                | false, true, words => setStatus (← Builtin.describe true words)
                | false, false, [] => setStatus 0
                | false, false, name :: rest =>
                    if Builtin.isBuiltin name then execBuiltin steps mode true [] name rest []
                    else execProgram steps mode [] name rest []
        | _ =>
            match Builtin.find? name with
            | some run => asBuiltin name isSpecial (run arguments)
            | none => setStatus 0
      let inside : Run Unit :=
        if isSpecial then do
          assignAll (substitute steps) false assignments
          body
        else withAssignments (substitute steps) assignments body
      if name = "exec".toList then
        Redirection.applyAll Child.later prepared
        inside
      else
        Redirection.around Child.later prepared
          (if isSpecial then leaveWith .failure else setStatus failureStatus) inside
  termination_by structural steps

/-- Executes a program in a copy of the shell, or in the shell's place if nothing comes after. -/
def execProgram (steps : Nat) (mode : Mode) (assignments : List (Bytes × Word)) (name : Bytes)
    (arguments : List Bytes) (prepared : List Redirection.Prepared) : Run Unit :=
  match steps with
  | 0 => pure ()
  | steps + 1 => do
      let inside : Run Unit := do
        Redirection.applyAll Child.later prepared
        Child.become name arguments
      if mode.isLast ∧ Child.hasTraps (← get) = false then
        assignAll (substitute steps) true assignments
        match ← attempt inside with
        | .error .failure => leaveWith (.exit failureStatus)
        | .error j => leaveWith j
        | .ok () => pure ()
      else
        withAssignments (substitute steps) assignments do
          let child ← Child.start (Child.conclude (evaluate steps Mode.ordinary) inside)
          Child.awaitAll [child]
  termination_by structural steps

end

end Interpreter

end Playground.Shell
