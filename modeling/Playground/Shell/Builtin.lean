import Playground.Machine.Options
import Playground.Shell.Expansion
import Playground.Tool.Condition
import Playground.Tool.Echo
import Playground.Tool.Mode

set_option autoImplicit false

/-! # Commands of the shell's own

Commands that the shell executes itself because they look at its state or change it, and a few that
it knows so that no program has to be started for them. Those that execute other commands are
elsewhere. -/

namespace Playground.Shell

open Machine (Bytes Script Disposition Target Grammar Options)
open Tool (Condition.holds Condition.bracketed Condition.aboutFile)

namespace Builtin

/-- Commands after whose failure the shell ends, and whose assignments stay. -/
def special : List String :=
  [".", ":", "break", "continue", "eval", "exec", "exit", "export", "local", "readonly", "return",
    "set", "shift", "times", "trap", "unset"]

def ordinary : List String :=
  ["[", "alias", "bg", "cd", "command", "echo", "false", "fg", "getopts", "hash", "jobs", "kill",
    "printf", "pwd", "read", "test", "true", "type", "ulimit", "umask", "unalias", "wait"]

def isSpecial (name : Bytes) : Bool := special.contains (String.ofList name)

def isBuiltin (name : Bytes) : Bool := isSpecial name || ordinary.contains (String.ofList name)

/-- Writes to the standard output. It is a failure if that cannot be done. -/
def print (b : Bytes) : Run Nat := do
  match ← lift (Script.writeAll Script.stdout b) with
  | .ok () => return 0
  | .error _ =>
      let speaker := (← get).speaker.getD []
      complain (speaker ++ ": I/O error".toList)
      return 1

def printLine (b : Bytes) : Run Nat := print (b ++ ['\n'])

/-- An argument that has to be a number. -/
def number (b : Bytes) : Run Nat :=
  match Bytes.toNat? b with
  | some n => return n
  | none => fail ("Illegal number: ".toList ++ b)

/-- The first argument as a number, if there is one. -/
def firstNumber (arguments : List Bytes) (default : Nat) : Run Nat :=
  match arguments with
  | [] => return default
  | a :: _ => number a

/-- The options and the operands of a command. -/
def withOptions (g : Grammar) (arguments : List Bytes) : Run (Options × List Bytes) :=
  match { g with endsEarly := true }.read arguments with
  | .ok found => return found
  | .error (.unknownLetter c) => fail ("Illegal option -".toList ++ [c])
  | .error (.noValue c) => fail ("No arg for -".toList ++ c :: " option".toList)
  | .error _ => fail "Illegal option --".toList

/-! ## Leaving -/

def exit (arguments : List Bytes) : Run Nat := do
  let code ← firstNumber arguments (← get).status
  leaveWith (.exit code)

def leaveFunction (arguments : List Bytes) : Run Nat := do
  let code ← firstNumber arguments (← get).status
  leaveWith (.leave code)

/-- Leaves so many loops, or as many as there are. -/
def leaveLoop (jump : Nat → Jump) (arguments : List Bytes) : Run Nat := do
  let n ← firstNumber arguments 1
  if n = 0 then fail ("Illegal number: ".toList ++ arguments.headD [])
  else
    let loops := (← get).loops
    if loops = 0 then return 0 else leaveWith (jump (min n loops - 1))

/-! ## Conditions and output -/

def test (isBracket : Bool) (arguments : List Bytes) : Run Nat := do
  let words := if isBracket then Condition.bracketed arguments else .ok arguments
  match words with
  | .error e =>
      complain e
      return 2
  | .ok words =>
      match ← lift (Condition.holds false words) with
      | .ok b => return if b then 0 else 1
      | .error e =>
          complain e
          return 2

def printf (arguments : List Bytes) : Run Nat := do
  let (_, operands) ← withOptions { flags := "" } arguments
  match operands with
  | [] => fail "usage: printf format [arg ...]".toList
  | format :: rest =>
      let o := Tool.Format.write false format rest
      let code ← print o.text
      for c in o.complaints do
        complain c
      match o.fault with
      | some fault => Shell.fail fault
      | none => return if o.complaints.isEmpty then code else 1

/-! ## Reading -/

/-- One line of the standard input, octet by octet, so that what follows is left to others. Tells
    whether the line was ended. -/
def readLine (isRaw : Bool) (steps : Nat) (taken : Glyphs) : Run (Glyphs × Bool) :=
  match steps with
  | 0 => return (taken.reverse, false)
  | steps + 1 => do
      match ← ask (.read Script.stdin 1) with
      | .error _ => return (taken.reverse, false)
      | .ok [] => return (taken.reverse, false)
      | .ok octets =>
          let c := (Bytes.ofOctets octets).headD ' '
          if c = '\n' then return (taken.reverse, true)
          else if c = '\\' ∧ isRaw = false then
            match ← ask (.read Script.stdin 1) with
            | .ok (o :: _) =>
                let d := (Bytes.ofOctets [o]).headD ' '
                if d = '\n' then readLine isRaw steps taken
                else readLine isRaw steps (⟨d, true⟩ :: taken)
            | _ => return (taken.reverse, false)
          else if c.toNat = 0 then readLine isRaw steps taken
          else readLine isRaw steps (⟨c, false⟩ :: taken)

def isSeparator (separators : Bytes) (g : Glyph) : Bool :=
  !g.isQuoted && separators.contains g.char

def isBlankSeparator (separators : Bytes) (g : Glyph) : Bool :=
  isSeparator separators g && Bytes.isSpace g.char

/-- Gives each name a field of a line, and the last one what is left. -/
def distribute (separators : Bytes) (g : Glyphs) : List Bytes → List (Bytes × Bytes)
  | [] => []
  | [name] =>
      let rest := (g.reverse.dropWhile (isBlankSeparator separators)).reverse
      [(name, Glyphs.toBytes rest)]
  | name :: names =>
      let field := g.takeWhile fun x => !isSeparator separators x
      let after := (g.drop field.length).dropWhile (isBlankSeparator separators)
      let after :=
        match after with
        | x :: rest =>
            if isSeparator separators x then rest.dropWhile (isBlankSeparator separators) else after
        | [] => []
      (name, Glyphs.toBytes field) :: distribute separators after names

def read (arguments : List Bytes) : Run Nat := do
  let (options, names) ← withOptions { flags := "r", valued := "p" } arguments
  match names with
  | [] => fail "arg count".toList
  | names =>
      let separators := (← get).separators
      let (line, isEnded) ← readLine (options.has 'r') Script.endless []
      let line := line.dropWhile (isBlankSeparator separators)
      for (name, value) in distribute separators line names do
        assign name value
      return if isEnded then 0 else 1

/-! ## Directories -/

/-- The names of a path without those that stand for no step or a step back. -/
def logicalNames (names : List String) : List String :=
  (names.foldl (fun (stack : List String) name =>
    if name = "." then stack else if name = ".." then stack.drop 1 else name :: stack) []).reverse

/-- The path that another one leads to from a directory, by names alone. -/
def logicalPath (directory path : String) : String :=
  let names := if Path.isAbsolute path then Path.names path
    else Path.names directory ++ Path.names path
  "/" ++ "/".intercalate (logicalNames names)

def changeDirectory (arguments : List Bytes) : Run Nat := do
  let (_, operands) ← withOptions { flags := "LP" } arguments
  let s ← get
  let old := (s.value? "PWD".toList).getD []
  let isBack := operands.head? == some ['-']
  let target :=
    if isBack then (s.value? "OLDPWD".toList).getD []
    else
      match operands with
      | [] => (s.value? "HOME".toList).getD []
      | target :: _ => target
  let path := logicalPath (Bytes.toText old) (Bytes.toText target)
  match ← ask (.changeDirectory path) with
  | .error _ => fail ("can't cd to ".toList ++ target)
  | .ok () =>
      assign "OLDPWD".toList old
      mark "OLDPWD".toList fun v => { v with isExported := true }
      assign "PWD".toList (Bytes.ofString path)
      mark "PWD".toList fun v => { v with isExported := true }
      if isBack then printLine (Bytes.ofString path) else return 0

def printDirectory (arguments : List Bytes) : Run Nat := do
  let current ← ask .directory
  let known := (← get).value? "PWD".toList
  let (options, _) ← withOptions { flags := "LP" } arguments
  if options.letters.getLast? == some 'P' then
    match current with
    | .ok path => printLine (Bytes.ofString path)
    | .error e => fail ("getcwd() failed: ".toList ++ Script.errorText e)
  else printLine (known.getD [])

/-! ## Variables -/

/-- The name and the value of an argument that assigns something. -/
def assignment (b : Bytes) : Bytes × Option Bytes :=
  let name := b.takeWhile (· != '=')
  match b.drop name.length with
  | _ :: value => (name, some value)
  | [] => (name, none)

def checkName (name : Bytes) : Run Unit :=
  if Bytes.isName name then pure () else failOf name "bad variable name"

/-- A value between quotes, so that it can be read again. -/
def quote (b : Bytes) : Bytes :=
  '\'' :: b.flatMap (fun c => if c = '\'' then "'\"'\"'".toList else [c]) ++ ['\'']

def listing (isWanted : Variable → Bool) (start : String) : Run Nat := do
  let found := (← get).held.filter fun entry => isWanted entry.2
  let lines := (found.mergeSort fun a b => Bytes.before a.1 b.1).map fun (name, v) =>
    start.toList ++ name ++
      (match v.value with
      | some value => '=' :: quote value
      | none => []) ++ ['\n']
  print lines.flatten

/-- Marks variables, which may be given values at the same time. -/
def marking (start : String) (isMarked : Variable → Bool) (f : Variable → Variable)
    (arguments : List Bytes) : Run Nat := do
  let (_, operands) ← withOptions { flags := "p" } arguments
  if operands.isEmpty then listing isMarked start
  else
    for a in operands do
      let (name, value) := assignment a
      checkName name
      match value with
      | some value => assign name value
      | none => pure ()
      mark name f
    return 0

def unset (arguments : List Bytes) : Run Nat := do
  let (options, names) ← withOptions { flags := "fv" } arguments
  for name in names do
    if options.has 'f' then
      modify fun s => { s with functions := s.functions.filter fun entry => entry.1 ≠ name }
    else
      checkName name
      unassign name
  return 0

/-- Makes variables local to the function that is being called. -/
def makeLocal (arguments : List Bytes) : Run Nat := do
  match (← get).locals with
  | [] => fail "not in a function".toList
  | _ =>
      for a in arguments do
        let (name, value) := assignment a
        checkName name
        modify fun s =>
          match s.locals with
          | frame :: frames =>
              { s with locals := ((name, s.held? name) :: frame) :: frames }
          | [] => s
        match value with
        | some value => assign name value
        | none => pure ()
      return 0

def shift (arguments : List Bytes) : Run Nat := do
  let n ← firstNumber arguments 1
  let s ← get
  if s.arguments.length < n then fail "can't shift that many".toList
  else
    set { s with arguments := s.arguments.drop n }
    return 0

/-! ## Options -/

def optionNames : List (String × Char) :=
  [("allexport", 'a'), ("errexit", 'e'), ("ignoreeof", 'I'), ("interactive", 'i'), ("monitor", 'm'),
    ("noclobber", 'C'), ("noexec", 'n'), ("noglob", 'f'), ("nounset", 'u'), ("stdin", 's'),
    ("verbose", 'v'), ("vi", 'V'), ("emacs", 'E'), ("notify", 'b'), ("xtrace", 'x'),
    ("debug", 'q'), ("nolog", 'l')]

def setOption (isOn : Bool) (letter : Char) : Run Unit :=
  modify fun s =>
    let others := s.options.filter (· != letter)
    { s with options := if isOn then others ++ [letter] else others }

/-- Sets options, and returns the words after them if there are any that become arguments. -/
def setOptions (steps : Nat) (words : List Bytes) : Run (Option (List Bytes)) :=
  match steps, words with
  | 0, _ => return none
  | _, [] => return none
  | steps + 1, word :: rest =>
      match word with
      | ['-', '-'] => return some rest
      | ['-'] => do
          setOption false 'x'
          setOption false 'v'
          return if rest.isEmpty then none else some rest
      | [sign, 'o'] => do
          if sign ≠ '-' ∧ sign ≠ '+' then return some words
          else
            match rest with
            | [] => return none
            | name :: rest =>
                match optionNames.lookup (String.ofList name) with
                | some letter =>
                    setOption (sign == '-') letter
                    setOptions steps rest
                | none => fail ("Illegal option -o ".toList ++ name)
      | sign :: c :: cs =>
          if sign ≠ '-' ∧ sign ≠ '+' then return some words
          else do
            for letter in c :: cs do
              if (optionNames.map Prod.snd).contains letter then setOption (sign == '-') letter
              else fail ("Illegal option ".toList ++ [sign, letter])
            setOptions steps rest
      | _ => return some words

def setArguments (arguments : List Bytes) : Run Nat := do
  if arguments.isEmpty then listing (fun v => v.value.isSome) ""
  else
    match ← setOptions (arguments.length + 1) arguments with
    | some words => modify fun s => { s with arguments := words }
    | none => pure ()
    return 0

/-- Goes through the options among the arguments, one at each call. -/
def getopts (arguments : List Bytes) : Run Nat := do
  match arguments with
  | letters :: name :: given =>
      let s ← get
      let words := if given.isEmpty then s.arguments else given
      let index := ((s.value? "OPTIND".toList).bind Bytes.toNat?).getD 1
      let offset := ((s.value? "OPTOFFSET".toList).bind Bytes.toNat?).getD 1
      let say (b : Bytes) : Run Unit := lift (Script.put Script.stderr b)
      let finish : Run Nat := do
        assign name ['?']
        return 1
      let advance (index offset : Nat) : Run Unit := do
        assign "OPTIND".toList (Bytes.ofNat index)
        assign "OPTOFFSET".toList (Bytes.ofNat offset)
      match words[index - 1]? with
      | some ('-' :: c :: cs) =>
          if c :: cs = ['-'] then
            advance (index + 1) 1
            finish
          else
            let letter := (c :: cs).getD (offset - 1) '?'
            let rest := (c :: cs).drop offset
            let isLast := rest.isEmpty
            let isSilent := letters.head? == some ':'
            match letters.dropWhile (· != letter) with
            | _ :: ':' :: _ =>
                match rest, words[index]? with
                | [], some value =>
                    advance (index + 2) 1
                    assign "OPTARG".toList value
                    assign name [letter]
                | [], none =>
                    advance (index + 1) 1
                    if isSilent then
                      assign "OPTARG".toList [letter]
                      assign name [':']
                    else
                      say ("No arg for -".toList ++ [letter] ++ " option\n".toList)
                      assign name ['?']
                | rest, _ =>
                    advance (index + 1) 1
                    assign "OPTARG".toList rest
                    assign name [letter]
            | _ :: _ =>
                if isLast then advance (index + 1) 1 else advance index (offset + 1)
                assign name [letter]
            | [] =>
                if isLast then advance (index + 1) 1 else advance index (offset + 1)
                if isSilent then assign "OPTARG".toList [letter]
                else say ("Illegal option -".toList ++ [letter, '\n'])
                assign name ['?']
            return 0
      | _ => finish
  | _ => fail "Usage: getopts optstring var [arg...]".toList

/-! ## Signals and processes -/

/-- Takes note of the signals that were caught. -/
def notice : Run Unit := do
  let caught : List Signal ← ask .yield
  if caught.isEmpty then pure () else modify fun s => { s with caught := s.caught ++ caught }

def setTrap (action : Option Bytes) (s : Signal) : Run Unit := do
  modify fun st =>
    let others := st.traps.filter fun t => t.1 ≠ s
    { st with traps := match action with
      | some text => others ++ [(s, text)]
      | none => others }
  if s = 0 then pure ()
  else
    let d : Disposition :=
      match action with
      | none => .default
      | some [] => .ignore
      | some _ => .catch
    ask (.dispose s d)

def signalLabel (s : Signal) : Bytes :=
  if s = 0 then "EXIT".toList else ((Signal.shortName? s).getD (toString s)).toList

def trap (arguments : List Bytes) : Run Nat := do
  let (_, operands) ← withOptions { flags := "" } arguments
  match operands with
  | [] =>
      let traps := (← get).traps.mergeSort fun a b => a.1 ≤ b.1
      print (traps.flatMap fun (s, text) =>
        "trap -- ".toList ++ quote text ++ ' ' :: signalLabel s ++ ['\n'])
  | first :: rest =>
      let (action, names) :=
        if rest.isEmpty then (none, [first])
        else if first = ['-'] then (none, rest)
        else if Bytes.isDigits first then (none, first :: rest)
        else (some first, rest)
      for name in names do
        match signalOf? name with
        | some s => setTrap action s
        | none =>
            lift (Script.put Script.stderr ("trap: ".toList ++ name ++ ": bad trap\n".toList))
            return 1
      return 0

/-- The process that an argument names. -/
def processOf? (s : State) (b : Bytes) : Option Nat :=
  match b with
  | '%' :: rest =>
      match rest with
      | [] => s.lastBackground
      | ['%'] => s.lastBackground
      | ['+'] => s.lastBackground
      | rest =>
          (Bytes.toNat? rest).bind fun n =>
            (s.jobs.find? fun j => j.number == n).map Job.process
  | b => Bytes.toNat? b

/-- Who is meant by an argument. -/
def targetOf? (s : State) (b : Bytes) : Option Target :=
  match b with
  | '%' :: _ => (processOf? s b).map .process
  | b =>
      (Bytes.toInt? b).map fun n =>
        if n = 0 then .ownGroup
        else if n = -1 then .all
        else if n < 0 then .group n.natAbs
        else .process n.natAbs

/-- The signal that is asked for, and who is to get it. -/
def killArguments (arguments : List Bytes) : Run (Signal × List Bytes) :=
  let withoutDashes (rest : List Bytes) : List Bytes :=
    if rest.head? == some ['-', '-'] then rest.drop 1 else rest
  match arguments with
  | [['-', 's']] => fail "No arg for -s option".toList
  | ['-', 's'] :: name :: rest =>
      match signalOf? name with
      | some s => return (s, withoutDashes rest)
      | none => fail ("invalid signal number or name: ".toList ++ name)
  | ['-', '-'] :: rest => return (Signal.terminate, rest)
  | ('-' :: c :: cs) :: rest =>
      match signalOf? (c :: cs) with
      | some s => return (s, withoutDashes rest)
      | none => fail ("Illegal option -".toList ++ [c])
  | rest => return (Signal.terminate, rest)

def listSignals (names : List Bytes) : Run Nat := do
  match names with
  | [] =>
      let all := (List.range 31).map fun (n : Nat) => signalLabel (n + 1)
      print ((['0'] :: all).flatMap fun name => name ++ ['\n'])
  | names =>
      for name in names do
        let n ← number name
        let _ ← printLine (signalLabel (if 128 < n then n - 128 else n))
      return 0

def kill (arguments : List Bytes) : Run Nat := do
  match arguments with
  | ['-', 'l'] :: names => listSignals names
  | arguments =>
      let (s, targets) ← killArguments arguments
      if targets.isEmpty then
        fail ("Usage: kill [-s sigspec | -signum | -sigspec] [pid | job]... or\n" ++
          "kill -l [exitstatus]").toList
      else
        let mut code := 0
        for name in targets do
          match targetOf? (← get) name with
          | none => fail ("Illegal number: ".toList ++ name)
          | some target =>
              match ← ask (.signal target s) with
              | .ok () => pure ()
              | .error e =>
                  complain (Script.errorText e ++ ['\n'])
                  code := 1
        return code

/-- The status that a shell tells of a process that has ended. -/
def codeOf (status : WaitStatus) : Nat :=
  match status.code?, status.signal? with
  | some code, _ => code
  | none, some s => 128 + s
  | none, none => 0

/-- Signals that are passed over in silence when they end a command. -/
def isSilent (s : Signal) : Bool := s == 2 || s == Signal.brokenPipe

/-- Tells of a signal that has ended a process. -/
def tell (status : WaitStatus) : Run Unit :=
  match status.signal? with
  | some s =>
      if isSilent s then pure ()
      else lift (Script.put Script.stderr (s.description.toList ++ ['\n']))
  | none => pure ()

/-- Waits for one process, and returns how it has ended. Nothing is returned if a signal that was
    caught ends the wait. -/
def waitFor (process : Nat) : Run (Option Nat) := do
  let s ← get
  match s.ended.lookup process with
  | some status =>
      set { s with ended := s.ended.filter fun entry => entry.1 ≠ process }
      return some (codeOf status)
  | none =>
      match ← ask (.wait (some process) true) with
      | .ok (.ended _ status) =>
          tell status
          return some (codeOf status)
      | .ok _ => return none
      | .error _ => return some 127

def waitForAll (steps : Nat) : Run Nat :=
  match steps with
  | 0 => return 0
  | steps + 1 => do
      match ← ask (.wait none true) with
      | .ok (.ended _ _) => waitForAll steps
      | .ok _ =>
          notice
          return 128 + ((← get).caught.headD 0)
      | .error _ => return 0

def wait (arguments : List Bytes) : Run Nat := do
  if arguments.isEmpty then waitForAll Script.endless
  else
    let mut code := 0
    for name in arguments do
      match processOf? (← get) name with
      | none => fail ("Illegal number: ".toList ++ name)
      | some process =>
          match ← waitFor process with
          | some c => code := c
          | none =>
              notice
              return 128 + ((← get).caught.headD 0)
    return code

def octal (width n : Nat) : Bytes :=
  let digits := Nat.toDigits 8 n
  List.replicate (width - digits.length) '0' ++ digits

/-- What a class of users may do, in letters. -/
def classText (bits : Nat) : Bytes :=
  (if bits / 4 % 2 = 1 then ['r'] else []) ++ (if bits / 2 % 2 = 1 then ['w'] else []) ++
    (if bits % 2 = 1 then ['x'] else [])

def umask (arguments : List Bytes) : Run Nat := do
  let mask : Nat ← ask (.mask none)
  let allowed := 0o777 ^^^ mask
  let (options, operands) ← withOptions { flags := "S" } arguments
  match operands with
  | [] =>
      if options.has 'S' then
        printLine ("u=".toList ++ classText (allowed / 64 % 8) ++ ",g=".toList ++
          classText (allowed / 8 % 8) ++ ",o=".toList ++ classText (allowed % 8))
      else printLine (octal 4 mask)
  | b :: _ =>
      if Bytes.isDigits b then
        if b.all Bytes.isOctalDigit then
          let _ ← ask (.mask (some (Bytes.octalValue b % 512)))
          return 0
        else fail ("Illegal number: ".toList ++ b)
      else
        match Tool.Mode.changed true 0 allowed b with
        | some mode =>
            let _ ← ask (.mask (some (0o777 ^^^ (mode % 512))))
            return 0
        | none => fail ("Illegal mode: ".toList ++ b)

/-! ## Looking commands up -/

/-- The paths at which a program with this name might be. -/
def candidates (s : State) (name : Bytes) : List Bytes :=
  if name.contains '/' then [name]
  else
    (Bytes.splitOn ':' ((s.value? "PATH".toList).getD [])).map fun directory =>
      if directory.isEmpty then name else directory ++ '/' :: name

/-- The first of these paths at which there is a file. -/
def firstFile (paths : List Bytes) : Run (Option Bytes) :=
  match paths with
  | [] => return none
  | path :: paths => do
      if ← lift (Condition.aboutFile "-f" path) then return some path else firstFile paths

def locate (name : Bytes) : Run (Option Bytes) := do
  firstFile (candidates (← get) name)

/-- Tells what names stand for, in words or not. -/
def describe (isVerbose : Bool) (names : List Bytes) : Run Nat := do
  let mut code := 0
  for name in names do
    let s ← get
    let say (what : String) (plain : Bytes) : Run Unit := do
      let _ ← printLine (if isVerbose then name ++ what.toList else plain)
    if reserved.contains (String.ofList name) then say " is a shell keyword" name
    else if (s.functions.lookup name).isSome then say " is a shell function" name
    else if isSpecial name then say " is a special shell builtin" name
    else if isBuiltin name then say " is a shell builtin" name
    else
      match ← locate name with
      | some path => say (" is " ++ Bytes.toText path) path
      | none =>
          if isVerbose then
            let _ ← printLine (name ++ ": not found".toList)
          code := 127
  return code

/-! ## The table -/

/-- The command with a name, if it executes no other commands. -/
def find? (name : Bytes) : Option (List Bytes → Run Nat) :=
  match String.ofList name with
  | ":" => some fun _ => return 0
  | "true" => some fun _ => return 0
  | "false" => some fun _ => return 1
  | "[" => some (test true)
  | "test" => some (test false)
  | "echo" => some fun arguments => print (Tool.Echo.inShell arguments)
  | "printf" => some printf
  | "read" => some read
  | "cd" => some changeDirectory
  | "pwd" => some printDirectory
  | "exit" => some exit
  | "return" => some leaveFunction
  | "break" => some (leaveLoop .breakLoop)
  | "continue" => some (leaveLoop .continueLoop)
  | "export" =>
      some (marking "export " Variable.isExported fun v => { v with isExported := true })
  | "readonly" =>
      some (marking "readonly " Variable.isReadonly fun v => { v with isReadonly := true })
  | "unset" => some unset
  | "local" => some makeLocal
  | "shift" => some shift
  | "set" => some setArguments
  | "getopts" => some getopts
  | "trap" => some trap
  | "kill" => some kill
  | "wait" => some wait
  | "umask" => some umask
  | "type" => some (describe true)
  | "times" => some fun _ => print "0m0.000000s 0m0.000000s\n0m0.000000s 0m0.000000s\n".toList
  | "ulimit" => some fun arguments =>
      if arguments.any fun a => Bytes.isDigits a then return 0 else printLine "unlimited".toList
  | "alias" => some fun _ => return 0
  | "unalias" => some fun _ => return 0
  | "hash" => some fun _ => return 0
  | "jobs" => some fun _ => return 0
  | "fg" => some fun _ => fail "No current job".toList
  | "bg" => some fun _ => fail "No current job".toList
  | _ => none

end Builtin

end Playground.Shell
