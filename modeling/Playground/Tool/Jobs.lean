import Playground.Process.Signal
import Playground.Tool.Files
import Playground.Tool.Format
import Playground.Tool.Stream

set_option autoImplicit false

/-! # Programs for processes

Programs that start others, wait, send signals, and tell of processes and of the system. -/

namespace Playground.Tool

open Machine (Bytes Options Program Script Start Call Listing Target Grammar withOptions seeHelp)

namespace Jobs

/-! ## Starting others -/

def value? (environment : List (Bytes × Bytes)) (name : String) : Option Bytes :=
  environment.lookup name.toList

/-- The paths at which a program with this name might be. -/
def candidates (environment : List (Bytes × Bytes)) (name : Bytes) : List Bytes :=
  if name.contains '/' then [name]
  else
    (Bytes.splitOn ':' ((value? environment "PATH").getD "/bin:/usr/bin".toList)).map fun d =>
      if d.isEmpty then name else d ++ '/' :: name

/-- Becomes the first of these programs that can be started. -/
def becomeFirst (words : List (List UInt8)) (environment : List (List UInt8 × List UInt8))
    (fault : HostError) : List Bytes → Script HostError
  | [] => return fault
  | path :: paths => do
      let e : HostError ← Script.ask (.exec (Bytes.toText path) words environment)
      match e with
      | .notFound => becomeFirst words environment fault paths
      | .notADirectory => becomeFirst words environment fault paths
      | .notExecutable =>
          let shell := Bytes.toOctets "/bin/sh".toList
          Script.ask (.exec "/bin/sh" (shell :: Bytes.toOctets path :: words.drop 1) environment)
      | e => becomeFirst words environment e paths

/-- Becomes a program. Complains if that cannot be, and returns the exit code for it. -/
def become (complain : Bytes → HostError → Script Unit) (environment : List (Bytes × Bytes))
    (command : List Bytes) : Script Nat := do
  let name := command.headD []
  let words := command.map Bytes.toOctets
  let settings := environment.map fun (name, value) => (Bytes.toOctets name, Bytes.toOctets value)
  let e ← becomeFirst words settings .notFound (candidates environment name)
  complain name e
  return if e = .notFound then 127 else 126

/-- Starts a program, and goes on with its number. -/
def start (complain : Bytes → HostError → Script Unit) (environment : List (Bytes × Bytes))
    (command : List Bytes) (next : Nat → Script Nat) : Script Nat := do
  let child : Nat ← Script.ask .fork
  if child = 0 then become complain environment command else next child

def codeOf (status : WaitStatus) : Nat :=
  match status.code?, status.signal? with
  | some code, _ => code
  | none, some s => 128 + s
  | none, none => 0

/-- Waits for a process. -/
def await (steps : Nat) (target : Option Nat) : Script (Option (Nat × WaitStatus)) :=
  match steps with
  | 0 => return none
  | steps + 1 => do
      match ← Script.ask (.wait target true) with
      | .ok (.ended process status) => return some (process, status)
      | .ok _ => await steps target
      | .error _ => return none

/-- The words of a text, in which quotes and backslashes protect blanks. -/
def wordsOf (steps : Nat) (current : Option Bytes) (b : Bytes) : List Bytes :=
  let closed : List Bytes :=
    match current with
    | some w => [w.reverse]
    | none => []
  match steps, b with
  | 0, _ => closed
  | _, [] => closed
  | steps + 1, c :: rest =>
      let word := current.getD []
      if Bytes.isSpace c then closed ++ wordsOf steps none rest
      else if c = '\'' ∨ c = '"' then
        let inside := rest.takeWhile (· != c)
        wordsOf steps (some (inside.reverse ++ word)) (rest.drop (inside.length + 1))
      else if c = '\\' then
        match rest with
        | d :: rest => wordsOf steps (some (d :: word)) rest
        | [] => closed
      else wordsOf steps (some (c :: word)) rest

/-- Settings without a variable. -/
def without (name : Bytes) (settings : List (Bytes × Bytes)) : List (Bytes × Bytes) :=
  settings.filter fun entry => entry.1 != name

/-- The settings that the first words make, and the words after them. -/
def takeSettings (settings : List (Bytes × Bytes)) : List Bytes →
    List (Bytes × Bytes) × List Bytes
  | [] => (settings, [])
  | word :: rest =>
      let name := word.takeWhile (· != '=')
      match word.drop name.length with
      | _ :: value => takeSettings (without name settings ++ [(name, value)]) rest
      | [] => (settings, word :: rest)

def envGrammar : Grammar where
  flags := "i0v"
  valued := "uC"
  names := [("ignore-environment", 'i'), ("null", '0'), ("unset", 'u'), ("chdir", 'C'),
    ("debug", 'v')]
  endsEarly := true

/-- Sets and unsets variables, and becomes a program or writes all variables. The first argument may
    be several in one. -/
def env : Program := fun s =>
  let arguments :=
    match s.arguments with
    | ['-', 'S'] :: text :: rest => wordsOf (text.length + 1) none text ++ rest
    | ('-' :: 'S' :: text) :: rest => wordsOf (text.length + 1) none text ++ rest
    | arguments => arguments
  withOptions { s with arguments := arguments } envGrammar 125 fun options words => do
    let (isBare, words) :=
      match words with
      | ['-'] :: rest => (true, rest)
      | words => (options.has 'i', words)
    let start := if isBare then [] else s.environment
    let (settings, command) := takeSettings ((options.values 'u').foldl (fun settings name =>
      without name settings) start) words
    let moved : Except HostError Unit ←
      match options.value? 'C' with
      | none => pure (.ok ())
      | some path => Script.ask (.changeDirectory (Bytes.toText path))
    match moved, command with
    | .error e, _ =>
        Files.failed s "cannot change directory to" ((options.value? 'C').getD []) e
        return 125
    | .ok (), [] =>
        for (name, value) in settings do
          Script.print (name ++ '=' :: value ++
            [if options.has '0' then Char.ofNat 0 else '\n'])
        return 0
    | .ok (), command => become (Files.failed s "") settings command

def setsidGrammar : Grammar where
  flags := "cfw"
  names := [("ctty", 'c'), ("fork", 'f'), ("wait", 'w')]
  endsEarly := true

def setsid : Program := fun s => withOptions s setsidGrammar 1 fun options command => do
  if command.isEmpty then
    Script.complain s ("no command specified".toList ++ seeHelp s)
    return 1
  else
    let identity ← Script.ask .identity
    let leave : Script Nat := do
      let _ ← Script.ask .newSession
      become (Script.complainOf s "failed to execute ") s.environment command
    if identity.group = identity.process || options.has 'f' then
      let child : Nat ← Script.ask .fork
      if child = 0 then leave
      else if options.has 'w' then
        return ((← await Script.endless (some child)).map fun r => codeOf r.2).getD 0
      else return 0
    else leave

def stdbufGrammar : Grammar where
  flags := ""
  valued := "eio"
  names := [("error", 'e'), ("input", 'i'), ("output", 'o')]
  endsEarly := true

/-- Starts a program with other buffers, which makes no difference here. -/
def stdbuf : Program := fun s => withOptions s stdbufGrammar 125 fun options command => do
  let isWrong (mode : Bytes) : Bool := mode != ['L'] && (Stream.size? mode).isNone
  let refuse (text : Bytes) : Script Nat := do
    Script.complain s text
    return 125
  match options.given.find? fun entry => isWrong entry.2 with
  | some (_, mode) => refuse ("invalid mode ".toList ++ Script.quoted mode)
  | none =>
      if options.value? 'i' == some ['L'] then
        refuse ("line buffering stdin is meaningless".toList ++ seeHelp s)
      else if command.isEmpty then refuse ("missing operand".toList ++ seeHelp s)
      else if options.given.isEmpty then
        refuse ("you must specify a buffering mode option".toList ++ seeHelp s)
      else become (Files.failed s "failed to run command") s.environment command

def nohup : Program := fun s =>
  withOptions s { flags := "", endsEarly := true } 125 fun _ command => do
    if command.isEmpty then
      let _ ← Files.missingOperand s
      return 125
    else
      Script.ask (.dispose 1 .ignore)
      become (Files.failed s "failed to run command") s.environment command

/-- Starts a program with less urgency, which makes no difference here. -/
def nice : Program := fun s =>
  let arguments :=
    match s.arguments with
    | ('-' :: c :: cs) :: rest =>
        if Bytes.isDigits (c :: cs) then ['-', 'n'] :: (c :: cs) :: rest else s.arguments
    | arguments => arguments
  withOptions { s with arguments := arguments }
      { flags := "", valued := "n", names := [("adjustment", 'n')], endsEarly := true } 125
      fun options command => do
    match options.value? 'n', (options.value? 'n').map Bytes.toInt?, command with
    | some text, some none, _ =>
        Script.complain s ("invalid adjustment ".toList ++ Script.quoted text)
        return 125
    | none, _, [] =>
        Script.printLine ['0']
        return 0
    | some _, _, [] =>
        Script.complain s ("a command must be given with an adjustment".toList ++ seeHelp s)
        return 125
    | _, _, command => become (Files.failed s "") s.environment command

/-! ## Time -/

/-- A time in microseconds, with an optional fraction and unit. -/
def time? (b : Bytes) : Option Nat :=
  let whole := b.takeWhile Char.isDigit
  let rest := b.drop whole.length
  let (fraction, rest) :=
    match rest with
    | '.' :: rest => (rest.takeWhile Char.isDigit, rest.dropWhile Char.isDigit)
    | rest => ([], rest)
  let unit :=
    match rest with
    | [] => some 1
    | ['s'] => some 1
    | ['m'] => some 60
    | ['h'] => some 3600
    | ['d'] => some 86400
    | _ => none
  if b = "infinity".toList ∨ b = "inf".toList then some (Nat.pow 10 15)
  else if whole.isEmpty && fraction.isEmpty then none
  else
    unit.map fun u =>
      Bytes.digitsValue (whole ++ fraction) * 1000000 * u / Nat.pow 10 fraction.length

def sleep : Program := fun s => withOptions s { flags := "" } 1 fun _ operands => do
  let wrong := operands.filter fun a => (time? a).isNone
  if operands.isEmpty then Files.missingOperand s
  else if wrong.isEmpty then
    Script.ask (.sleep ((operands.filterMap time?).foldl (· + ·) 0))
    return 0
  else
    for a in wrong.dropLast do
      Script.complain s ("invalid time interval ".toList ++ Script.quoted a)
    Script.complain s ("invalid time interval ".toList ++ Script.quoted (wrong.getLastD []) ++
      seeHelp s)
    return 1

def signalNamed (b : Bytes) : Option Signal :=
  match Bytes.toNat? b with
  | some n => some n
  | none =>
      let name := (String.ofList b).toUpper
      let name := if "SIG".toList.isPrefixOf name.toList then String.ofList (name.toList.drop 3)
        else name
      Signal.ofShortName? name

def timeoutGrammar : Grammar where
  flags := "v+="
  valued := "ks"
  names := [("foreground", '+'), ("kill-after", 'k'), ("preserve-status", '='), ("signal", 's'),
    ("verbose", 'v')]
  endsEarly := true

/-- What is done about a program that goes on for too long: after each time, a signal is sent. -/
abbrev Deadlines := List (Nat × Signal)

/-- Ends as another process has. -/
def endAs (status : WaitStatus) : Script Nat := do
  match status.signal? with
  | some signal =>
      let identity ← Script.ask .identity
      let _ ← Script.ask (.signal (.process identity.process) signal)
  | none => pure ()
  return codeOf status

/-- Waits for a child, sending it signals at deadlines. -/
def supervise (s : Start) (options : Options) (name : Bytes) (child : Nat) (isLate : Bool) :
    Deadlines → Script Nat
  | [] => do
      match ← await Script.endless (some child) with
      | none => return 125
      | some (_, status) => finish status
  | (time, signal) :: later => do
      let timer : Nat ← Script.ask .fork
      if timer = 0 then
        Script.ask (.sleep time)
        return 0
      else
        match ← await Script.endless none with
        | none => return 125
        | some (process, status) =>
            if process = child then
              let _ ← Script.ask (.signal (.process timer) Signal.kill)
              finish status
            else
              if options.has 'v' then
                Script.complain s ("sending signal ".toList ++
                  ((Signal.shortName? signal).getD (toString signal)).toList ++
                  " to command ".toList ++ Script.quoted name)
              else pure ()
              let _ ← Script.ask (.signal (.process child) signal)
              if options.has '+' then pure ()
              else
                Script.ask (.dispose signal .ignore)
                let _ ← Script.ask (.signal .ownGroup signal)
              supervise s options name child true later
where
  finish (status : WaitStatus) : Script Nat :=
    if isLate then return if options.has '=' then codeOf status else 124 else endAs status

/-- Starts a program, and sends it signals if it goes on for too long. -/
def timeout : Program := fun s => withOptions s timeoutGrammar 125 fun options words => do
  let wrong (what : Bytes) : Script Nat := do
    Script.complain s (what ++ seeHelp s)
    return 125
  let wrongTime (text : Bytes) : Script Nat :=
    wrong ("invalid time interval ".toList ++ Script.quoted text)
  let signal := (options.value? 's').map fun name => (name, signalNamed name)
  let later := (options.value? 'k').map fun text => (text, time? text)
  match signal, later, words with
  | some (name, none), _, _ => wrong (Script.quoted name ++ ": invalid signal".toList)
  | _, some (text, none), _ => wrongTime text
  | signal, later, limit :: command :: rest =>
      match time? limit with
      | none => wrongTime limit
      | some limit =>
          let signal := (signal.bind Prod.snd).getD Signal.terminate
          let deadlines : Deadlines :=
            ((limit, signal) :: ((later.bind Prod.snd).map fun time => (time, Signal.kill)).toList)
          let deadlines := deadlines.filter fun d => d.1 != 0
          if options.has '+' then pure () else Script.ask .newGroup
          let refuse := Files.failed s "failed to run command"
          start refuse s.environment (command :: rest) fun child =>
            supervise s options command child false deadlines
  | _, _, _ =>
      Script.put Script.stderr ((seeHelp s).drop 1 ++ ['\n'])
      return 125

/-! ## Signals -/

def kill : Program := fun s => do
  let (signal, targets) : Option Signal × List Bytes :=
    match s.arguments with
    | ['-', 's'] :: name :: rest => (signalNamed name, rest)
    | ['-', '-'] :: rest => (some Signal.terminate, rest)
    | ('-' :: name) :: rest => (signalNamed name, rest)
    | rest => (some Signal.terminate, rest)
  let targets := if targets.head? == some ['-', '-'] then targets.drop 1 else targets
  match signal with
  | none =>
      Script.complain s ("invalid argument ".toList ++ ((s.arguments.headD []).drop 1).take 1)
      return 1
  | some signal =>
      Files.forAll targets fun name => do
        match Bytes.toInt? name with
        | none =>
            Script.complain s ("failed to parse argument: ".toList ++ Script.quoted name)
            return false
        | some n =>
            let target : Target :=
              if n = 0 then .ownGroup
              else if n = -1 then .all
              else if n < 0 then .group n.natAbs
              else .process n.natAbs
            match ← Script.ask (.signal target signal) with
            | .ok () => return true
            | .error e =>
                Script.complain s (['('] ++ name ++ "): ".toList ++ Script.errorText e)
                return false

/-! ## Telling -/

/-- A column of a list of processes: its heading and what it shows. -/
def column (name : Bytes) (l : Listing) : Bytes :=
  match String.ofList name with
  | "pid" => Bytes.ofNat l.identity.process
  | "ppid" => Bytes.ofNat l.identity.parent
  | "pgid" => Bytes.ofNat l.identity.group
  | "pgrp" => Bytes.ofNat l.identity.group
  | "sid" => Bytes.ofNat l.identity.session
  | "sess" => Bytes.ofNat l.identity.session
  | "stat" => if l.isZombie then ['Z'] else if l.isStopped then ['T'] else ['S']
  | "state" => if l.isZombie then ['Z'] else if l.isStopped then ['T'] else ['S']
  | "user" => "root".toList
  | "comm" => Files.lastName ((Bytes.ofOctets l.command).takeWhile (· != ' '))
  | _ => Bytes.ofOctets l.command

def pad (b : Bytes) : Bytes := List.replicate (7 - b.length) ' ' ++ b

def psGrammar : Grammar where
  flags := "AadeFfHjLlMNTwxycm"
  valued := "opgstuCGU="
  names := [("format", 'o'), ("pid", 'p'), ("ppid", '='), ("no-headers", 'h')]

/-- Lists processes. -/
def ps : Program := fun s => withOptions s psGrammar 1 fun options operands => do
  let all : List Listing ← Script.ask .processes
  let identity ← Script.ask .identity
  let asked := (options.values 'p').flatMap (Bytes.splitOn ',') |>.filterMap Bytes.toNat?
  let parents := (options.values '=').flatMap (Bytes.splitOn ',') |>.filterMap Bytes.toNat?
  let isAll := options.has 'e' || options.has 'A' || !operands.isEmpty
  let shown := all.filter fun l =>
    if !asked.isEmpty then asked.contains l.identity.process
    else if !parents.isEmpty then parents.contains l.identity.parent
    else isAll || l.identity.session == identity.session
  let names := (options.values 'o').flatMap (Bytes.splitOn ',')
  let names := if names.isEmpty then ["pid", "stat", "comm"].map String.toList else names
  let bare (name : Bytes) : Bytes := name.takeWhile (· != '=')
  let hasHeading := names.any fun name => !(name.contains '=')
  if hasHeading then
    Script.printLine (names.flatMap fun name => pad ((bare name).map Char.toUpper))
  else pure ()
  for l in shown do
    Script.printLine (names.flatMap fun name => pad (column (bare name) l))
  return if shown.isEmpty then 1 else 0

def printenvGrammar : Grammar where
  flags := "0"
  names := [("null", '0')]
  endsEarly := true

def printenv : Program := fun s => withOptions s printenvGrammar 2 fun options names => do
  let item (b : Bytes) : Script Unit :=
    Script.print (b ++ [if options.has '0' then Char.ofNat 0 else '\n'])
  match names with
  | [] =>
      for (name, value) in s.environment do
        item (name ++ '=' :: value)
      return 0
  | names =>
      Files.forAll names fun name => do
        match s.environment.lookup name with
        | some value =>
            item value
            return true
        | none => return false

def which : Program := fun s => do
  Files.forAll s.arguments fun name => do
    let rec first : List Bytes → Script (Option Bytes)
      | [] => return none
      | path :: paths => do
          let isFile ← Condition.aboutFile "-f" path
          if isFile && (← Condition.aboutFile "-x" path) then return some path else first paths
    match ← first (candidates s.environment name) with
    | some path =>
        Script.printLine path
        return true
    | none => return false

def idGrammar : Grammar where
  flags := "agGnruzZ"
  names :=
    [("group", 'g'), ("groups", 'G'), ("name", 'n'), ("real", 'r'), ("user", 'u'), ("zero", 'z')]

def id : Program := fun s => withOptions s idGrammar 1 fun options names => do
  match names.find? (· != "root".toList) with
  | some name =>
      Script.complain s (Script.quoted name ++ ": no such user".toList)
      return 1
  | none =>
      let text :=
        if options.has 'n' then "root"
        else if ['u', 'g', 'G'].any options.has then "0"
        else "uid=0(root) gid=0(root) groups=0(root)"
      Script.printLine text.toList
      return 0

/-- Tells the groups of users, of whom only one is known. -/
def groups : Program := fun s => withOptions s { flags := "" } 1 fun _ names => do
  match names with
  | [] =>
      Script.printLine "root".toList
      return 0
  | names =>
      Files.forAll names fun name => do
        if name = "root".toList then
          Script.printLine "root : root".toList
          return true
        else
          Script.complain s (Script.quoted name ++ ": no such user".toList)
          return false

/-- Nobody has logged in. -/
def logname : Program := fun s => do
  Script.complain s "no login name".toList
  return 1

/-- A program that writes one line. -/
def saying (line : String) (code : Nat) : Program := fun _ => do
  Script.printLine line.toList
  return code

def unameGrammar : Grammar where
  flags := "asnrvmpio"
  names := [("all", 'a'), ("kernel-name", 's'), ("nodename", 'n'), ("kernel-release", 'r'),
    ("kernel-version", 'v'), ("machine", 'm'), ("operating-system", 'o')]

def uname : Program := fun s => withOptions s unameGrammar 1 fun options names => do
  match names with
  | name :: _ => Files.extraOperand s name
  | [] =>
      let parts := (if options.has 's' || options.letters.isEmpty then ["Linux"] else []) ++
        (if options.has 'm' then ["x86_64"] else []) ++
        (if options.has 'o' then ["GNU/Linux"] else [])
      Script.printLine (Bytes.joinWith [' '] (parts.map String.toList))
      return 0

/-- The second at which the machine is taken to have been started. -/
def startSecond : Nat := 1735689600

/-- What a format says of a time in microseconds. -/
def dateText (time : Nat) : Bytes → Bytes
  | '%' :: 's' :: rest => Bytes.ofNat (time / 1000000) ++ dateText time rest
  | '%' :: 'N' :: rest =>
      let digits := Bytes.ofNat (time % 1000000 * 1000)
      List.replicate (9 - digits.length) '0' ++ digits ++ dateText time rest
  | '%' :: '3' :: 'N' :: rest =>
      let digits := Bytes.ofNat (time % 1000000 / 1000)
      List.replicate (3 - digits.length) '0' ++ digits ++ dateText time rest
  | '%' :: 'n' :: rest => '\n' :: dateText time rest
  | '%' :: '%' :: rest => '%' :: dateText time rest
  | c :: rest => c :: dateText time rest
  | [] => []

def date : Program := fun s => do
  let now : Nat ← Script.ask .clock
  match s.arguments.find? fun a => a.head? == some '+' with
  | some format => Script.printLine (dateText (startSecond * 1000000 + now) (format.drop 1))
  | none => Script.printLine "Wed Jan  1 00:00:00 UTC 2025".toList
  return 0

def printDirectory : Program := fun s => do
  match ← Script.ask .directory with
  | .ok path =>
      Script.printLine (Bytes.ofString path)
      return 0
  | .error e =>
      Script.complain s ("couldn't find directory entry: ".toList ++ Script.errorText e)
      return 1

/-! ## Many arguments -/

/-- Groups of at most so many items. -/
def groupsOf (count steps : Nat) (items : List Bytes) : List (List Bytes) :=
  match steps, items with
  | 0, _ => []
  | _, [] => []
  | steps + 1, items => items.take count :: groupsOf count steps (items.drop count)

/-- A word in which a mark has been replaced. -/
def replaced (mark new : Bytes) (steps : Nat) (b : Bytes) : Bytes :=
  match steps, b with
  | 0, b => b
  | _, [] => []
  | steps + 1, c :: rest =>
      if mark.isPrefixOf (c :: rest) && !mark.isEmpty then
        new ++ replaced mark new steps ((c :: rest).drop mark.length)
      else c :: replaced mark new steps rest

/-- Starts programs one after another. The exit code tells whether all have succeeded. -/
def startAll (s : Start) (isLoud : Bool) (code : Nat) : List (List Bytes) → Script Nat
  | [] => return code
  | words :: rest => do
      let name := words.headD []
      if isLoud then
        Script.put Script.stderr (Bytes.joinWith [' '] words ++ ['\n'])
      else pure ()
      start (Script.complainOf s "") s.environment words fun child => do
        match ← await Script.endless (some child) with
        | none => startAll s isLoud code rest
        | some (_, status) =>
            match status.signal?, codeOf status with
            | some signal, _ =>
                Script.complain s (name ++ ": terminated by signal ".toList ++ Bytes.ofNat signal)
                return 125
            | none, 0 => startAll s isLoud code rest
            | none, 255 =>
                Script.complain s (name ++ ": exited with status 255; aborting".toList)
                return 124
            | none, c =>
                if 126 ≤ c ∧ c ≤ 127 then return c else startAll s isLoud 123 rest

def xargsGrammar : Grammar where
  flags := "0optrx"
  valued := "adEILnPs"
  names := [("null", '0'), ("arg-file", 'a'), ("delimiter", 'd'), ("replace", 'I'),
    ("max-lines", 'L'), ("max-args", 'n'), ("max-procs", 'P'), ("interactive", 'p'),
    ("no-run-if-empty", 'r'), ("max-chars", 's'), ("verbose", 't'), ("exit", 'x')]
  endsEarly := true

/-- The items that options find in a text. -/
def itemsOf (options : Options) (b : Bytes) : List Bytes :=
  let separated (c : Char) : List Bytes :=
    let pieces := Bytes.splitOn c b
    if pieces.getLast? == some [] then pieces.dropLast else pieces
  match options.has '0', options.value? 'd' with
  | true, _ => separated (Char.ofNat 0)
  | false, some text => separated ((Format.unescaped false text).1.headD '\n')
  | false, none =>
      if options.has 'I' then
        (Bytes.lines b).filterMap fun line =>
          let item := line.dropWhile Bytes.isBlank
          if item.isEmpty then none else some item
      else wordsOf (b.length + 1) none b

/-- Starts a program with arguments from the standard input. -/
def xargs : Program := fun s => withOptions s xargsGrammar 1 fun options command => do
  let command := if command.isEmpty then ["echo".toList] else command
  match ← Script.readFile ((options.value? 'a').getD ['-']) with
  | .error e =>
      Script.complain s ("Cannot open input file ".toList ++
        Script.quoted ((options.value? 'a').getD []) ++ ": ".toList ++ Script.errorText e)
      return 1
  | .ok b =>
      let items := itemsOf options b
      let commands :=
        match options.value? 'I' with
        | some mark =>
            items.map fun item => command.map fun (c : Bytes) => replaced mark item (c.length + 1) c
        | none =>
            let items := if options.has 'L' then (Bytes.lines b).map fun line => line else items
            let size := ((options.value? 'L').or (options.value? 'n')).bind Bytes.toNat?
            let groups := groupsOf (max (size.getD items.length) 1) (items.length + 1) items
            let groups := if groups.isEmpty && !options.has 'r' then [[]] else groups
            let groups := if options.has 'L' then
              groups.map fun lines => lines.flatMap fun line => wordsOf (line.length + 1) none line
              else groups
            groups.map fun g => command ++ g
      startAll s (options.has 't') 0 commands

end Jobs

end Playground.Tool
