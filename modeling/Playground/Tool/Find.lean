import Playground.Shell.Pattern
import Playground.Tool.Jobs
import Playground.Tool.Listing

set_option autoImplicit false

/-! # Finding files

An expression of tests and actions is evaluated for each file below some paths. -/

namespace Playground.Tool

open Machine (Bytes Program Script Start Node)
open Shell (Glyphs.ofBytes)

namespace Find

/-! ## Expressions -/

/-- How a number is compared with the one that was given. -/
inductive Bound where
  | more
  | less
  | same

def Bound.holds (b : Bound) (limit n : Nat) : Bool :=
  match b with
  | .more => limit < n
  | .less => n < limit
  | .same => n == limit

/-- Which bits a mode must have: all of some and no others, all of some, or any of some. -/
inductive Permission where
  | exactly (bits : Nat)
  | all (bits : Nat)
  | any (bits : Nat)

def Permission.holds (p : Permission) (mode : Nat) : Bool :=
  match p with
  | .exactly bits => mode == bits
  | .all bits => mode &&& bits == bits
  | .any bits => bits == 0 || mode &&& bits != 0

inductive Expression where
  | always
  | never
  | name (pattern : Bytes) (ignoresCase : Bool)
  | path (pattern : Bytes) (ignoresCase : Bool)
  | kind (letters : Bytes)
  | empty
  /-- A size in units of so many octets, where a part of a unit counts as one. -/
  | size (b : Bound) (limit unit : Nat)
  | permission (p : Permission)
  /-- May somebody run the program, or enter the directory? -/
  | executable
  | print (ending : Char)
  | describe (format : Bytes)
  | delete
  | prune
  | quit
  /-- Starts a program for each file. -/
  | exec (words : List Bytes)
  /-- Starts a program for all files together. -/
  | collect (words : List Bytes)
  | negated (e : Expression)
  | both (a b : Expression)
  | either (a b : Expression)
  /-- Both are evaluated, and the second one counts. -/
  | inTurn (a b : Expression)

/-- Does an expression do anything with the files it finds? -/
def Expression.acts : Expression → Bool
  | .print _ => true
  | .describe _ => true
  | .delete => true
  | .quit => true
  | .exec _ => true
  | .collect _ => true
  | .negated e => e.acts
  | .both a b => a.acts || b.acts
  | .either a b => a.acts || b.acts
  | .inTurn a b => a.acts || b.acts
  | _ => false

/-- What holds for all files. -/
structure Range where
  least : Nat
  most : Option Nat
  /-- Do directories come after what is in them? -/
  isDeepFirst : Bool
  /-- Are links followed? -/
  follows : Bool

/-! ## Reading -/

inductive Fault where
  | unknown (word : Bytes)
  | missing (word : Bytes)
  | badKind (letters : Bytes)
  | badDepth (word value : Bytes)
  | badSize (value : Bytes)
  | badUnit (c : Char)
  | badMode (value : Bytes)
  | nobody (name : Bytes)
  | noGroup (name : Bytes)
  | incomplete
  | unclosed
  | outOfOrder (path : Bytes)

def Fault.message : Fault → Bytes
  | .unknown word => "unknown predicate ".toList ++ Char.ofNat 96 :: word ++ ['\'']
  | .missing word => "missing argument to ".toList ++ Char.ofNat 96 :: word ++ ['\'']
  | .badKind letters => "Unknown argument to -type: ".toList ++ letters
  | .badDepth word value => "Expected a positive decimal integer argument to ".toList ++ word ++
      ", but got ".toList ++ Script.quoted value
  | .badSize value => "Invalid argument ".toList ++ Char.ofNat 96 :: value ++ "' to -size".toList
  | .badUnit c => "invalid -size type ".toList ++ Char.ofNat 96 :: c :: ['\'']
  | .badMode value => "invalid mode ".toList ++ Script.quoted value
  | .nobody name => Script.quoted name ++ " is not the name of a known user".toList
  | .noGroup name => Script.quoted name ++ " is not the name of an existing group".toList
  | .incomplete => "invalid expression".toList
  | .unclosed =>
      "invalid expression; I was expecting to find a ')' somewhere but did not see one.".toList
  | .outOfOrder path => "paths must precede expression: ".toList ++ Char.ofNat 96 :: path ++ ['\'']

/-- What has been read, and the words after it. -/
abbrev Reading := Except Fault (Expression × Range × List Bytes)

def readKinds (letters : Bytes) (r : Range) (rest : List Bytes) : Reading :=
  let kinds := Bytes.splitOn ',' letters
  if kinds.all fun k => ["f", "d", "l", "p", "s", "b", "c"].contains (String.ofList k) then
    .ok (.kind kinds.flatten, r, rest)
  else .error (.badKind letters)

def readDepth (word value : Bytes) (r : Range) (rest : List Bytes) : Reading :=
  match Bytes.toNat? value with
  | none => .error (.badDepth word value)
  | some n =>
      let r :=
        if word = "-maxdepth".toList then { r with most := some n } else { r with least := n }
      .ok (.always, r, rest)

/-- A number with a sign that says how it is compared, and what is after its digits. -/
def readBound? (value : Bytes) : Option (Bound × Nat × Bytes) :=
  let (b, rest) :=
    match value with
    | '+' :: rest => (Bound.more, rest)
    | '-' :: rest => (Bound.less, rest)
    | rest => (Bound.same, rest)
  let digits := rest.takeWhile Char.isDigit
  if digits.isEmpty then none else some (b, Bytes.digitsValue digits, rest.drop digits.length)

def readSize (value : Bytes) (r : Range) (rest : List Bytes) : Reading :=
  match readBound? value with
  | some (b, limit, tail) =>
      let ofUnit (unit : Nat) : Reading := .ok (.size b limit unit, r, rest)
      match tail with
      | [] => ofUnit 512
      | ['b'] => ofUnit 512
      | ['c'] => ofUnit 1
      | ['w'] => ofUnit 2
      | ['k'] => ofUnit 1024
      | ['M'] => ofUnit (1 <<< 20)
      | ['G'] => ofUnit (1 <<< 30)
      | [c] => .error (.badUnit c)
      | _ => .error (.badSize value)
  | none => .error (.badSize value)

def readPermission (value : Bytes) (r : Range) (rest : List Bytes) : Reading :=
  let (make, text) :=
    match value with
    | '-' :: text => (Permission.all, text)
    | '/' :: text => (Permission.any, text)
    | text => (Permission.exactly, text)
  match Mode.changed false 0 0 text with
  | some bits => .ok (.permission (make bits), r, rest)
  | none => .error (.badMode value)

/-- All files belong to one user and one group, which go by a name and a number. -/
def readOwner (value : Bytes) (fault : Fault) (r : Range) (rest : List Bytes) : Reading :=
  if value = "root".toList ∨ value = ['0'] then .ok (.always, r, rest)
  else if value.all Char.isDigit ∧ value ≠ [] then .ok (.never, r, rest)
  else .error fault

/-- The words of a command up to the one that ends it. -/
def readCommand (words : List Bytes) (r : Range) : Reading :=
  let isEnd (i : Nat) (w : Bytes) : Bool :=
    w == [';'] || (w == ['+'] && words[i - 1]? == some ['\x7b', '\x7d'] && 0 < i)
  match ((List.range words.length).zip words).find? fun entry => isEnd entry.1 entry.2 with
  | none => .error (.missing "-exec".toList)
  | some (i, stop) =>
      let command := words.take i
      if command.isEmpty then .error (.missing "-exec".toList)
      else
        .ok (if stop = [';'] then .exec command else .collect command.dropLast, r,
          words.drop (i + 1))

/-- One test or action, whose first word this is. -/
def readPrimary (word : Bytes) (rest : List Bytes) (r : Range) : Reading :=
  match String.ofList word, rest with
  | "-print", rest => .ok (.print '\n', r, rest)
  | "-print0", rest => .ok (.print (Char.ofNat 0), r, rest)
  | "-delete", rest => .ok (.delete, { r with isDeepFirst := true }, rest)
  | "-depth", rest => .ok (.always, { r with isDeepFirst := true }, rest)
  | "-prune", rest => .ok (.prune, r, rest)
  | "-quit", rest => .ok (.quit, r, rest)
  | "-empty", rest => .ok (.empty, r, rest)
  | "-true", rest => .ok (.always, r, rest)
  | "-false", rest => .ok (.never, r, rest)
  | "-xdev", rest => .ok (.always, r, rest)
  | "-mount", rest => .ok (.always, r, rest)
  | "-follow", rest => .ok (.always, { r with follows := true }, rest)
  | "-readable", rest => .ok (.always, r, rest)
  | "-writable", rest => .ok (.always, r, rest)
  | "-executable", rest => .ok (.executable, r, rest)
  | "-exec", rest => readCommand rest r
  | "-name", value :: rest => .ok (.name value false, r, rest)
  | "-iname", value :: rest => .ok (.name value true, r, rest)
  | "-path", value :: rest => .ok (.path value false, r, rest)
  | "-wholename", value :: rest => .ok (.path value false, r, rest)
  | "-ipath", value :: rest => .ok (.path value true, r, rest)
  | "-size", value :: rest => readSize value r rest
  | "-perm", value :: rest => readPermission value r rest
  | "-user", value :: rest => readOwner value (.nobody value) r rest
  | "-uid", value :: rest => readOwner value (.nobody value) r rest
  | "-group", value :: rest => readOwner value (.noGroup value) r rest
  | "-gid", value :: rest => readOwner value (.noGroup value) r rest
  | "-printf", value :: rest => .ok (.describe (Format.unescaped false value).1, r, rest)
  | "-type", value :: rest => readKinds value r rest
  | "-maxdepth", value :: rest => readDepth word value r rest
  | "-mindepth", value :: rest => readDepth word value r rest
  | other, [] =>
      if ["-name", "-iname", "-path", "-wholename", "-ipath", "-type", "-maxdepth", "-mindepth",
        "-size", "-perm", "-user", "-uid", "-group", "-gid", "-printf"].contains other then
        .error (.missing word)
      else .error (.unknown word)
  | _, _ => .error (if word.head? == some '-' then .unknown word else .outOfOrder word)

mutual

def readInTurn (steps : Nat) (words : List Bytes) (r : Range) : Reading :=
  match steps with
  | 0 => .error .incomplete
  | steps + 1 => do
      let (a, r, rest) ← readEither steps words r
      match rest with
      | [','] :: more =>
          let (b, r, rest) ← readInTurn steps more r
          return (.inTurn a b, r, rest)
      | rest => return (a, r, rest)
  termination_by structural steps

def readEither (steps : Nat) (words : List Bytes) (r : Range) : Reading :=
  match steps with
  | 0 => .error .incomplete
  | steps + 1 => do
      let (a, r, rest) ← readBoth steps words r
      match rest with
      | word :: more =>
          if word = "-o".toList ∨ word = "-or".toList then
            let (b, r, rest) ← readEither steps more r
            return (.either a b, r, rest)
          else return (a, r, rest)
      | [] => return (a, r, [])
  termination_by structural steps

def readBoth (steps : Nat) (words : List Bytes) (r : Range) : Reading :=
  match steps with
  | 0 => .error .incomplete
  | steps + 1 => do
      let (a, r, rest) ← readOne steps words r
      match rest with
      | [] => return (a, r, [])
      | word :: more =>
          if ["-o", "-or", ",", ")"].contains (String.ofList word) then return (a, r, rest)
          else
            let isJoint := word = "-a".toList || word = "-and".toList
            let (b, r, rest) ← readBoth steps (if isJoint then more else word :: more) r
            return (.both a b, r, rest)
  termination_by structural steps

def readOne (steps : Nat) (words : List Bytes) (r : Range) : Reading :=
  match steps, words with
  | 0, _ => .error .incomplete
  | _, [] => .error .incomplete
  | steps + 1, word :: rest =>
      match String.ofList word with
      | "!" => do
          let (e, r, rest) ← readOne steps rest r
          return (.negated e, r, rest)
      | "-not" => do
          let (e, r, rest) ← readOne steps rest r
          return (.negated e, r, rest)
      | "(" => do
          match ← readInTurn steps rest r with
          | (e, r, [')'] :: rest) => return (e, r, rest)
          | _ => .error .unclosed
      | _ => readPrimary word rest r
  termination_by structural steps

end

def startsExpression (word : Bytes) : Bool :=
  (word.head? == some '-' && word != ['-']) || [['('], ['!'], [')'], [',']].contains word

/-- The paths and the expression that words give. -/
def read (words : List Bytes) : Except Fault (List Bytes × Expression × Range) := do
  let options := words.takeWhile fun word => [['-', 'L'], ['-', 'P'], ['-', 'H']].contains word
  let words := words.drop options.length
  let paths := words.takeWhile fun word => !startsExpression word
  let rest := words.drop paths.length
  let paths := if paths.isEmpty then [['.']] else paths
  let everywhere : Range := ⟨0, none, false, options.getLast? == some ['-', 'L']⟩
  if rest.isEmpty then return (paths, .print '\n', everywhere)
  else
    match ← readInTurn (5 * rest.length + 5) rest everywhere with
    | (e, r, []) => return (paths, if e.acts then e else .both e (.print '\n'), r)
    | (_, _, word :: _) => .error (.unknown word)

/-! ## Evaluation -/

/-- How a search has gone so far. -/
structure Progress where
  isWhole : Bool
  isOver : Bool
  /-- Is the directory not to be entered? -/
  isPruned : Bool
  /-- Files for programs that are started at the end, last first. -/
  collected : List Bytes

def hits (pattern : Bytes) (ignoresCase : Bool) (b : Bytes) : Bool :=
  let fold (b : Bytes) : Bytes := if ignoresCase then b.map Char.toLower else b
  Shell.Pattern.hits (Shell.Pattern.read (Glyphs.ofBytes (fold pattern) false)) (fold b)

def kindOf (n : Node) : Char :=
  match n.entry with
  | .directory => 'd'
  | .file _ => 'f'
  | .link _ => 'l'
  | .device _ => 'c'
  | .pipe => 'p'

def isEmpty (path : Bytes) (n : Node) : Script Bool := do
  match n.entry with
  | .file contents => return contents.isEmpty
  | .directory =>
      match ← Script.ask (.list (Bytes.toText path)) with
      | .ok names => return names.isEmpty
      | .error _ => return false
  | _ => return false

/-- Starts a program, and tells whether it has succeeded. -/
def succeeds (s : Start) (words : List Bytes) : Script Bool := do
  let child : Nat ← Script.ask .fork
  if child = 0 then
    let code ← Jobs.become (Files.failed s "") s.environment words
    Script.exitWith code
  else
    match ← Jobs.await Script.endless (some child) with
    | some (_, status) => return status.code? == some 0
    | none => return false

/-- A description of a file, so deep below a starting point, after a format. -/
def described (start : Bytes) (depth : Nat) (path : Bytes) (n : Node) : Bytes → Bytes
  | '%' :: c :: rest =>
      let parent := path.take (path.length - (Files.lastName path).length)
      let detail : Bytes :=
        match c with
        | 'p' => path
        | 'f' => Files.lastName path
        | 'h' => if parent.isEmpty then ['.'] else parent.dropLast
        | 'P' => (path.drop start.length).dropWhile (· == '/')
        | 'H' => start
        | 'd' => Bytes.ofNat depth
        | 's' => Bytes.ofNat (Listing.sizeOf n)
        | 'y' => [kindOf n]
        | 'm' => Nat.toDigits 8 n.mode
        | 'M' => Listing.modeText n
        | 'u' => "root".toList
        | 'g' => "root".toList
        | 'U' => ['0']
        | 'G' => ['0']
        | 'l' =>
            match n.entry with
            | .link target => Bytes.ofString target
            | _ => []
        | '%' => ['%']
        | c => ['%', c]
      detail ++ described start depth path n rest
  | c :: rest => c :: described start depth path n rest
  | [] => []

/-- Evaluates an expression for a file, so deep below a starting point. -/
def evaluate (s : Start) (start : Bytes) (depth : Nat) (path : Bytes) (n : Node) (p : Progress) :
    Expression → Script (Bool × Progress)
  | .always => return (true, p)
  | .never => return (false, p)
  | .name pattern ignoresCase => return (hits pattern ignoresCase (Files.lastName path), p)
  | .path pattern ignoresCase => return (hits pattern ignoresCase path, p)
  | .kind letters => return (letters.contains (kindOf n), p)
  | .empty => return (← isEmpty path n, p)
  | .size b limit unit => return (b.holds limit ((Listing.sizeOf n + unit - 1) / unit), p)
  | .permission required => return (required.holds n.mode, p)
  | .executable => return (n.mode &&& 0o111 != 0, p)
  | .print ending => do
      Script.print (path ++ [ending])
      return (true, p)
  | .describe format => do
      Script.print (described start depth path n format)
      return (true, p)
  | .delete => do
      let result ←
        if kindOf n = 'd' then Script.ask (.removeDirectory (Bytes.toText path))
        else Script.ask (.unlink (Bytes.toText path))
      let isDone ← Files.report s "cannot delete" path result
      return (isDone, { p with isWhole := p.isWhole && isDone })
  | .prune => return (true, { p with isPruned := true })
  | .quit => return (true, { p with isOver := true })
  | .exec words => do
      let mark := ['\x7b', '\x7d']
      let isDone ← succeeds s (words.map fun w => Jobs.replaced mark path (w.length + 1) w)
      return (isDone, p)
  | .collect _ => return (true, { p with collected := path :: p.collected })
  | .negated e => do
      let (holds, p) ← evaluate s start depth path n p e
      return (!holds, p)
  | .both a b => do
      let (holds, p) ← evaluate s start depth path n p a
      if holds && !p.isOver then evaluate s start depth path n p b else return (false, p)
  | .either a b => do
      let (holds, p) ← evaluate s start depth path n p a
      if holds || p.isOver then return (true, p) else evaluate s start depth path n p b
  | .inTurn a b => do
      let (_, p) ← evaluate s start depth path n p a
      if p.isOver then return (true, p) else evaluate s start depth path n p b

/-- Evaluates an expression for a file and for all that is below it. -/
def walk (s : Start) (e : Expression) (r : Range) (start : Bytes) (steps depth : Nat)
    (path : Bytes) (p : Progress) : Script Progress :=
  match steps with
  | 0 => return p
  | steps + 1 => do
      if p.isOver then return p
      else
        let found ← Script.ask (.status (Bytes.toText path) r.follows)
        let found ←
          match found with
          | .error .notFound => Script.ask (.status (Bytes.toText path) false)
          | found => pure found
        match found with
        | .error error =>
            Files.failed s "" path error
            return { p with isWhole := false }
        | .ok st =>
            let visit (p : Progress) : Script Progress := do
              if r.least ≤ depth then return (← evaluate s start depth path st.node p e).2
              else return p
            let enter (p : Progress) : Script Progress := do
              let isInside := kindOf st.node = 'd' && r.most.all fun n => depth < n
              if !isInside || p.isPruned then return { p with isPruned := false }
              else
                match ← Script.ask (.list (Bytes.toText path)) with
                | .error error =>
                    Files.failed s "" path error
                    return { p with isWhole := false }
                | .ok names =>
                    let mut p := p
                    for name in names do
                      let below := Files.within path (Bytes.ofString name)
                      p ← walk s e r start steps (depth + 1) below p
                    return p
            if r.isDeepFirst then visit { (← enter p) with isPruned := false }
            else enter (← visit { p with isPruned := false })

/-- The programs that are started for all files together. -/
def Expression.collectors : Expression → List (List Bytes)
  | .collect words => [words]
  | .negated e => e.collectors
  | .both a b => a.collectors ++ b.collectors
  | .either a b => a.collectors ++ b.collectors
  | .inTurn a b => a.collectors ++ b.collectors
  | _ => []

def find : Program := fun s => do
  match read s.arguments with
  | .error e =>
      Script.complain s e.message
      return 1
  | .ok (paths, e, r) =>
      let mut p : Progress := ⟨true, false, false, []⟩
      for path in paths do
        p ← walk s e r path Script.endless 0 path p
      for words in e.collectors do
        if p.collected.isEmpty then pure ()
        else
          let isDone ← succeeds s (words ++ p.collected.reverse)
          if isDone then pure () else p := { p with isWhole := false }
      return if p.isWhole then 0 else 1

end Find

end Playground.Tool
