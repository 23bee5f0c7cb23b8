import Playground.Tool.Files
import Playground.Tool.Format

set_option autoImplicit false

/-! # Listings

The names in directories, one on each line, and what is known of the files if that is wanted. -/

namespace Playground.Tool

open Machine (Bytes Options Program Script Start Status Node Grammar withOptions)

namespace Listing

/-! ## Details -/

/-- The letter for the kind of a node. -/
def kindLetter (n : Node) : Char :=
  match n.entry with
  | .directory => 'd'
  | .file _ => '-'
  | .link _ => 'l'
  | .device _ => 'c'
  | .pipe => 'p'

def modeText (n : Node) : Bytes := kindLetter n :: Mode.letters n.mode

def sizeOf (n : Node) : Nat :=
  match n.entry with
  | .directory => 4096
  | .file contents => contents.length
  | .link target => target.utf8ByteSize
  | _ => 0

/-- A file that is listed. -/
structure Row where
  name : Bytes
  node : Node
  links : Nat

def padLeft (width : Nat) (b : Bytes) : Bytes := List.replicate (width - b.length) ' ' ++ b

/-- The mark after a name that tells what it is the name of. -/
def markOf (options : Options) (n : Node) : Bytes :=
  let has (letter : Char) : Bool := options.has letter
  match n.entry with
  | .directory => if has 'F' || has 'p' then ['/'] else []
  | .link _ => if has 'F' && !has 'l' then ['@'] else []
  | .file _ => if has 'F' && n.mode &&& 0o111 != 0 then ['*'] else []
  | .device _ => []
  | .pipe => if has 'F' then ['|'] else []

def targetText (n : Node) : Bytes :=
  match n.entry with
  | .link target => " -> ".toList ++ Bytes.ofString target
  | _ => []

def rowLine (options : Options) (rows : List Row) (r : Row) : Bytes :=
  let width (f : Row → Nat) : Nat := (rows.map fun row => (Bytes.ofNat (f row)).length).foldl max 1
  let number (f : Row → Nat) : Bytes := padLeft (width f) (Bytes.ofNat (f r))
  let name := r.name ++ markOf options r.node
  if options.has 'l' then
    modeText r.node ++ ' ' :: number Row.links ++ " root root ".toList ++
      number (fun row => sizeOf row.node) ++ " Jan  1 00:00 ".toList ++ name ++ targetText r.node
  else name

def blocks (n : Node) : Nat :=
  match n.entry with
  | .directory => 4
  | .file contents => (contents.length + 4095) / 4096 * 4
  | _ => 0

/-! ## Order -/

def sorted (options : Options) (rows : List Row) : List Row :=
  let has (letter : Char) : Bool := options.has letter
  let byName := if has 'U' || has 'f' then rows
    else rows.mergeSort fun a b => Bytes.before a.name b.name
  let rows :=
    if has 'S' then byName.mergeSort fun a b => sizeOf b.node ≤ sizeOf a.node else byName
  if has 'r' then rows.reverse else rows

/-! ## Directories -/

def linksOf (n : Node) : Nat :=
  match n.entry with
  | .directory => 2
  | _ => 1

def rowOf? (path name : Bytes) (follow : Bool) : Script (Except HostError Row) := do
  match ← Script.ask (.status (Bytes.toText path) follow) with
  | .ok st => return .ok ⟨name, st.node, linksOf st.node⟩
  | .error e => return .error e

/-- The rows for names in a directory. -/
def rowsIn (directory : Bytes) : List Bytes → Script (List Row)
  | [] => return []
  | name :: names => do
      match ← rowOf? (Files.within directory name) name false with
      | .ok row => return row :: (← rowsIn directory names)
      | .error _ => rowsIn directory names

def isShown (options : Options) (name : Bytes) : Bool :=
  options.has 'a' || options.has 'A' || options.has 'f' ||
    name.head? != some '.'

def dots (options : Options) : List Bytes :=
  if options.has 'a' || options.has 'f' then [['.'], ['.', '.']] else []

def printRows (options : Options) (rows : List Row) : Script Unit := do
  let rows := sorted options rows
  if options.has 'm' then
    if rows.isEmpty then pure ()
    else Script.printLine (Bytes.joinWith ", ".toList (rows.map (rowLine options rows)))
  else Script.print (rows.flatMap fun r => rowLine options rows r ++ ['\n'])

/-- Lists a directory, and those in it if that is wanted. -/
def listDirectory (s : Start) (options : Options) (hasHeader : Bool) (steps : Nat)
    (path : Bytes) : Script Nat :=
  match steps with
  | 0 => return 1
  | steps + 1 => do
      match ← Script.ask (.list (Bytes.toText path)) with
      | .error e =>
          Files.failed s "cannot open directory" path e
          return 2
      | .ok names =>
          let isRecursive := options.has 'R'
          if hasHeader || isRecursive then Script.printLine (path ++ [':']) else pure ()
          let names := dots options ++ (names.map Bytes.ofString).filter (isShown options)
          let rows ← rowsIn path names
          if options.has 'l' then
            let total := rows.foldl (fun n r => n + blocks r.node) 0
            Script.printLine ("total ".toList ++ Bytes.ofNat total)
          else pure ()
          printRows options rows
          let mut code := 0
          if isRecursive then
            for r in sorted options rows do
              if Condition.isDirectory r.node && !Files.isDots r.name then
                Script.print ['\n']
                let c ← listDirectory s options hasHeader steps (Files.within path r.name)
                code := max code c
              else pure ()
          else pure ()
          return code

def lsGrammar : Grammar where
  flags := "1aAbBcCdDfFgGhHikLlmnNopqQrRsStuUvxXZ~"
  valued := "wIT="
  names := [("all", 'a'), ("almost-all", 'A'), ("escape", 'b'), ("ignore-backups", 'B'),
    ("directory", 'd'), ("classify", 'F'), ("file-type", 'p'), ("no-group", 'G'),
    ("human-readable", 'h'), ("inode", 'i'), ("ignore", 'I'), ("dereference", 'L'),
    ("numeric-uid-gid", 'n'), ("literal", 'N'), ("quote-name", 'Q'), ("reverse", 'r'),
    ("recursive", 'R'), ("size", 's'), ("width", 'w'), ("tabsize", 'T'), ("color", '~'),
    ("group-directories-first", '~'), ("full-time", '~'), ("sort", '='), ("time", '='),
    ("time-style", '='), ("format", '='), ("indicator-style", '=')]
  relaxed := "F~"

/-- Lists files, and what is in directories. -/
def ls : Program := fun s => withOptions s lsGrammar 2 fun options names => do
  let has (letter : Char) : Bool := options.has letter
  let names := if names.isEmpty then [['.']] else names
  let mut code := 0
  let mut files : List Row := []
  let mut directories : List Bytes := []
  for name in names do
    let follow := !(has 'l' || has 'd' || has 'F')
    let found ← rowOf? name name follow
    let found ←
      match found, follow with
      | .error _, true => rowOf? name name false
      | found, _ => pure found
    match found with
    | .error e =>
        Files.failed s "cannot access" name e
        code := 2
    | .ok row =>
        if Condition.isDirectory row.node && !has 'd' then directories := directories ++ [name]
        else files := files ++ [row]
  printRows options files
  let hasHeader := 1 < names.length
  let mut isFirst := files.isEmpty
  for name in directories.mergeSort Bytes.before do
    if isFirst then pure () else Script.print ['\n']
    isFirst := false
    code := max code (← listDirectory s options hasHeader Script.endless name)
  return code

/-! ## One file -/

def kindText (n : Node) : Bytes :=
  match n.entry with
  | .directory => "directory".toList
  | .file contents => (if contents.isEmpty then "regular empty file" else "regular file").toList
  | .link _ => "symbolic link".toList
  | .device _ => "character special file".toList
  | .pipe => "fifo".toList

/-- What a directive stands for in the description of a file. -/
def detail (r : Row) : Char → Bytes
  | 'a' => Nat.toDigits 8 r.node.mode
  | 'A' => modeText r.node
  | 'F' => kindText r.node
  | 'g' => ['0']
  | 'G' => "root".toList
  | 'h' => Bytes.ofNat r.links
  | 'n' => r.name
  | 'N' =>
      match r.node.entry with
      | .link target => Script.quoted r.name ++ " -> ".toList ++
          Script.quoted (Bytes.ofString target)
      | _ => Script.quoted r.name
  | 's' => Bytes.ofNat (sizeOf r.node)
  | 'u' => ['0']
  | 'U' => "root".toList
  | '%' => ['%']
  | _ => ['?']

/-- A description of a file after a format. -/
def described (r : Row) : Bytes → Bytes
  | '%' :: c :: rest => detail r c ++ described r rest
  | c :: rest => c :: described r rest
  | [] => []

def statGrammar : Grammar where
  flags := "fLt"
  valued := "c="
  names := [("dereference", 'L'), ("file-system", 'f'), ("format", 'c'), ("printf", '='),
    ("terse", 't')]

/-- Describes files. -/
def stat : Program := fun s => withOptions s statGrammar 1 fun options names => do
  if names.isEmpty then Files.missingOperand s
  else
    let format :=
      match options.value? '=', options.value? 'c' with
      | some format, _ => (Format.unescaped false format).1
      | none, some format => format ++ ['\n']
      | none, none => "  File: %n\n  Size: %s\t%F\nAccess: (%a/%A)\n".toList
    Files.forAll names fun name => do
      match ← rowOf? name name (options.has 'L') with
      | .ok row =>
          Script.print (described row format)
          return true
      | .error e => Files.report s "cannot statx" name (.error e)

end Listing

end Playground.Tool
