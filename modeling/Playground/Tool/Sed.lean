import Playground.Tool.Condition
import Playground.Tool.Edit
import Playground.Tool.Stream

set_option autoImplicit false

/-! # Editing streams

The program that carries a script out for the lines of files. It goes on as soon as it has read
enough to know that a line is not the last one. -/

namespace Playground.Tool

open Machine (Bytes Options Program Script Start Grammar)

namespace Sed

/-! ## Input -/

/-- Where lines come from. -/
structure Source where
  names : List Bytes
  /-- The file that is being read. -/
  current : Option (Bytes × Nat)
  /-- The beginning of a line, its last piece first. -/
  pieces : List Bytes
  /-- Has the last line come with its end? -/
  isEnded : Bool
  /-- The exit code so far. -/
  code : Nat

def Source.start (names : List Bytes) : Source := ⟨names, none, [], true, 0⟩

/-- Reads on. Returns the lines that have come, or nothing at the end. -/
def Source.more (s : Start) (ending : Char) (steps : Nat) (source : Source) :
    Script (Option (List Bytes) × Source) :=
  match steps with
  | 0 => return (none, source)
  | steps + 1 => do
      let line := source.pieces.reverse.flatten
      match source.current, source.names with
      | none, [] =>
          if line.isEmpty then return (none, source)
          else return (some [line], { source with pieces := [], isEnded := false })
      | none, name :: names =>
          match ← Stream.openOperand name with
          | .ok descriptor =>
              let next := { source with names := names, current := some (name, descriptor) }
              if line.isEmpty then next.more s ending steps
              else return (some [line], { next with pieces := [] })
          | .error e =>
              Script.complainOf s "can't read " name e
              ({ source with names := names, code := 2 } : Source).more s ending steps
      | some (name, descriptor), _ =>
          match ← Script.ask (.read descriptor Script.chunkSize) with
          | .error e =>
              Script.complainOf s "read error on " name e
              return (none, { source with names := [], current := none, pieces := [], code := 4 })
          | .ok [] =>
              if descriptor = Script.stdin then pure ()
              else
                let _ ← Script.ask (.close descriptor)
              ({ source with current := none } : Source).more s ending steps
          | .ok octets =>
              match Bytes.splitOn ending (Bytes.ofOctets octets) with
              | first :: second :: rest =>
                  let lines := (line ++ first) :: (second :: rest).dropLast
                  return (some lines, { source with pieces := [(second :: rest).getLastD []] })
              | other =>
                  ({ source with pieces := other.flatten :: source.pieces } : Source).more s ending
                    steps

/-- All lines that are left. -/
def Source.rest (s : Start) (ending : Char) (steps : Nat) (source : Source) :
    Script (List Bytes × Source) :=
  match steps with
  | 0 => return ([], source)
  | steps + 1 => do
      match ← source.more s ending Script.endless with
      | (none, source) => return ([], source)
      | (some lines, source) =>
          let (others, source) ← source.rest s ending steps
          return (lines ++ others, source)

/-! ## Output -/

/-- The output without the end of its last line. -/
def withoutEnd (ending : Char) (output : List Edit.Output) : List Edit.Output :=
  match output.getLast? with
  | some (.text b) =>
      if b.getLast? == some ending then output.dropLast ++ [.text b.dropLast] else output
  | _ => output

/-- Writes what there is to write. Files are known by their descriptors. -/
def emit (files : List (Bytes × Nat)) (target : Nat) : List Edit.Output → Script Unit
  | [] => return ()
  | .text b :: rest => do
      let texts := rest.takeWhile fun o => o matches .text _
      let all := texts.foldl (fun (taken : List Bytes) o =>
        match o with
        | .text b => b :: taken
        | _ => taken) [b]
      Script.put target all.reverse.flatten
      emit files target (rest.dropWhile fun o => o matches .text _)
  | .toFile name b :: rest => do
      Script.put ((files.lookup name).getD target) b
      emit files target rest
  | .fromFile name :: rest => do
      match ← Script.readFile name with
      | .ok b => Script.put target b
      | .error _ => pure ()
      emit files target rest
termination_by output => output.length
decreasing_by
  all_goals simp only [List.length_cons]
  · have := (List.dropWhile_sublist (l := rest) fun o => o matches .text _).length_le
    omega
  · omega
  · omega

/-! ## Running scripts -/

/-- Carries a script out for what a source gives. -/
def drive (s : Start) (script : List Edit.Step) (files : List (Bytes × Nat)) (steps : Nat)
    (e : Edit.Editor) (source : Source) : Script Nat :=
  match steps with
  | 0 => return 0
  | steps + 1 => do
      let (e, code) := Edit.run script (1 <<< 40) e
      let output := e.output.reverse
      let isCut := code.isSome && !source.isEnded && e.rest.isEmpty
      emit files Script.stdout (if isCut then withoutEnd e.ending output else output)
      let e := { e with output := [] }
      match code with
      | some code => return if code = 0 then source.code else code
      | none =>
          match ← source.more s e.ending Script.endless with
          | (some lines, source) =>
              drive s script files steps { e with rest := e.rest ++ lines } source
          | (none, source) => drive s script files steps { e with isWhole := true } source

/-- Carries a script out for one file, which then holds what has been written. -/
def editFile (s : Start) (script : List Edit.Step) (files : List (Bytes × Nat)) (ending : Char)
    (isQuiet : Bool) (backup name : Bytes) : Script Nat := do
  if ← Condition.aboutFile "-d" name then
    Script.complain s ("couldn't edit ".toList ++ name ++ ": not a regular file".toList)
    return 4
  else
    let (lines, source) ← (Source.start [name]).rest s ending Script.endless
    if source.code ≠ 0 then return source.code
    else
      let (e, code) := Edit.run script (1 <<< 40) (.start script ending isQuiet lines true)
      let left := e.rest.map fun line => Edit.Output.text (line ++ [ending])
      let output := e.output.reverse ++ left
      let output := if source.isEnded then output else withoutEnd ending output
      if backup.isEmpty then pure ()
      else
        let _ ← Script.ask (.rename (Bytes.toText name) (Bytes.toText (name ++ backup)))
      match ← Script.ask (.openAt (Bytes.toText name) .overwrite 0o644) with
      | .error e =>
          Script.complainOf s "couldn't open file " name e
          return 4
      | .ok descriptor =>
          emit files descriptor output
          let _ ← Script.ask (.close descriptor)
          return code.getD 0

/-- Opens the files that a script writes to. -/
def openFiles (s : Start) : List Bytes → Script (List (Bytes × Nat))
  | [] => return []
  | name :: names => do
      if name = "/dev/stdout".toList then
        return (name, Script.stdout) :: (← openFiles s names)
      else
        match ← Script.ask (.openAt (Bytes.toText name) .overwrite 0o666) with
        | .ok descriptor => return (name, descriptor) :: (← openFiles s names)
        | .error e =>
            Script.complainOf s "couldn't open file " name e
            openFiles s names

def writtenFiles (script : List Edit.Step) : List Bytes :=
  (script.filterMap fun step =>
    match step.action with
    | .writeFile name => some name
    | .writeFirst name => some name
    | .substitute sub => sub.file
    | _ => none).eraseDups

/-! ## Options -/

/-- A part of the script and where it comes from. -/
inductive Part where
  | given (text : Bytes)
  | kept (name text : Bytes)

def Part.text : Part → Bytes
  | .given text => text
  | .kept _ text => text

/-- Does a script begin with the words that stop lines from being written? -/
def Part.asksForSilence : Part → Bool
  | .kept ['-'] _ => false
  | part => ["#n\n".toList, "#n".toList].contains (part.text.take 3)

/-- Where a fault is: in which part, and how far that had been read. -/
def place (number : Nat) (part : Part) (rest : Bytes) : Bytes :=
  let read := part.text.take (part.text.length - rest.length)
  match part with
  | .given _ =>
      "-e expression #".toList ++ Bytes.ofNat number ++ ", char ".toList ++ Bytes.ofNat read.length
  | .kept name _ =>
      "file ".toList ++ name ++ " line ".toList ++ Bytes.ofNat (read.count '\n' + 1)

/-- The script that all parts make, or what is wrong with one of them. -/
def readParts (isExtended : Bool) (number depth : Nat) : List Part → Except Bytes (List Edit.Step)
  | [] =>
      if depth = 0 then .ok []
      else .error (place 1 (.given []) [] ++ ": ".toList ++ Edit.Fault.openBlock.message)
  | part :: parts =>
      match Edit.readSteps isExtended (part.text.length + 1) depth part.text with
      | .error (e, rest) => .error (place number part rest ++ ": ".toList ++ e.message)
      | .ok (steps, depth) => do
          let next := match part with
            | .given _ => number + 1
            | .kept _ _ => number
          return steps ++ (← readParts isExtended next depth parts)

def grammar : Grammar where
  flags := "nErszu+"
  valued := "efl"
  attached := "i"
  names := [("quiet", 'n'), ("silent", 'n'), ("regexp-extended", 'E'), ("expression", 'e'),
    ("file", 'f'), ("line-length", 'l'), ("in-place", 'i'), ("separate", 's'), ("null-data", 'z'),
    ("unbuffered", 'u'), ("debug", '+'), ("posix", '+'), ("sandbox", '+'), ("follow-symlinks", '+')]
  relaxed := "i"

def usage : Bytes :=
  "Usage: sed [OPTION]... \x7bscript-only-if-no-other-script\x7d [input-file]...\n".toList

/-- The parts of the script that options give, or nothing if one cannot be read. -/
def partsOf (s : Start) : List (Char × Bytes) → Script (Option (List Part))
  | [] => return some []
  | ('e', text) :: rest => return (← partsOf s rest).map fun parts => .given text :: parts
  | ('f', name) :: rest => do
      match ← Script.readFile name with
      | .ok text => return (← partsOf s rest).map fun parts => .kept name text :: parts
      | .error e =>
          Script.complainOf s "couldn't open file " name e
          return none
  | _ :: rest => partsOf s rest

def sed : Program := fun s => do
  match grammar.read s.arguments with
  | .error e =>
      Script.complain s (e.message ++ '\n' :: usage.dropLast)
      return 1
  | .ok (options, operands) =>
      let isGiven := options.has 'e' || options.has 'f'
      let names := if isGiven then operands else operands.drop 1
      match ← partsOf s options.given, isGiven, operands with
      | none, _, _ => return 1
      | _, false, [] =>
          Script.put Script.stderr usage
          return 1
      | some parts, _, operands =>
          let parts := if isGiven then parts else [.given (operands.headD [])]
          match readParts (options.has 'E' || options.has 'r') 1 0 parts with
          | .error e =>
              Script.complain s e
              return 1
          | .ok steps =>
              let script := Edit.closeBlocks steps
              match Edit.missingLabel? script with
              | some name =>
                  Script.complain s ("can't find label for jump to ".toList ++
                    Char.ofNat 96 :: name ++ ['\''])
                  return 1
              | none =>
                  let isQuiet := options.has 'n' || parts.head?.any Part.asksForSilence
                  let ending := if options.has 'z' then Char.ofNat 0 else '\n'
                  let files ← openFiles s (writtenFiles script)
                  if options.has 'i' then
                    let mut code := 0
                    for name in names do
                      let backup := (options.value? 'i').getD []
                      let c ← editFile s script files ending isQuiet backup name
                      if c ≠ 0 then code := c else pure ()
                    return code
                  else
                    let names := if names.isEmpty then [['-']] else names
                    let groups := if options.has 's' then names.map fun name => [name] else [names]
                    let mut code := 0
                    for group in groups do
                      let e := Edit.Editor.start script ending isQuiet [] false
                      let c ← drive s script files Script.endless e (.start group)
                      if c ≠ 0 then code := c else pure ()
                    return code

end Sed

end Playground.Tool
