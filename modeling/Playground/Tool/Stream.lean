import Playground.Machine.Options

set_option autoImplicit false

/-! # Streams

Programs that pass octets on as they come, and stop when nobody wants any more. -/

namespace Playground.Tool

open Machine (Bytes Options Program Script Start Grammar withOptions seeHelp)

namespace Stream

/-- What an operand is opened as: a dash is the standard input. -/
def openOperand (name : Bytes) : Script (Except HostError Nat) :=
  if name = ['-'] then return .ok Script.stdin
  else Script.ask (.openAt (Bytes.toText name) .read 0)

/-- What has been done with a stream. -/
inductive Ending where
  | finished
  | unreadable (e : HostError)
  | unwritable (e : HostError)

/-- Passes all octets on. -/
def copy (steps : Nat) (descriptor : Nat) (targets : List Nat) : Script Ending :=
  match steps with
  | 0 => return .finished
  | steps + 1 => do
      match ← Script.ask (.read descriptor Script.chunkSize) with
      | .ok [] => return .finished
      | .error e => return .unreadable e
      | .ok octets =>
          let mut fault : Option HostError := none
          for target in targets do
            match ← Script.writeAll target (Bytes.ofOctets octets) with
            | .ok () => pure ()
            | .error e => fault := some e
          match fault with
          | some e => return .unwritable e
          | none => copy steps descriptor targets

/-- Passes so many octets on. -/
def copyCount (steps : Nat) (descriptor count : Nat) : Script Ending :=
  match steps with
  | 0 => return .finished
  | steps + 1 => do
      if count = 0 then return .finished
      else
        match ← Script.ask (.read descriptor (min count Script.chunkSize)) with
        | .ok [] => return .finished
        | .error e => return .unreadable e
        | .ok octets =>
            match ← Script.writeAll Script.stdout (Bytes.ofOctets octets) with
            | .ok () => copyCount steps descriptor (count - octets.length)
            | .error e => return .unwritable e

/-- The beginning of a text with so many lines, and how many lines are missing. -/
def takeLines (count : Nat) : Bytes → Bytes × Nat
  | [] => ([], count)
  | c :: rest =>
      if count = 0 then ([], 0)
      else if c = '\n' then
        let (taken, missing) := takeLines (count - 1) rest
        (c :: taken, missing)
      else
        let (taken, missing) := takeLines count rest
        (c :: taken, missing)

/-- Passes so many lines on. -/
def copyLines (steps : Nat) (descriptor count : Nat) : Script Ending :=
  match steps with
  | 0 => return .finished
  | steps + 1 => do
      if count = 0 then return .finished
      else
        match ← Script.ask (.read descriptor 1024) with
        | .ok [] => return .finished
        | .error e => return .unreadable e
        | .ok octets =>
            let (taken, missing) := takeLines count (Bytes.ofOctets octets)
            match ← Script.writeAll Script.stdout taken with
            | .ok () => copyLines steps descriptor missing
            | .error e => return .unwritable e

/-- Does something with each operand, and complains about what cannot be read. Something is passed
    on from one operand to the next, and returned with the exit code. -/
def foldEach {σ : Type} (s : Start) (openFault readFault : Bytes → Bytes) (names : List Bytes)
    (first : σ) (body : σ → Bytes → Nat → Script (Ending × σ)) : Script (Nat × σ) := do
  let mut code := 0
  let mut state := first
  for name in if names.isEmpty then [['-']] else names do
    match ← openOperand name with
    | .error e =>
        Script.complainOf s "" (openFault name) e
        code := 1
    | .ok descriptor =>
        let (ending, next) ← body state name descriptor
        state := next
        if descriptor = Script.stdin then pure ()
        else
          let _ ← Script.ask (.close descriptor)
        match ending with
        | .finished => pure ()
        | .unreadable e =>
            Script.complainOf s "" (readFault name) e
            code := 1
        | .unwritable e =>
            Script.complain s ("write error: ".toList ++ Script.errorText e)
            return (1, state)
  return (code, state)

/-- Does something with each operand, and returns the exit code alone. -/
def forEach {σ : Type} (s : Start) (openFault readFault : Bytes → Bytes) (names : List Bytes)
    (first : σ) (body : σ → Bytes → Nat → Script (Ending × σ)) : Script Nat := do
  return (← foldEach s openFault readFault names first body).1

/-! ## Line by line -/

/-- How what is read is turned into what is written, one line at a time. Something is passed on from
    one line to the next. -/
structure Filter (σ : Type) where
  /-- What a line becomes, which may have come without its end. -/
  step : σ → Bytes → Bool → Bytes × σ
  /-- Is nothing more to be read? -/
  isOver : σ → Bool := fun _ => false

namespace Filter

variable {σ : Type}

/-- What lines become. -/
def lines (f : Filter σ) (output : List Bytes) (state : σ) : List Bytes → Bytes × σ
  | [] => (output.reverse.flatten, state)
  | line :: rest =>
      if f.isOver state then (output.reverse.flatten, state)
      else
        let (text, state) := f.step state line true
        f.lines (text :: output) state rest

/-- Passes all lines through. A line may come in several pieces, of which the last comes first. -/
def copy (f : Filter σ) (steps : Nat) (pieces : List Bytes) (state : σ) (descriptor : Nat) :
    Script (Ending × σ) :=
  match steps with
  | 0 => return (.finished, state)
  | steps + 1 => do
      if f.isOver state then return (.finished, state)
      else
        match ← Script.ask (.read descriptor Script.chunkSize) with
        | .error e => return (.unreadable e, state)
        | .ok [] =>
            let line := pieces.reverse.flatten
            if line.isEmpty then return (.finished, state)
            else
              let (text, state) := f.step state line false
              match ← Script.writeAll Script.stdout text with
              | .ok () => return (.finished, state)
              | .error e => return (.unwritable e, state)
        | .ok octets =>
            match Bytes.splitOn '\n' (Bytes.ofOctets octets) with
            | first :: second :: rest =>
                let line := ((first :: pieces).reverse).flatten
                let (text, state) := f.lines [] state (line :: (second :: rest).dropLast)
                match ← Script.writeAll Script.stdout text with
                | .ok () => f.copy steps [(second :: rest).getLastD []] state descriptor
                | .error e => return (.unwritable e, state)
            | other => f.copy steps (other.flatten :: pieces) state descriptor

end Filter

/-- Passes the lines of all files through. -/
def filterFiles {σ : Type} (s : Start) (names : List Bytes) (state : σ) (f : Filter σ) :
    Script Nat :=
  forEach s id id names state fun state _ descriptor =>
    f.copy Script.endless [] state descriptor

/-! ## Showing all characters -/

/-- What is shown of a text besides the text. -/
structure Display where
  numbersLines : Bool
  numbersFullLines : Bool
  marksEnds : Bool
  marksTabs : Bool
  marksControls : Bool
  joinsBlankLines : Bool

/-- Where a text is at: the number of the next line, whether that begins here, and whether the line
    before it was blank. -/
structure Place where
  number : Nat
  isStart : Bool
  isAfterBlank : Bool

/-- A character that can be seen: control characters stand after a caret, octets from 128 on after
    two more. -/
def visible (c : Char) : Bytes :=
  let low (n : Nat) : Bytes :=
    if n < 32 then ['^', Char.ofNat (n + 64)] else if n = 127 then ['^', '?'] else [Char.ofNat n]
  if c.toNat < 128 then low c.toNat else 'M' :: '-' :: low (c.toNat - 128)

/-- A character as it is shown. -/
def Display.char (d : Display) (c : Char) : Bytes :=
  let isShown := if c = '\t' then d.marksTabs else d.marksControls
  if isShown then visible c else [c]

/-- What is shown in front of a line. -/
def Display.start (d : Display) (place : Place) (isBlank : Bool) : Bytes :=
  let number := Bytes.ofNat place.number
  if place.isStart && (d.numbersLines || (!isBlank && d.numbersFullLines)) then
    List.replicate (6 - number.length) ' ' ++ number ++ ['\t']
  else []

/-- What is shown for a character, and where the text is at after it. -/
def Display.step (d : Display) (place : Place) (c : Char) : Bytes × Place :=
  let isBlank := place.isStart && c == '\n'
  if isBlank && place.isAfterBlank && d.joinsBlankLines then ([], place)
  else
    let start := d.start place isBlank
    let number := if start.isEmpty then place.number else place.number + 1
    if c = '\n' then
      (start ++ if d.marksEnds then ['$', '\n'] else ['\n'], ⟨number, true, isBlank⟩)
    else (start ++ d.char c, ⟨number, false, false⟩)

def Display.show (d : Display) (place : Place) (b : Bytes) : Bytes × Place :=
  let (shown, place) := b.foldl (fun ((shown : List Bytes), place) c =>
    let (text, place) := d.step place c
    (text :: shown, place)) ([], place)
  (shown.reverse.flatten, place)

/-- Shows all that comes. -/
def Display.copy (d : Display) (steps : Nat) (place : Place) (descriptor : Nat) :
    Script (Ending × Place) :=
  match steps with
  | 0 => return (.finished, place)
  | steps + 1 => do
      match ← Script.ask (.read descriptor Script.chunkSize) with
      | .ok [] => return (.finished, place)
      | .error e => return (.unreadable e, place)
      | .ok octets =>
          let (shown, place) := d.show place (Bytes.ofOctets octets)
          match ← Script.writeAll Script.stdout shown with
          | .ok () => d.copy steps place descriptor
          | .error e => return (.unwritable e, place)

def catGrammar : Grammar where
  flags := "AbeEnstTuv"
  names := [("show-all", 'A'), ("number-nonblank", 'b'), ("show-ends", 'E'), ("number", 'n'),
    ("squeeze-blank", 's'), ("show-tabs", 'T'), ("show-nonprinting", 'v')]

/-- Writes files one after another. -/
def cat : Program := fun s => withOptions s catGrammar 1 fun options names => do
  let hasOne (letters : String) : Bool := letters.toList.any options.has
  let display : Display :=
    { numbersLines := options.has 'n' && !options.has 'b', numbersFullLines := options.has 'b',
      marksEnds := hasOne "AeE", marksTabs := hasOne "AtT", marksControls := hasOne "Aetv",
      joinsBlankLines := options.has 's' }
  forEach s id id names (⟨1, true, false⟩ : Place) fun place _ descriptor => do
    if hasOne "AbeEnstTv" then display.copy Script.endless place descriptor
    else return (← copy Script.endless descriptor [Script.stdout], place)

/-! ## Beginnings and copies -/

/-- The exponent that a letter after a number stands for. -/
def magnitude? (c : Char) : Option Nat :=
  match c with
  | 'k' => some 1
  | 'K' => some 1
  | 'M' => some 2
  | 'G' => some 3
  | 'T' => some 4
  | 'P' => some 5
  | 'E' => some 6
  | _ => none

/-- A number of octets, which may be given in greater units. -/
def size? (b : Bytes) : Option Nat :=
  let digits := b.takeWhile Char.isDigit
  let unit : Option Nat :=
    match b.drop digits.length with
    | [] => some 1
    | ['b'] => some 512
    | c :: rest =>
        match magnitude? c, rest with
        | some n, [] => some (Nat.pow 1024 n)
        | some n, ['i', 'B'] => some (Nat.pow 1024 n)
        | some n, ['B'] => some (Nat.pow 1000 n)
        | _, _ => none
  if digits.isEmpty then none else unit.map fun u => Bytes.digitsValue digits * u

/-- Options in which a dash is followed by a count become options of lines. -/
def withCounts (arguments : List Bytes) : List Bytes :=
  match arguments with
  | ('-' :: c :: cs) :: rest =>
      if c.isDigit then ['-', 'n'] :: (c :: cs) :: rest else arguments
  | arguments => arguments

def header (isFirst : Bool) (name : Bytes) : Bytes :=
  (if isFirst then [] else ['\n']) ++ "==> ".toList ++
    (if name = ['-'] then "standard input".toList else name) ++ " <==\n".toList

/-- Writes a header before each file if there are several, and tells that there has been one. -/
def withHeader (options : Options) (names : List Bytes) (isFirst : Bool) (name : Bytes)
    (body : Script Ending) : Script (Ending × Bool) := do
  if (1 < names.length && !options.has 'q') || options.has 'v' then
    Script.print (header isFirst name)
  else pure ()
  return (← body, false)

/-- How much of the beginning of a file is written. -/
inductive Extent where
  | lines (count : Nat)
  | octets (count : Nat)
  | allButLines (count : Nat)
  | allButOctets (count : Nat)

/-- The extent that options ask for, or what is wrong with them. -/
def extentOf (options : Options) : Except Bytes Extent :=
  let value (letter : Char) : Option Bytes := options.value? letter
  let wrong (unit : String) (b : Bytes) : Except Bytes Extent :=
    .error ("invalid number of ".toList ++ unit.toList ++ ": ".toList ++ Script.quoted b)
  match value 'c', value 'n' with
  | some ('-' :: digits), _ =>
      match size? digits with
      | some n => .ok (.allButOctets n)
      | none => wrong "bytes" ('-' :: digits)
  | some digits, _ =>
      match size? digits with
      | some n => .ok (.octets n)
      | none => wrong "bytes" digits
  | none, some ('-' :: digits) =>
      match size? digits with
      | some n => .ok (.allButLines n)
      | none => wrong "lines" ('-' :: digits)
  | none, some digits =>
      match size? digits with
      | some n => .ok (.lines n)
      | none => wrong "lines" digits
  | none, none => .ok (.lines 10)

/-- Writes what is left of a whole text. -/
def printPart (descriptor : Nat) (part : Bytes → Bytes) : Script Ending := do
  match ← Script.readAll descriptor with
  | .error e => return .unreadable e
  | .ok b =>
      match ← Script.writeAll Script.stdout (part b) with
      | .ok () => return .finished
      | .error e => return .unwritable e

def openFault (name : Bytes) : Bytes :=
  "cannot open ".toList ++ Script.quoted name ++ " for reading".toList

def readFault (name : Bytes) : Bytes := "error reading ".toList ++ Script.quoted name

def headGrammar : Grammar where
  flags := "qvz"
  valued := "cn"
  names := [("bytes", 'c'), ("lines", 'n'), ("quiet", 'q'), ("silent", 'q'), ("verbose", 'v'),
    ("zero-terminated", 'z')]

/-- The beginning of files. -/
def head : Program := fun s =>
  let s' := { s with arguments := withCounts s.arguments }
  withOptions s' headGrammar 1 fun options names => do
    match extentOf options with
    | .error e =>
        Script.complain s e
        return 1
    | .ok extent =>
        forEach s openFault readFault names true fun isFirst name descriptor => do
          withHeader options names isFirst name do
            match extent with
            | .lines n => copyLines Script.endless descriptor n
            | .octets n => copyCount Script.endless descriptor n
            | .allButLines n =>
                printPart descriptor fun b => (takeLines ((Bytes.lines b).length - n) b).1
            | .allButOctets n => printPart descriptor fun b => b.take (b.length - n)

def teeGrammar : Grammar where
  flags := "aip"
  names := [("append", 'a'), ("ignore-interrupts", 'i')]

/-- Passes the standard input on, and writes it to files as well. -/
def tee : Program := fun s => withOptions s teeGrammar 1 fun options names => do
  let access := if options.has 'a' then .append else .overwrite
  let mut code := 0
  let mut targets := [Script.stdout]
  for name in names do
    match ← Script.ask (.openAt (Bytes.toText name) access 0o666) with
    | .ok descriptor => targets := targets ++ [descriptor]
    | .error e =>
        Script.complainOf s "" name e
        code := 1
  match ← copy Script.endless Script.stdin targets with
  | .finished => return code
  | _ => return 1

def repeatLine (steps : Nat) (block : Bytes) : Script Nat :=
  match steps with
  | 0 => return 0
  | steps + 1 => do
      match ← Script.writeAll Script.stdout block with
      | .ok () => repeatLine steps block
      | .error _ => return 1

/-- Writes a line again and again. -/
def yes : Program := fun s => do
  let text := if s.arguments.isEmpty then ['y'] else Bytes.joinWith [' '] s.arguments
  let line := text ++ ['\n']
  repeatLine Script.endless (List.replicate (1 + 4096 / line.length) line).flatten

end Stream

end Playground.Tool
