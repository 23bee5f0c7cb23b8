import Playground.Tool.Files
import Playground.Tool.Stream

set_option autoImplicit false

/-! # Splitting

A file is cut into pieces, each of which becomes a file. The names of the pieces are in order. -/

namespace Playground.Tool

open Machine (Bytes Options Program Script Start Grammar withOptions seeHelp)

namespace Split

/-! ## Names -/

/-- A number in a base, with so many digits. -/
def inBase (digits : List Char) (count n : Nat) : Bytes :=
  match count with
  | 0 => []
  | count + 1 =>
      inBase digits count (n / digits.length) ++ [digits.getD (n % digits.length) 'a']

/-- The ending of the name of a piece. Before the endings of one length run out, those of the next
    begin, all of which start with the last digit. -/
def growing (digits : List Char) (steps count n : Nat) : Bytes :=
  let base := digits.length
  let room := (base - 1) * Nat.pow base (count - 1)
  match steps with
  | 0 => inBase digits count n
  | steps + 1 =>
      if n < room then inBase digits count n
      else digits.getLastD 'z' :: growing digits steps (count + 1) (n - room)

/-- How pieces are named. -/
structure Naming where
  start : Bytes
  digits : List Char
  /-- How many digits an ending has, if that is fixed. -/
  count : Option Nat
  first : Nat
  after : Bytes

/-- The name of a piece, if there are names enough. -/
def Naming.name? (g : Naming) (n : Nat) : Option Bytes :=
  let n := g.first + n
  match g.count with
  | none => some (g.start ++ growing g.digits n 2 n ++ g.after)
  | some count =>
      if n < Nat.pow g.digits.length count then some (g.start ++ inBase g.digits count n ++ g.after)
      else none

/-! ## Pieces -/

/-- The pieces of so many lines each. -/
def byLines (count steps : Nat) (b : Bytes) : List Bytes :=
  match steps, b with
  | 0, _ => []
  | _, [] => []
  | steps + 1, b =>
      let piece := (Stream.takeLines count b).1
      piece :: byLines count steps (b.drop piece.length)

/-- So many pieces of about one length. -/
def byCount (count : Nat) (b : Bytes) : List Bytes :=
  let size := b.length / count
  let longer := b.length % count
  let start (i : Nat) : Nat := i * size + min i longer
  (List.range count).map fun (i : Nat) => (b.drop (start i)).take (start (i + 1) - start i)

/-- How a file is cut. -/
inductive Cut where
  | lines (count : Nat)
  | octets (count : Nat)
  | pieces (count : Nat)

def Cut.apply (c : Cut) (b : Bytes) : List Bytes :=
  match c with
  | .lines count => byLines count b.length b
  | .octets count => Bytes.chunks count b
  | .pieces count => byCount count b

/-! ## The program -/

def grammar : Grammar where
  flags := "dexu"
  valued := "ablnS"
  names := [("suffix-length", 'a'), ("additional-suffix", 'S'), ("bytes", 'b'),
    ("numeric-suffixes", 'd'), ("hex-suffixes", 'x'), ("elide-empty-files", 'e'), ("lines", 'l'),
    ("number", 'n'), ("unbuffered", 'u'), ("verbose", 'v')]
  relaxed := "dx"

/-- The cut that options ask for, or what is wrong with it. -/
def cutOf (s : Start) (options : Options) : Except Bytes Cut :=
  let read (what : String) (text : Bytes) (cut : Nat → Cut) : Except Bytes Cut :=
    match Stream.size? text with
    | some n =>
        if n = 0 then .error ("invalid number of ".toList ++ what.toList ++ ": ".toList ++
          Script.quoted text)
        else .ok (cut n)
    | none => .error ("invalid number of ".toList ++ what.toList ++ ": ".toList ++
        Script.quoted text)
  match options.value? 'l', options.value? 'b', options.value? 'n' with
  | none, none, none => .ok (.lines 1000)
  | some text, none, none => read "lines" text .lines
  | none, some text, none => read "bytes" text .octets
  | none, none, some text => read "chunks" text .pieces
  | _, _, _ => .error ("cannot split in more than one way".toList ++ seeHelp s)

/-- How options want pieces to be named. -/
def namingOf (options : Options) (start : Bytes) (pieces : Option Nat) :
    Except Bytes Naming := do
  let digits : List Char :=
    match (options.letters.filter fun c => c == 'd' || c == 'x').getLast? with
    | some 'd' => "0123456789".toList
    | some _ => "0123456789abcdef".toList
    | none => "abcdefghijklmnopqrstuvwxyz".toList
  let first : Nat := (((options.value? 'd').or (options.value? 'x')).bind Bytes.toNat?).getD 0
  let fixed : Option Nat ←
    match options.value? 'a' with
    | none =>
        pure (pieces.map fun n =>
          max 2 (Nat.toDigits digits.length (first + n - 1)).length)
    | some text =>
        match Bytes.toNat? text with
        | none => throw ("invalid suffix length: ".toList ++ Script.quoted text)
        | some 0 => pure none
        | some n => pure (some n)
  return ⟨start, digits, fixed, first, (options.value? 'S').getD []⟩

/-- Writes pieces from one number on. -/
def writeFrom (s : Start) (g : Naming) (isLoud : Bool) (n : Nat) : List Bytes → Script Nat
  | [] => return 0
  | piece :: rest => do
      match g.name? n with
      | none =>
          Script.complain s "output file suffixes exhausted".toList
          return 1
      | some name =>
          if isLoud then
            Script.printLine ("creating file ".toList ++ Script.quoted name)
          else pure ()
          match ← Script.ask (.openAt (Bytes.toText name) .overwrite 0o666) with
          | .error e =>
              Script.complainOf s "" name e
              return 1
          | .ok descriptor =>
              Script.put descriptor piece
              let _ ← Script.ask (.close descriptor)
              writeFrom s g isLoud (n + 1) rest

/-- Cuts a file into pieces. -/
def split : Program := fun s =>
  let arguments :=
    match Stream.withCounts s.arguments with
    | ['-', 'n'] :: count :: rest =>
        if Stream.withCounts s.arguments == s.arguments then s.arguments
        else ['-', 'l'] :: count :: rest
    | arguments => arguments
  withOptions { s with arguments := arguments } grammar 1 fun options names => do
    let refuse (text : Bytes) : Script Nat := do
      Script.complain s text
      return 1
    match cutOf s options, names with
    | .error e, _ => refuse e
    | _, _ :: _ :: extra :: _ => Files.extraOperand s extra
    | .ok cut, names =>
        let pieces : Option Nat :=
          match cut with
          | .pieces n => some n
          | _ => none
        match namingOf options ((names[1]?).getD ['x']) pieces with
        | .error e => refuse e
        | .ok g =>
            let name := names.headD ['-']
            match ← Stream.openOperand name with
            | .error e =>
                Script.complain s ("cannot open ".toList ++ Script.quoted name ++
                  " for reading: ".toList ++ Script.errorText e)
                return 1
            | .ok descriptor =>
                match ← Script.readAll descriptor with
                | .error e =>
                    Script.complainOf s "" name e
                    return 1
                | .ok b =>
                    let pieces := cut.apply b
                    let kept := if options.has 'e' then pieces.filter (· != []) else pieces
                    writeFrom s g (options.has 'v') 0 kept

end Split

end Playground.Tool
