import Playground.Tool.Files
import Playground.Tool.Stream

set_option autoImplicit false

/-! # Codings of octets as letters

A coding takes the bits of octets in groups of five or six and writes each group as a letter. As
many letters as fill whole octets belong together, and signs fill up the last of them. -/

namespace Playground.Tool

open Machine (Bytes Options Program Script Start Grammar withOptions seeHelp)

namespace Coding

/-- How octets become letters. -/
structure Alphabet where
  letters : List Char
  /-- How many bits a letter stands for. -/
  bits : Nat
  /-- How many letters belong together, and how many octets they stand for. -/
  groupLetters : Nat
  groupOctets : Nat
  /-- Do the letters of a group count that ends too early? -/
  keepsShort : Bool

def base64 : Alphabet :=
  ⟨"ABCDEFGHIJKLMNOPQRSTUVWXYZabcdefghijklmnopqrstuvwxyz0123456789+/".toList, 6, 4, 3, true⟩

def base32 : Alphabet := ⟨"ABCDEFGHIJKLMNOPQRSTUVWXYZ234567".toList, 5, 8, 5, false⟩

/-- The sign that fills up a group. -/
def filler : Char := '='

/-! ## Writing -/

/-- The letters of a group, which may be short. -/
def Alphabet.encodeGroup (a : Alphabet) (octets : Bytes) : Bytes :=
  let value := Bytes.bigEndian octets * Nat.pow 256 (a.groupOctets - octets.length)
  let used := (8 * octets.length + a.bits - 1) / a.bits
  let letters := (List.range used).map fun (i : Nat) =>
    a.letters.getD (value / (1 <<< (a.bits * (a.groupLetters - 1 - i))) % (1 <<< a.bits)) filler
  letters ++ List.replicate (a.groupLetters - used) filler

def Alphabet.encode (a : Alphabet) (octets : Bytes) : Bytes :=
  (Bytes.chunks a.groupOctets octets).flatMap a.encodeGroup

/-- A text broken into lines that are so wide, the first of which has begun before, and where the
    last one stands then. A width of zero breaks no lines. -/
def wrapped (width column : Nat) (b : Bytes) : Bytes × Nat :=
  if width = 0 then (b, 0)
  else
    let (reversed, column) := b.foldl (fun ((reversed : Bytes), column) c =>
      if column = width then (c :: '\n' :: reversed, 1) else (c :: reversed, column + 1))
      ([], column)
    (reversed.reverse, column)

/-- Writes what comes as letters. Octets that make no whole group yet wait for more. -/
def Alphabet.encodeAll (a : Alphabet) (width steps : Nat) (pending : Bytes) (column : Nat)
    (descriptor : Nat) : Script Stream.Ending :=
  match steps with
  | 0 => return .finished
  | steps + 1 => do
      match ← Script.ask (.read descriptor Script.chunkSize) with
      | .error e => return .unreadable e
      | .ok [] =>
          let (text, column) := wrapped width column (a.encode pending)
          match ← Script.writeAll Script.stdout (if 0 < column then text ++ ['\n'] else text) with
          | .ok () => return .finished
          | .error e => return .unwritable e
      | .ok octets =>
          let b := pending ++ Bytes.ofOctets octets
          let whole := b.length / a.groupOctets * a.groupOctets
          let (text, column) := wrapped width column (a.encode (b.take whole))
          match ← Script.writeAll Script.stdout text with
          | .ok () => a.encodeAll width steps (b.drop whole) column descriptor
          | .error e => return .unwritable e

/-! ## Reading -/

/-- What a group of letters stands for up to a fault, and whether it has none. -/
def Alphabet.decodeGroup (a : Alphabet) (group : Bytes) : Bytes × Bool :=
  let letters := group.takeWhile fun c => a.letters.contains c
  let rest := group.drop letters.length
  let value := letters.foldl (fun n c => n * (1 <<< a.bits) + a.letters.idxOf c) 0
  let count := letters.length * a.bits / 8
  let spare := letters.length * a.bits % 8
  let octets := (List.range count).map fun (i : Nat) =>
    Char.ofNat (value / (1 <<< (spare + 8 * (count - 1 - i))) % 256)
  let isWhole := group.length == a.groupLetters
  let isProper := rest.all (· == filler) && 0 < count && spare < a.bits
  (if isWhole || a.keepsShort then octets else [], isWhole && isProper)

/-- What groups of letters stand for, up to the first that is bad, and whether none is. -/
def Alphabet.decodeGroups (a : Alphabet) : List Bytes → Bytes × Bool
  | [] => ([], true)
  | group :: rest =>
      match a.decodeGroup group with
      | (octets, false) => (octets, false)
      | (octets, true) =>
          let (more, isProper) := a.decodeGroups rest
          (octets ++ more, isProper)

def Alphabet.decode (a : Alphabet) (b : Bytes) : Bytes × Bool :=
  a.decodeGroups (Bytes.chunks a.groupLetters b)

/-! ## Programs -/

def grammar : Grammar where
  flags := "di"
  valued := "w"
  names := [("decode", 'd'), ("ignore-garbage", 'i'), ("wrap", 'w')]

/-- Lines that would be wider are not broken. -/
def greatestWidth : Nat := (1 <<< 63) - 1

/-- Writes what letters stand for, and complains if they are not what they should be. -/
def Alphabet.decodeAll (a : Alphabet) (s : Start) (skipsOthers : Bool) (name : Bytes) :
    Script Nat := do
  match ← Stream.openOperand name with
  | .error e =>
      Script.complainOf s "" name e
      return 1
  | .ok descriptor =>
      match ← Script.readAll descriptor with
      | .error e =>
          Script.complain s ("read error: ".toList ++ Script.errorText e)
          return 1
      | .ok b =>
          let isUseful (c : Char) : Bool := a.letters.contains c || c == filler
          let (octets, isProper) :=
            a.decode (b.filter fun c => if skipsOthers then isUseful c else c != '\n')
          Script.print octets
          if isProper then return 0
          else
            Script.complain s "invalid input".toList
            return 1

/-- Writes octets as letters, or letters as octets. -/
def recode (a : Alphabet) : Program := fun s => withOptions s grammar 1 fun options names => do
  match (options.value? 'w').map Bytes.toNat?, names with
  | some none, _ =>
      Script.complain s
        ("invalid wrap size: ".toList ++ Script.quoted ((options.value? 'w').getD []))
      return 1
  | _, _ :: extra :: _ => Files.extraOperand s extra
  | width, names =>
      let name := names.headD ['-']
      if options.has 'd' then a.decodeAll s (options.has 'i') name
      else
        let width := (width.bind id).getD 76
        let width := if greatestWidth < width then 0 else width
        let readFault (_ : Bytes) : Bytes := "read error".toList
        Stream.forEach s id readFault [name] () fun _ _ descriptor => do
          return (← a.encodeAll width Script.endless [] 0 descriptor, ())

end Coding

end Playground.Tool
