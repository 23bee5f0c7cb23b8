import Playground.Machine.Bytes
import Playground.Machine.Call

set_option autoImplicit false

/-! # Writing programs

What nearly every program on the machine does: writing all of a text, reading all of an input,
complaining about what it cannot open. Loops that a program leaves by itself are bounded by a number
of rounds that no run reaches. -/

namespace Playground.Machine

/-- What a program is started with: its name, its arguments and its environment. -/
structure Start where
  name : Bytes
  arguments : List Bytes
  environment : List (Bytes × Bytes)

/-- A program, which ends with an exit code. -/
abbrev Program := Start → Script Nat

namespace Script

/-- More rounds than any run has. -/
def endless : Nat := 1 <<< 60

def stdin : Nat := 0
def stdout : Nat := 1
def stderr : Nat := 2

/-! ## Output -/

def writeRounds : Nat → Nat → List UInt8 → Script (Except HostError Unit)
  | 0, _, _ => pure (.ok ())
  | rounds + 1, descriptor, octets =>
      match octets with
      | [] => pure (.ok ())
      | octets => do
          match ← ask (.write descriptor octets) with
          | .ok n => writeRounds rounds descriptor (octets.drop n)
          | .error e => return .error e

/-- Writes all octets, however long that takes. -/
def writeAll (descriptor : Nat) (b : Bytes) : Script (Except HostError Unit) :=
  writeRounds endless descriptor b.toOctets

/-- Writes, and does not look at what comes of it. -/
def put (descriptor : Nat) (b : Bytes) : Script Unit := do
  let _ ← writeAll descriptor b

def print (b : Bytes) : Script Unit := put stdout b

def printLine (b : Bytes) : Script Unit := print (b ++ ['\n'])

/-- A complaint of a program. -/
def complain (s : Start) (message : Bytes) : Script Unit :=
  put stderr (s.name ++ ": ".toList ++ message ++ ['\n'])

def errorText (e : HostError) : Bytes := e.description.toList

/-- A complaint about something that has a name. -/
def complainOf (s : Start) (what : String) (name : Bytes) (e : HostError) : Script Unit :=
  complain s (what.toList ++ name ++ ": ".toList ++ errorText e)

/-- A name between quotes. -/
def quoted (name : Bytes) : Bytes := '\'' :: name ++ ['\'']

/-! ## Input -/

/-- How much is read at a time. -/
def chunkSize : Nat := 65536

def readRounds : Nat → Nat → List (List UInt8) → Script (Except HostError (List (List UInt8)))
  | 0, _, chunks => pure (.ok chunks)
  | rounds + 1, descriptor, chunks => do
      match ← ask (.read descriptor chunkSize) with
      | .ok [] => return .ok chunks
      | .ok chunk => readRounds rounds descriptor (chunk :: chunks)
      | .error e => return .error e

/-- Reads to the end. -/
def readAll (descriptor : Nat) : Script (Except HostError Bytes) := do
  match ← readRounds endless descriptor [] with
  | .ok chunks => return .ok (Bytes.ofOctets chunks.reverse.flatten)
  | .error e => return .error e

/-- Reads a whole file; a dash stands for the standard input. -/
def readFile (name : Bytes) : Script (Except HostError Bytes) := do
  if name = ['-'] then readAll stdin
  else
    match ← ask (.openAt name.toText .read 0) with
    | .error e => return .error e
    | .ok descriptor =>
        let contents ← readAll descriptor
        let _ ← ask (.close descriptor)
        return contents

/-- Reads files one after another, complains about those that cannot be read, and tells whether all
    could. Without names the standard input is read. -/
def readFiles (s : Start) (complaint : String) (names : List Bytes) :
    Script (List (Bytes × Bytes) × Bool) :=
  go (if names.isEmpty then [['-']] else names)
where
  go : List Bytes → Script (List (Bytes × Bytes) × Bool)
    | [] => pure ([], true)
    | name :: names => do
        match ← readFile name with
        | .ok contents =>
            let (files, isWhole) ← go names
            return ((name, contents) :: files, isWhole)
        | .error e =>
            complainOf s complaint name e
            let (files, _) ← go names
            return (files, false)

end Script

end Playground.Machine
