import Playground.Tool.Files
import Playground.Tool.Format
import Playground.Tool.Stream

set_option autoImplicit false

/-! # Merging

Two sequences of lines that are both in order can be compared by looking at the first line of each:
the one that comes before the other is in no other place of the other sequence. -/

namespace Playground.Tool

open Machine (Bytes Options Program Script Start Grammar withOptions seeHelp)

namespace Merge

/-- Which of two sequences a line is in. -/
inductive Side where
  | first
  | second
  | both
  deriving DecidableEq

/-- The lines of two sequences, each with where it is. -/
def merged (steps : Nat) (a b : List Bytes) : List (Side × Bytes) :=
  match steps, a, b with
  | 0, _, _ => []
  | _, [], b => b.map fun line => (.second, line)
  | _, a, [] => a.map fun line => (.first, line)
  | steps + 1, x :: xs, y :: ys =>
      if x = y then (.both, y) :: merged steps xs ys
      else if Bytes.before x y then (.first, x) :: merged steps xs (y :: ys)
      else (.second, y) :: merged steps (x :: xs) ys

/-- Are lines in order? -/
def isSorted (lines : List Bytes) : Bool :=
  (lines.zip (lines.drop 1)).all fun (a, b) => Bytes.before a b

def grammar : Grammar where
  flags := "123z"
  valued := "d"
  names := [("check-order", 'c'), ("nocheck-order", 'n'), ("output-delimiter", 'd'),
    ("total", 't'), ("zero-terminated", 'z')]

/-- How lines are shown. -/
structure Columns where
  shows : Side → Bool
  delimiter : Bytes

/-- A line in the column of its side. -/
def Columns.line (c : Columns) (side : Side) (line : Bytes) : Bytes :=
  let before : List Side :=
    match side with
    | .first => []
    | .second => [.first]
    | .both => [.first, .second]
  if c.shows side then (before.filter c.shows).flatMap (fun _ => c.delimiter) ++ line ++ ['\n']
  else []

/-- Complains about the sequences that are not in order, and tells whether any is not. -/
def complainOfOrder (s : Start) (a b : List Bytes) : Script Bool := do
  let complain (number : String) : Script Unit :=
    Script.complain s ("file ".toList ++ number.toList ++ " is not in sorted order".toList)
  if isSorted a then pure () else complain "1"
  if isSorted b then pure () else complain "2"
  if isSorted a && isSorted b then return false
  else
    Script.complain s "input is not in sorted order".toList
    return true

/-- Compares two files with lines in order. -/
def comm : Program := fun s => withOptions s grammar 1 fun options names => do
  match names with
  | [] => Files.missingOperand s
  | [name] => Files.missingOperandAfter s name
  | _ :: _ :: extra :: _ => Files.extraOperand s extra
  | [first, second] =>
      match ← Script.readFile first with
      | .error e =>
          Script.complainOf s "" first e
          return 1
      | .ok a =>
          match ← Script.readFile second with
          | .error e =>
              Script.complainOf s "" second e
              return 1
          | .ok b =>
              let (a, b) := (Bytes.lines a, Bytes.lines b)
              let lines := merged (a.length + b.length) a b
              let shows (side : Side) : Bool :=
                match side with
                | .first => !options.has '1'
                | .second => !options.has '2'
                | .both => !options.has '3'
              let columns : Columns := ⟨shows, (options.value? 'd').getD ['\t']⟩
              Script.print (lines.flatMap fun (side, line) => columns.line side line)
              if options.has 't' then
                let count (side : Side) : Bytes :=
                  Bytes.ofNat (lines.countP fun entry => entry.1 == side)
                Script.printLine (Bytes.joinWith columns.delimiter
                  [count .first, count .second, count .both, "total".toList])
              else pure ()
              let checks := options.has 'c' ||
                (!options.has 'n' && lines.any fun entry => entry.1 != .both)
              if checks then return if ← complainOfOrder s a b then 1 else 0
              else return 0

end Merge

end Playground.Tool
