import Playground.Tool.Stream

set_option autoImplicit false

/-! # Prime factors -/

namespace Playground.Tool

open Machine (Bytes Program Script Start withOptions)

namespace Factor

/-- The prime factors of a number that has none below a candidate, each step either taking one away
    or passing to the next candidate. -/
def factorsFrom (steps candidate n : Nat) : List Nat :=
  match steps with
  | 0 => [n]
  | steps + 1 =>
      if n ≤ 1 then []
      else if n < candidate * candidate then [n]
      else if n % candidate = 0 then candidate :: factorsFrom steps candidate (n / candidate)
      else factorsFrom steps (if candidate = 2 then 3 else candidate + 2) n

/-- The prime factors of a number, in order. Candidates beyond the bound are not tried. -/
def factors (n : Nat) : List Nat := factorsFrom 20000000 2 n

/-- Tells the factors of one number, or complains. -/
def tell (s : Start) (word : Bytes) : Script Bool := do
  let digits :=
    match word.dropWhile Bytes.isSpace with
    | '+' :: digits => digits
    | digits => digits
  match Bytes.toNat? digits with
  | some n =>
      Script.printLine (Bytes.ofNat n ++ ':' ::
        (factors n).flatMap fun p => ' ' :: Bytes.ofNat p)
      return true
  | none =>
      Script.complain s (Script.quoted word ++ " is not a valid positive integer".toList)
      return false

/-- Tells the factors of all these numbers. -/
def tellAll (s : Start) : List Bytes → Script Nat
  | [] => return 0
  | word :: rest => do
      let isNumber ← tell s word
      let code ← tellAll s rest
      return if isNumber then code else 1

def factor : Program := fun s => withOptions s { flags := "" } 1 fun _ words => do
  match words with
  | [] =>
      match ← Script.readAll Script.stdin with
      | .error e =>
          Script.complain s ("error reading input: ".toList ++ Script.errorText e)
          return 1
      | .ok b =>
          let spaced := b.map fun c => if Bytes.isSpace c then ' ' else c
          tellAll s ((Bytes.splitOn ' ' spaced).filter fun word => !word.isEmpty)
  | words => tellAll s words

end Factor

end Playground.Tool
