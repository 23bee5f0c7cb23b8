import Playground.Number.Binary64

set_option autoImplicit false

/-! # Numerals of JSON

A number is read in two steps. Its spelling is taken apart first, which is all that is done to a
number nobody asked for. Its value is computed when it is wanted: a whole number of 64 bits if it
is one, else a double, and no value at all when that would be infinite.

The value of a long numeral is that of its first digits, as many as fit into 64 bits, scaled by the
number of places left out; the scaling is one multiplication or division of doubles (or several,
far out), so the last bit need not be that of the nearest double. -/

namespace Playground.Json

open Playground.Number

/-- The spelling of a number: its digits as numbers below ten. -/
structure Numeral where
  negative : Bool
  whole : List Nat
  fraction : List Nat
  /-- The sign of the exponent, `true` for minus, and its digits. -/
  exponent : Option (Bool × List Nat)
  deriving DecidableEq, Repr

/-- The value of a number. -/
inductive Number where
  | integer (value : Int)
  | real (negative : Bool) (magnitude : Binary64)
  deriving DecidableEq, Repr

namespace Numeral

def ofDigits (digits : List Nat) : Nat := digits.foldl (fun n d => n * 10 + d) 0

/-- Digits appended to a number as long as it stays below `2 ^ 64`, and the digits left over. -/
def extend : Nat → List Nat → Nat × List Nat
  | n, [] => (n, [])
  | n, d :: ds => if n * 10 + d < 1 <<< 64 then extend (n * 10 + d) ds else (n, d :: ds)

/-- A whole number below `2 ^ 64` scaled by a power of ten. The far exponents are taken in strides
    of 308, one per unit of the fuel. -/
def scale (fuel : Nat) (f : Binary64) (exponent : Int) : Option Binary64 :=
  if exponent.natAbs ≤ 308 then
    if 0 ≤ exponent then f.mul? (Binary64.powerOfTen exponent.natAbs)
    else f.div? (Binary64.powerOfTen exponent.natAbs)
  else if f.mantissa = 0 then some f
  else if 0 ≤ exponent then none
  else
    match fuel with
    | 0 => some Binary64.zero
    | fuel + 1 =>
        (f.div? (Binary64.powerOfTen 308)).bind fun g => scale fuel g (exponent + 308)

/-- The double that a significand and a power of ten stand for. A double that is not zero is above
    `10 ^ -324`, so three strides reach zero. -/
def assemble (significand : Nat) (exponent : Int) : Option Binary64 :=
  (Binary64.ofFraction? significand 1).bind fun f => scale 3 f exponent

/-- The double of a numeral with an exponent: exponents beyond 31 bits are not computed. -/
def withExponent (significand : Nat) (start : Int) (negative : Bool) (digits : List Nat) :
    Option Binary64 :=
  let e := ofDigits digits
  if 1 <<< 31 ≤ e then
    if significand ≠ 0 ∧ ¬negative then none else some Binary64.zero
  else
    let shifted := if negative then start - (e : Int) else start + (e : Int)
    assemble significand (max (-(1 <<< 31 : Nat)) (min ((1 <<< 31 : Nat) - 1) shifted))

/-- The value of a numeral. -/
def value? (n : Numeral) : Option Number :=
  let (significand, left) := extend 0 n.whole
  if left.isEmpty ∧ n.fraction.isEmpty ∧ n.exponent.isNone then
    if ¬n.negative then some (.integer significand)
    else if significand = 0 ∨ 1 <<< 63 < significand then
      (Binary64.ofFraction? significand 1).map (.real true)
    else some (.integer (-(significand : Int)))
  else
    let (significand', beyond) := extend significand n.fraction
    let places := (n.fraction.length - beyond.length : Nat)
    let exponent : Int := (left.length : Int) - (places : Int)
    let magnitude :=
      match n.exponent with
      | some (negative, digits) => withExponent significand' exponent negative digits
      | none => assemble significand' exponent
    magnitude.map (.real n.negative)

end Numeral

/-- How a number is named in a message. -/
def Number.describe : Number → String
  | .integer i => "integer `" ++ toString i ++ "`"
  | .real negative x => "floating point `" ++ x.text negative ++ "`"

end Playground.Json
