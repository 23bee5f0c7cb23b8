set_option autoImplicit false

/-! # Double precision numbers

A number of JSON that is no 64-bit integer is held as a double: a whole mantissa below `2 ^ 53`
times a power of two. Here a double is exactly that pair, so that rounding and printing are
arithmetic on whole numbers. Rounding is to the nearest double, a tie going to the even mantissa;
what is printed is the shortest decimal that rounds back. -/

namespace Playground.Number

/-- The magnitude `mantissa * 2 ^ exponent` of a finite double. -/
structure Binary64 where
  mantissa : Nat
  exponent : Int
  deriving DecidableEq, Repr

namespace Binary64

def zero : Binary64 := ⟨0, -1074⟩

/-- A power of two as a fraction. -/
def powerOfTwo (e : Int) : Nat × Nat := (1 <<< e.toNat, 1 <<< (-e).toNat)

/-- The whole number nearest to a fraction, an even one on a tie. -/
def roundHalfEven (num den : Nat) : Nat :=
  let whole := num / den
  let twiceRest := 2 * (num % den)
  if twiceRest < den then whole
  else if den < twiceRest then whole + 1
  else whole + whole % 2

/-- The exponent at which the mantissa of `num / den` has 53 bits, or the least one there is. -/
def exponentFor (num den : Nat) : Int :=
  let guess : Int := (num.log2 : Int) - (den.log2 : Int) - 52
  let (up, down) := powerOfTwo guess
  let exact := if num * down / (den * up) < 1 <<< 52 then guess - 1 else guess
  max exact (-1074)

/-- The double nearest to a fraction; nothing if that is beyond the largest one. -/
def ofFraction? (num den : Nat) : Option Binary64 :=
  if num = 0 then some zero
  else
    let e := exponentFor num den
    let (up, down) := powerOfTwo e
    let m := roundHalfEven (num * down) (den * up)
    let rounded : Binary64 := if m = 1 <<< 53 then ⟨1 <<< 52, e + 1⟩ else ⟨m, e⟩
    if 971 < rounded.exponent then none else some rounded

/-- The value as a fraction. -/
def fraction (x : Binary64) : Nat × Nat :=
  let (up, down) := powerOfTwo x.exponent
  (x.mantissa * up, down)

def mul? (x y : Binary64) : Option Binary64 :=
  ofFraction? (x.fraction.1 * y.fraction.1) (x.fraction.2 * y.fraction.2)

/-- The quotient by a number other than zero. -/
def div? (x y : Binary64) : Option Binary64 :=
  ofFraction? (x.fraction.1 * y.fraction.2) (x.fraction.2 * y.fraction.1)

/-- The double nearest to a power of ten up to `10 ^ 308`. -/
def powerOfTen (k : Nat) : Binary64 := (ofFraction? (Nat.pow 10 k) 1).getD zero

/-! ## Decimal digits -/

/-- A decimal `digits * 10 ^ exponent`. -/
structure Decimal where
  digits : Nat
  exponent : Int
  deriving DecidableEq, Repr

/-- The bounds between which all numbers round to this double, as numerators over a common
    denominator, with the value in the middle. -/
def bounds (x : Binary64) : Nat × Nat × Nat × Nat :=
  let (up, down) := powerOfTwo (x.exponent - 2)
  let below := if x.mantissa = 1 <<< 52 ∧ -1074 < x.exponent then 1 else 2
  ((4 * x.mantissa - below) * up, 4 * x.mantissa * up, (4 * x.mantissa + 2) * up, down)

/-- The number of decimal places before the point of a fraction that is not zero, less one; below
    one it is negative. -/
def magnitude (num den : Nat) : Int :=
  let digits (n : Nat) : Int := ((Nat.toDigits 10 n).length : Int)
  if den ≤ num then digits (num / den) - 1
  else
    let guess := digits num - digits den
    if num * Nat.pow 10 (-guess).toNat < den then guess - 1 else guess

/-- The decimal on the grid `10 ^ exponent` that rounds to the double and is nearest to it, if the
    grid has one. -/
def onGrid? (x : Binary64) (exponent : Int) : Option Decimal :=
  let (low, value, high, den) := x.bounds
  let (up, down) : Nat × Nat := (Nat.pow 10 exponent.toNat, Nat.pow 10 (-exponent).toNat)
  let isEven := x.mantissa % 2 = 0
  let rounds (d : Nat) : Bool :=
    let scaled := d * up * den
    if isEven then low * down ≤ scaled && scaled ≤ high * down
    else low * down < scaled && scaled < high * down
  let floor := value * down / (den * up)
  let nearest := roundHalfEven (value * down) (den * up)
  let other := if nearest = floor then floor + 1 else floor
  if rounds nearest then some ⟨nearest, exponent⟩
  else if rounds other then some ⟨other, exponent⟩
  else none

/-- The shortest decimal that rounds to the double: of all those with the fewest digits, the
    nearest. Seventeen digits always suffice. -/
def shortest (x : Binary64) : Decimal :=
  let (_, value, _, den) := x.bounds
  let top := magnitude value den
  let grids := (List.range 17).map fun (n : Nat) => top - (n : Int)
  (grids.findSome? x.onGrid?).getD ⟨0, 0⟩

/-- A decimal without zeros at its end. -/
def Decimal.trimmed (d : Decimal) : Decimal :=
  let rec go : Nat → Nat → Int → Decimal
    | 0, digits, e => ⟨digits, e⟩
    | fuel + 1, digits, e =>
        if digits % 10 = 0 ∧ digits ≠ 0 then go fuel (digits / 10) (e + 1) else ⟨digits, e⟩
  go 17 d.digits d.exponent

/-! ## Text -/

/-- How the digits of a double are set out: positional between two powers of ten, else with an
    exponent that has a sign. -/
structure Layout where
  least : Int
  greatest : Int
  deriving DecidableEq, Repr

/-- The layout of numbers in messages. -/
def Layout.message : Layout := ⟨-5, 15⟩

def Layout.render (layout : Layout) (d : Decimal) : String :=
  let digits := Nat.toDigits 10 d.digits
  let top : Int := (digits.length : Int) - 1 + d.exponent
  if top < layout.least ∨ layout.greatest < top then
    let tail := digits.drop 1
    let point := if tail.isEmpty then [] else ['.']
    let sign := if top < 0 then "e-" else "e+"
    String.ofList (digits.take 1 ++ point ++ tail) ++ sign ++ Nat.repr top.natAbs
  else if top < 0 then
    String.ofList (['0', '.'] ++ List.replicate ((-top).toNat - 1) '0' ++ digits)
  else
    let places := top.toNat + 1
    let whole := digits.take places ++ List.replicate (places - digits.length) '0'
    let rest := digits.drop places
    String.ofList (whole ++ '.' :: (if rest.isEmpty then ['0'] else rest))

/-- The text of a double in messages. -/
def text (negative : Bool) (x : Binary64) : String :=
  let magnitude :=
    if x.mantissa = 0 then "0.0" else Layout.message.render x.shortest.trimmed
  if negative then "-" ++ magnitude else magnitude

end Binary64

end Playground.Number
