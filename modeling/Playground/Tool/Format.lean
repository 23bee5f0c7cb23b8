import Playground.Machine.Bytes

set_option autoImplicit false

/-! # Formats

A format is text with escapes, which stand for characters, and conversions, which take arguments.
It is gone through again as long as arguments are left, provided that it takes any. -/

namespace Playground.Tool

open Machine (Bytes)

namespace Format

/-- What has been written so far, last first, and what there was to complain about. -/
structure Output where
  text : Bytes
  complaints : List Bytes
  /-- The format itself is wrong. -/
  fault : Option Bytes
  /-- Nothing more is to be written. -/
  isStopped : Bool

def Output.add (o : Output) (b : Bytes) : Output := { o with text := b.reverse ++ o.text }

def Output.blame (o : Output) (complaint : Bytes) : Output :=
  { o with complaints := o.complaints ++ [complaint] }

/-! ## Escapes -/

/-- The characters with an escape of one letter. -/
def letters : List (Char × Nat) :=
  [('\\', 92), ('a', 7), ('b', 8), ('e', 27), ('f', 12), ('n', 10), ('r', 13), ('t', 9), ('v', 11)]

/-- What an escape stands for, and what follows it. The text begins after the backslash. There are
    a few more escapes if the format is an extended one. -/
def takeEscape (isExtended : Bool) (b : Bytes) : Bytes × Bytes :=
  match b with
  | [] => (['\\'], [])
  | c :: rest =>
      match letters.lookup c with
      | some n => ([Char.ofNat n], rest)
      | none =>
          if Bytes.isOctalDigit c then
            let digits := (b.take 3).takeWhile Bytes.isOctalDigit
            ([Char.ofNat (Bytes.octalValue digits % 256)], b.drop digits.length)
          else if isExtended ∧ c = '"' then (['"'], rest)
          else if isExtended ∧ c = 'x' then
            let digits := (rest.take 2).takeWhile fun d => (Bytes.hexValue? d).isSome
            if digits.isEmpty then (['\\', 'x'], rest)
            else ([Char.ofNat (Bytes.hexNumber digits)], rest.drop digits.length)
          else (['\\'], b)

/-- Text with its escapes replaced. Octal numbers may begin with a zero that does not count. -/
def unescape (isExtended : Bool) (steps : Nat) (o : Output) (b : Bytes) : Output :=
  match steps, b with
  | 0, _ => o
  | _, [] => o
  | steps + 1, '\\' :: rest =>
      match rest with
      | 'c' :: _ => { o with isStopped := true }
      | '0' :: d :: more =>
          if Bytes.isOctalDigit d then
            let (cs, rest) := takeEscape isExtended (d :: more)
            unescape isExtended steps (o.add cs) rest
          else unescape isExtended steps (o.add [Char.ofNat 0]) (d :: more)
      | rest =>
          let (cs, rest) := takeEscape isExtended rest
          unescape isExtended steps (o.add cs) rest
  | steps + 1, c :: rest => unescape isExtended steps (o.add [c]) rest

/-- Text with its escapes replaced, up to where it stops. -/
def unescaped (isExtended : Bool) (b : Bytes) : Bytes × Bool :=
  let o := unescape isExtended (b.length + 1) ⟨[], [], none, false⟩ b
  (o.text.reverse, o.isStopped)

/-! ## Conversions -/

structure Conversion where
  flags : List Char
  width : Nat
  precision : Option Nat
  letter : Char

def Conversion.has (c : Conversion) (flag : Char) : Bool := c.flags.contains flag

/-- Text in a field of its width. -/
def Conversion.pad (c : Conversion) (b : Bytes) : Bytes :=
  let fill := List.replicate (c.width - b.length) ' '
  if c.has '-' then b ++ fill else fill ++ b

/-- Digits with a sign or another beginning, in a field of the width. -/
def Conversion.padNumber (c : Conversion) (start digits : Bytes) : Bytes :=
  let digits :=
    match c.precision with
    | some p => List.replicate (p - digits.length) '0' ++ digits
    | none =>
        if c.has '0' && !c.has '-' then
          List.replicate (c.width - start.length - digits.length) '0' ++ digits
        else digits
  c.pad (start ++ digits)

/-- The number that an argument stands for, and what is left of it. -/
def readNumber (b : Bytes) : Int × Bytes :=
  match b with
  | '\'' :: c :: _ => (c.toNat, [])
  | '"' :: c :: _ => (c.toNat, [])
  | b =>
      let b := b.dropWhile Bytes.isSpace
      let (isNegative, b) :=
        match b with
        | '-' :: rest => (true, rest)
        | '+' :: rest => (false, rest)
        | rest => (false, rest)
      let sign (n : Nat) : Int := if isNegative then -(n : Int) else n
      match b with
      | '0' :: x :: d :: rest =>
          if (x = 'x' ∨ x = 'X') ∧ (Bytes.hexValue? d).isSome then
            let digits := (d :: rest).takeWhile fun e => (Bytes.hexValue? e).isSome
            (sign (Bytes.hexNumber digits), (d :: rest).drop digits.length)
          else
            let digits := b.takeWhile Bytes.isOctalDigit
            (sign (Bytes.octalValue digits), b.drop digits.length)
      | '0' :: _ =>
          let digits := b.takeWhile Bytes.isOctalDigit
          (sign (Bytes.octalValue digits), b.drop digits.length)
      | b =>
          let digits := b.takeWhile Char.isDigit
          (sign (Bytes.digitsValue digits), b.drop digits.length)

/-- A number with so many digits after the point, as its unscaled value. -/
def readFraction (places : Nat) (b : Bytes) : Int × Bytes :=
  let (isNegative, b) :=
    match b with
    | '-' :: rest => (true, rest)
    | '+' :: rest => (false, rest)
    | rest => (false, rest)
  let whole := b.takeWhile Char.isDigit
  let (fraction, rest) :=
    match b.drop whole.length with
    | '.' :: rest => (rest.takeWhile Char.isDigit, rest.dropWhile Char.isDigit)
    | rest => ([], rest)
  let value := Bytes.digitsValue (whole ++ fraction) * Nat.pow 10 places
  let unit := Nat.pow 10 fraction.length
  let (q, r) := (value / unit, value % unit)
  let rounded := if unit < 2 * r ∨ (2 * r = unit ∧ q % 2 = 1) then q + 1 else q
  (if isNegative then -(rounded : Int) else rounded, rest)

/-- What there is to say of a numeric argument of which something is left. -/
def complaintOf (isExtended : Bool) (argument rest : Bytes) : List Bytes :=
  if rest.isEmpty then []
  else
    let name := if isExtended then '\'' :: argument ++ ['\''] else argument
    let isNothing := rest.length == argument.length
    let what :=
      if isNothing then
        if isExtended then "expected a numeric value" else "expected numeric value"
      else if isExtended then "value not completely converted" else "not completely converted"
    [name ++ ": ".toList ++ what.toList]

def signOf (c : Conversion) (isNegative : Bool) : Bytes :=
  if isNegative then ['-'] else if c.has '+' then ['+'] else if c.has ' ' then [' '] else []

def upper (b : Bytes) : Bytes := b.map Char.toUpper

def convertNumber (isExtended : Bool) (c : Conversion) (argument : Bytes) (o : Output) : Output :=
  let (n, rest) := readNumber argument
  let o := (complaintOf isExtended argument rest).foldl Output.blame o
  let word := (n % (1 <<< 64 : Nat)).toNat
  let text :=
    match c.letter with
    | 'o' => c.padNumber (if c.has '#' then ['0'] else []) (Nat.toDigits 8 word)
    | 'x' => c.padNumber (if c.has '#' && word != 0 then ['0', 'x'] else []) (Nat.toDigits 16 word)
    | 'X' =>
        let mark := if c.has '#' && word != 0 then ['0', 'X'] else []
        c.padNumber mark (upper (Nat.toDigits 16 word))
    | 'u' => c.padNumber [] (Bytes.ofNat word)
    | _ =>
        let n := min (max n (-(1 <<< 63 : Nat))) ((1 <<< 63 : Nat) - 1)
        c.padNumber (signOf c (decide (n < 0))) (Bytes.ofNat n.natAbs)
  o.add text

/-- A number as digits and the power of ten that they are multiplied by. -/
structure Decimal where
  isNegative : Bool
  digits : Nat
  exponent : Int

/-- The number at the beginning of a text, and what follows it. -/
def readDecimal (b : Bytes) : Decimal × Bytes :=
  let (isNegative, b) :=
    match b with
    | '-' :: rest => (true, rest)
    | '+' :: rest => (false, rest)
    | rest => (false, rest)
  let whole := b.takeWhile Char.isDigit
  let (fraction, rest) :=
    match b.drop whole.length with
    | '.' :: rest => (rest.takeWhile Char.isDigit, rest.dropWhile Char.isDigit)
    | rest => ([], rest)
  let (exponent, rest) : Int × Bytes :=
    match rest with
    | e :: more =>
        let sign := more.takeWhile fun c => c == '-' || c == '+'
        let digits := (more.drop sign.length).takeWhile Char.isDigit
        if (e = 'e' ∨ e = 'E') ∧ sign.length ≤ 1 ∧ digits ≠ [] then
          let n : Int := Bytes.digitsValue digits
          (if sign = ['-'] then -n else n, more.drop (sign.length + digits.length))
        else (0, rest)
    | [] => (0, [])
  (⟨isNegative, Bytes.digitsValue (whole ++ fraction), exponent - fraction.length⟩, rest)

/-- The number in units of a power of ten, rounded to the nearest, a tie to the even one. -/
def Decimal.inUnits (d : Decimal) (power : Int) : Nat :=
  if power ≤ d.exponent then d.digits * Nat.pow 10 (d.exponent - power).toNat
  else
    let unit := Nat.pow 10 (power - d.exponent).toNat
    let (q, r) := (d.digits / unit, d.digits % unit)
    if unit < 2 * r ∨ (2 * r = unit ∧ q % 2 = 1) then q + 1 else q

/-- Digits with a point before the last ones. -/
def pointed (places : Nat) (n : Nat) : Bytes :=
  let digits := Bytes.ofNat n
  let digits := List.replicate (places + 1 - digits.length) '0' ++ digits
  let whole := digits.take (digits.length - places)
  if places = 0 then whole else whole ++ '.' :: digits.drop (digits.length - places)

/-- The digits of a number with so many places, and the power of ten of the first of them. -/
def Decimal.scientific (d : Decimal) (places : Nat) : Nat × Int :=
  if d.digits = 0 then (0, 0)
  else
    let power := (Bytes.ofNat d.digits).length - 1 + d.exponent
    let n := d.inUnits (power - places)
    if n = Nat.pow 10 (places + 1) then (n / 10, power + 1) else (n, power)

def exponentText (power : Int) : Bytes :=
  let digits := Bytes.ofNat power.natAbs
  ['e', if power < 0 then '-' else '+'] ++ List.replicate (2 - digits.length) '0' ++ digits

/-- A number without the zeros at the end of its fraction. -/
def withoutZeros (b : Bytes) : Bytes :=
  if b.contains '.' then
    let short := (b.reverse.dropWhile (· == '0'))
    (if short.head? == some '.' then short.drop 1 else short).reverse
  else b

/-- The text of a number: with so many places, with a power of ten, or the shorter of the two with
    so many digits. -/
def Decimal.text (d : Decimal) (c : Conversion) : Bytes :=
  let precision := c.precision.getD 6
  let strip (b : Bytes) : Bytes := if c.has '#' then b else withoutZeros b
  match c.letter.toLower with
  | 'e' =>
      let (n, power) := d.scientific precision
      pointed precision n ++ exponentText power
  | 'g' =>
      let digits := max precision 1
      let (n, power) := d.scientific (digits - 1)
      if -4 ≤ power ∧ power < digits then
        let places := (digits - 1 - power).toNat
        strip (pointed places (d.inUnits (-places)))
      else strip (pointed (digits - 1) n) ++ exponentText power
  | _ => pointed precision (d.inUnits (-precision))

def convertFraction (isExtended : Bool) (c : Conversion) (argument : Bytes) (o : Output) : Output :=
  let (d, rest) := readDecimal argument
  let o := (complaintOf isExtended argument rest).foldl Output.blame o
  let body := d.text c
  let body := if c.letter.isUpper then upper body else body
  o.add (({ c with precision := none } : Conversion).padNumber (signOf c d.isNegative) body)

/-- Writes one argument. -/
def convert (isExtended : Bool) (c : Conversion) (argument : Bytes) (o : Output) : Output :=
  let cut (b : Bytes) : Bytes :=
    match c.precision with
    | some p => b.take p
    | none => b
  match c.letter with
  | 's' => o.add (c.pad (cut argument))
  | 'b' =>
      let (text, isStopped) := unescaped isExtended argument
      { o.add (c.pad (cut text)) with isStopped := isStopped }
  | 'c' => o.add (c.pad [argument.headD (Char.ofNat 0)])
  | letter =>
      if "diouxX".toList.contains letter then convertNumber isExtended c argument o
      else convertFraction isExtended c argument o

/-- A number in a format, or the next argument. -/
def takeCount (b : Bytes) (arguments : List Bytes) : Option Int × Bytes × List Bytes :=
  match b with
  | '*' :: rest => (some (readNumber (arguments.headD [])).1, rest, arguments.drop 1)
  | b =>
      let digits := b.takeWhile Char.isDigit
      (if digits.isEmpty then none else some (Bytes.digitsValue digits), b.drop digits.length,
        arguments)

/-- The conversion after a percent sign, what follows it, and the arguments that are left. -/
def takeConversion (b : Bytes) (arguments : List Bytes) :
    Option (Conversion × Bytes × List Bytes) :=
  let flags := b.takeWhile fun c => "#0-+ ".toList.contains c
  let (width, b, arguments) := takeCount (b.drop flags.length) arguments
  let (precision, b, arguments) :=
    match b with
    | '.' :: rest =>
        let (precision, rest, arguments) := takeCount rest arguments
        (some ((precision.getD 0).toNat), rest, arguments)
    | b => (none, b, arguments)
  let width := width.getD 0
  let flags := if width < 0 then '-' :: flags else flags
  match b.dropWhile fun c => "hlLqjzt".toList.contains c with
  | letter :: rest =>
      if "diouxXsbcfFeEgG".toList.contains letter then
        some (⟨flags, width.natAbs, precision, letter⟩, rest, arguments)
      else none
  | [] => none

/-- What is wrong with a conversion that nobody knows. -/
def directiveFault (b : Bytes) : Bytes :=
  let start := b.takeWhile fun c => c.isDigit || "#0-+ .*hlLqjzt".toList.contains c
  match b.drop start.length with
  | [] =>
      if start.any Char.isAlpha then '%' :: start ++ ": invalid directive".toList
      else "missing format character".toList
  | c :: _ => '%' :: start ++ c :: ": invalid directive".toList

/-- Goes through a format once. Returns the arguments that are left. -/
def pass (isExtended : Bool) (steps : Nat) (b : Bytes) (arguments : List Bytes) (o : Output) :
    Output × List Bytes :=
  match steps, b with
  | 0, _ => (o, arguments)
  | _, [] => (o, arguments)
  | _ + 1, '\\' :: 'c' :: _ => ({ o with isStopped := true }, arguments)
  | steps + 1, '\\' :: rest =>
      let (cs, rest) := takeEscape isExtended rest
      pass isExtended steps rest arguments (o.add cs)
  | steps + 1, '%' :: '%' :: rest => pass isExtended steps rest arguments (o.add ['%'])
  | steps + 1, '%' :: rest =>
      match takeConversion rest arguments with
      | some (c, rest, arguments) =>
          let o := convert isExtended c (arguments.headD []) o
          if o.isStopped then (o, []) else pass isExtended steps rest (arguments.drop 1) o
      | none =>
          ({ o with fault := some (directiveFault rest), isStopped := true }, [])
  | steps + 1, c :: rest => pass isExtended steps rest arguments (o.add [c])

/-- Goes through a format until no arguments are left. -/
def passes (isExtended : Bool) (steps : Nat) (b : Bytes) (arguments : List Bytes) (o : Output) :
    Output :=
  match steps with
  | 0 => o
  | steps + 1 =>
      let (o, rest) := pass isExtended (b.length + 1) b arguments o
      if o.isStopped || rest.isEmpty || rest.length == arguments.length then o
      else passes isExtended steps b rest o

/-- What a format writes with these arguments, and what there is to complain about. -/
def write (isExtended : Bool) (format : Bytes) (arguments : List Bytes) : Output :=
  let o := passes isExtended (arguments.length + 1) format arguments ⟨[], [], none, false⟩
  { o with text := o.text.reverse }

end Format

end Playground.Tool
