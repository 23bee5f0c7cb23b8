import Playground.Text.Utf8

set_option autoImplicit false

/-! # Bytes

Programs on the machine work on octets, most of which are ASCII. They keep an octet as the character
of the same number, so that it can be compared with a character and written as one. Names of files
are text, and are turned into it where a call needs it. -/

namespace Playground.Machine

/-- Octets, each as the character of its number. -/
abbrev Bytes := List Char

namespace Bytes

def ofOctets (octets : List UInt8) : Bytes := octets.map fun o => Char.ofNat o.toNat

def toOctets (b : Bytes) : List UInt8 := b.map fun c => UInt8.ofNat c.toNat

def ofString (s : String) : Bytes := ofOctets (Text.Utf8.encode s.toList)

/-- The text that bytes stand for, as a name of a file. -/
def toText (b : Bytes) : String := String.ofList (Text.Utf8.decodeLossy (toOctets b))

/-! ## Numbers -/

def isDigits (b : Bytes) : Bool := !b.isEmpty && b.all Char.isDigit

/-- The number that digits stand for. -/
def digitsValue (b : Bytes) : Nat := b.foldl (fun n c => n * 10 + (c.toNat - '0'.toNat)) 0

/-- A number without a sign. -/
def toNat? (b : Bytes) : Option Nat := if isDigits b then some (digitsValue b) else none

/-- A number with or without a sign. -/
def toInt? (b : Bytes) : Option Int :=
  match b with
  | '-' :: ds => (toNat? ds).map fun n => -(Int.ofNat n)
  | '+' :: ds => (toNat? ds).map Int.ofNat
  | ds => (toNat? ds).map Int.ofNat

def ofNat (n : Nat) : Bytes := Nat.toDigits 10 n

def ofInt (i : Int) : Bytes := if i < 0 then '-' :: ofNat i.natAbs else ofNat i.natAbs

/-- Digits in a base below eight or equal to it. -/
def octalValue (b : Bytes) : Nat := b.foldl (fun n c => n * 8 + (c.toNat - '0'.toNat)) 0

def isOctalDigit (c : Char) : Bool := '0' ≤ c && c ≤ '7'

def hexValue? (c : Char) : Option Nat :=
  if c.isDigit then some (c.toNat - '0'.toNat)
  else if 'a' ≤ c ∧ c ≤ 'f' then some (c.toNat - 'a'.toNat + 10)
  else if 'A' ≤ c ∧ c ≤ 'F' then some (c.toNat - 'A'.toNat + 10)
  else none

/-- Digits with zeros before them. -/
def paddedDigits (base width n : Nat) : Bytes :=
  let short := Nat.toDigits base n
  List.replicate (width - short.length) '0' ++ short

def hexNumber (b : Bytes) : Nat := b.foldl (fun n c => n * 16 + (hexValue? c).getD 0) 0

/-- The number that octets stand for, the first of them having the most weight. -/
def bigEndian (b : Bytes) : Nat := b.foldl (fun n c => n * 256 + c.toNat) 0

/-- The number that octets stand for, the last of them having the most weight. -/
def littleEndian (b : Bytes) : Nat := b.foldr (fun c n => n * 256 + c.toNat) 0

/-- A number as so many octets, the last of them having the most weight. -/
def toLittleEndian (count n : Nat) : Bytes :=
  match count with
  | 0 => []
  | count + 1 => Char.ofNat (n % 256) :: toLittleEndian count (n / 256)

/-- A number as so many octets, the first of them having the most weight. -/
def toBigEndian (count n : Nat) : Bytes := (toLittleEndian count n).reverse

/-! ## Classes -/

def isBlank (c : Char) : Bool := c == ' ' || c == '\t'

def isSpace (c : Char) : Bool := isBlank c || (10 ≤ c.toNat && c.toNat ≤ 13)

def isNameStart (c : Char) : Bool := c.isAlpha || c == '_'

def isNameChar (c : Char) : Bool := c.isAlphanum || c == '_'

def isName (b : Bytes) : Bool :=
  match b with
  | [] => false
  | c :: cs => isNameStart c && cs.all isNameChar

/-! ## Pieces -/

/-- One more character in front of pieces. -/
def addToPieces (separator c : Char) : List Bytes → List Bytes
  | [] => [[c]]
  | piece :: pieces => if c == separator then [] :: piece :: pieces else (c :: piece) :: pieces

/-- The pieces between occurrences of a character. -/
def splitOn (separator : Char) (b : Bytes) : List Bytes :=
  b.foldr (addToPieces separator) [[]]

/-- The lines of a text, and whether the last one was ended. -/
def lines (b : Bytes) : List Bytes :=
  let pieces := splitOn '\n' b
  if pieces.getLast? == some [] then pieces.dropLast else pieces

/-- A text in pieces of one length, the last of which may be shorter. -/
def chunks (size : Nat) (b : Bytes) : List Bytes := go b.length b
where
  go : Nat → Bytes → List Bytes
    | 0, _ => []
    | _, [] => []
    | steps + 1, b => b.take size :: go steps (b.drop size)

def joinWith (separator : Bytes) (pieces : List Bytes) : Bytes := List.intercalate separator pieces

/-- Is one sequence of bytes before another? -/
def before (a b : Bytes) : Bool :=
  match a, b with
  | [], _ => true
  | _ :: _, [] => false
  | x :: xs, y :: ys => if x == y then before xs ys else x < y

def endsWith (b tail : Bytes) : Bool := tail.reverse.isPrefixOf b.reverse

/-- A text at the end of a column that is so wide. -/
def padLeft (width : Nat) (b : Bytes) : Bytes := List.replicate (width - b.length) ' ' ++ b

end Bytes

end Playground.Machine
