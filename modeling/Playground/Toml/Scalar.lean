import Playground.Number.Binary64
import Playground.Toml.Node

set_option autoImplicit false

/-! # Strings, numbers and dates of TOML

Each reader takes the text at its place and returns what it read with the text after it, or nothing
if the text is wrong there. -/

namespace Playground.Toml

/-! ## Characters -/

def isSpace (c : Char) : Bool := c == ' ' || c == '\t'

/-- A character that may stand in a comment or a string as it is: all but controls, of which a tab
    is none. -/
def isPlain (c : Char) : Bool := c == '\t' || (0x20 ≤ c.toNat && c.toNat != 0x7F)

/-- A character of a key that needs no quotes. -/
def isBareKey (c : Char) : Bool := c.isAlphanum || c == '_' || c == '-'

def digitValue (c : Char) : Nat :=
  if c.isDigit then c.toNat - '0'.toNat
  else if 'a' ≤ c then c.toNat - 'a'.toNat + 10
  else c.toNat - 'A'.toNat + 10

def isHexDigit (c : Char) : Bool :=
  c.isDigit || ('a' ≤ c && c ≤ 'f') || ('A' ≤ c && c ≤ 'F')

/-- The text after a newline: a line feed, which a carriage return may precede. -/
def afterNewline? : List Char → Option (List Char)
  | '\n' :: rest => some rest
  | '\r' :: '\n' :: rest => some rest
  | _ => none

theorem afterNewline?_length {cs rest : List Char} (h : afterNewline? cs = some rest) :
    rest.length < cs.length := by
  unfold afterNewline? at h
  split at h
  · cases h
    exact Nat.lt_succ_self _
  · cases h
    exact Nat.lt_succ_of_lt (Nat.lt_succ_self _)
  · cases h

/-- The text after these very characters. -/
def after? (word : String) (cs : List Char) : Option (List Char) :=
  if word.toList.isPrefixOf cs then some (cs.drop word.length) else none

/-! ## Strings -/

/-- The character that a backslash and this letter stand for. -/
def escapeLetter? : Char → Option Char
  | 'b' => some '\x08'
  | 't' => some '\t'
  | 'n' => some '\n'
  | 'f' => some '\x0c'
  | 'r' => some '\r'
  | '"' => some '"'
  | '\\' => some '\\'
  | _ => none

/-- A character given by so many hexadecimal digits. -/
def takeCodePoint (digits : Nat) (cs : List Char) : Option (Char × List Char) :=
  let ds := cs.take digits
  if ds.length = digits ∧ ds.all isHexDigit then
    let n := ds.foldl (fun n d => n * 16 + digitValue d) 0
    if n.isValidChar then some (Char.ofNat n, cs.drop digits) else none
  else none

/-- The character of an escape whose backslash has been read. -/
def takeEscape : List Char → Option (Char × List Char)
  | 'u' :: rest => takeCodePoint 4 rest
  | 'U' :: rest => takeCodePoint 8 rest
  | c :: rest => (escapeLetter? c).map fun d => (d, rest)
  | [] => none

theorem takeCodePoint_length {digits : Nat} {cs rest : List Char} {c : Char}
    (h : takeCodePoint digits cs = some (c, rest)) : rest.length ≤ cs.length := by
  unfold takeCodePoint at h
  grind [List.length_drop]

theorem takeEscape_length {cs rest : List Char} {c : Char}
    (h : takeEscape cs = some (c, rest)) : rest.length < cs.length := by
  unfold takeEscape at h
  split at h
  · exact Nat.lt_succ_of_le (takeCodePoint_length h)
  · exact Nat.lt_succ_of_le (takeCodePoint_length h)
  · obtain ⟨d, -, h⟩ := Option.map_eq_some_iff.1 h
    obtain ⟨-, rfl⟩ := Prod.mk.inj h
    exact Nat.lt_succ_self _
  · simp at h

/-- The text after an escaped line end: a backslash, spaces and tabs, and a newline, with all blanks
    and newlines that follow. -/
def afterLineEnding? (cs : List Char) : Option (List Char) :=
  (afterNewline? (cs.dropWhile isSpace)).bind skip
where
  skip (cs : List Char) : Option (List Char) :=
    match _h : afterNewline? (cs.dropWhile isSpace) with
    | some rest => skip rest
    | none =>
        let rest := cs.dropWhile isSpace
        if rest.head? = some '\r' then none else some rest
  termination_by cs.length
  decreasing_by
    exact Nat.lt_of_lt_of_le (afterNewline?_length ‹_›) (List.dropWhile_sublist _).length_le

theorem afterLineEnding?.skip_length {cs rest : List Char} (h : skip cs = some rest) :
    rest.length ≤ cs.length := by
  have hle (l : List Char) : (l.dropWhile isSpace).length ≤ l.length :=
    (List.dropWhile_sublist _).length_le
  fun_induction skip cs with
  | case1 cs after heq ih =>
      have h₁ := ih h
      have h₂ := afterNewline?_length heq
      have h₃ := hle cs
      omega
  | case2 => simp at h
  | case3 cs _ after _ =>
      obtain rfl := Option.some.inj h
      exact hle cs

theorem afterLineEnding?_length {cs rest : List Char} (h : afterLineEnding? cs = some rest) :
    rest.length < cs.length := by
  obtain ⟨after, hafter, h⟩ := Option.bind_eq_some_iff.1 h
  have h₁ := afterNewline?_length hafter
  have h₂ := afterLineEnding?.skip_length h
  have h₃ := (List.dropWhile_sublist (l := cs) isSpace).length_le
  omega

/-- A string between double quotes, after the opening one. -/
def takeBasic (acc : List Char) (cs : List Char) : Option (String × List Char) :=
  match cs with
  | [] => none
  | '"' :: rest => some (String.ofList acc.reverse, rest)
  | '\\' :: rest =>
      match _h : takeEscape rest with
      | some (c, rest) => takeBasic (c :: acc) rest
      | none => none
  | c :: rest => if isPlain c then takeBasic (c :: acc) rest else none
termination_by cs.length
decreasing_by
  · exact Nat.lt_succ_of_lt (takeEscape_length ‹_›)
  · exact Nat.lt_succ_self _

/-- A string between single quotes, after the opening one. -/
def takeLiteral (cs : List Char) : Option (String × List Char) :=
  let body := cs.takeWhile (· != '\'')
  if body.all isPlain then
    match cs.drop body.length with
    | '\'' :: rest => some (String.ofList body, rest)
    | _ => none
  else none

/-- The quotes at a place in a string that three of them end: how many are content, if the end is
    here. Up to two may stand right before the end. -/
def closing? (quote : Char) (cs : List Char) : Option (Nat × List Char) :=
  let n := (cs.takeWhile (· == quote)).length
  if n < 3 then none
  else
    let content := min (n - 3) 2
    some (content, cs.drop (content + 3))

/-- A string between three double quotes, after the opening ones. -/
def takeLongBasic (acc : List Char) (cs : List Char) : Option (String × List Char) :=
  match closing? '"' cs with
  | some (n, rest) => some (String.ofList (acc.reverse ++ List.replicate n '"'), rest)
  | none =>
      match cs with
      | [] => none
      | '\r' :: '\n' :: rest => takeLongBasic ('\n' :: acc) rest
      | '\\' :: rest =>
          match _h₁ : afterLineEnding? rest with
          | some rest => takeLongBasic acc rest
          | none =>
              match _h₂ : takeEscape rest with
              | some (c, rest) => takeLongBasic (c :: acc) rest
              | none => none
      | c :: rest => if isPlain c || c == '\n' then takeLongBasic (c :: acc) rest else none
termination_by cs.length
decreasing_by
  · exact Nat.lt_succ_of_lt (Nat.lt_succ_self _)
  · exact Nat.lt_succ_of_lt (afterLineEnding?_length ‹_›)
  · exact Nat.lt_succ_of_lt (takeEscape_length ‹_›)
  · exact Nat.lt_succ_self _

/-- A string between three single quotes, after the opening ones. -/
def takeLongLiteral (acc : List Char) (cs : List Char) : Option (String × List Char) :=
  match closing? '\'' cs with
  | some (n, rest) => some (String.ofList (acc.reverse ++ List.replicate n '\''), rest)
  | none =>
      match cs with
      | [] => none
      | '\r' :: '\n' :: rest => takeLongLiteral ('\n' :: acc) rest
      | c :: rest => if isPlain c || c == '\n' then takeLongLiteral (c :: acc) rest else none

/-- Without the newline that may follow the opening quotes. -/
def skipFirstNewline (cs : List Char) : List Char := (afterNewline? cs).getD cs

/-- A string on one line, as keys may be. -/
def takeShortString : List Char → Option (String × List Char)
  | '"' :: rest => takeBasic [] rest
  | '\'' :: rest => takeLiteral rest
  | _ => none

/-- A string of any form. -/
def takeString (cs : List Char) : Option (String × List Char) :=
  match after? "\"\"\"" cs, after? "'''" cs with
  | some rest, _ => takeLongBasic [] (skipFirstNewline rest)
  | none, some rest => takeLongLiteral [] (skipFirstNewline rest)
  | none, none => takeShortString cs

/-! ## Numbers -/

/-- Digits with single underscores between them, at least one. -/
def takeDigits (isDigit : Char → Bool) (cs : List Char) : Option (List Char × List Char) :=
  let run := cs.takeWhile fun c => isDigit c || c == '_'
  let isSpelled := run.head?.any isDigit && run.getLast?.any isDigit &&
    (run.zip (run.drop 1)).all fun p => !(p.1 == '_' && p.2 == '_')
  if isSpelled then some (run.filter (· != '_'), cs.drop run.length) else none

def ofDigits (radix : Nat) (ds : List Char) : Nat :=
  ds.foldl (fun n d => n * radix + digitValue d) 0

/-- A sign, `true` for minus, and the text after it; no sign is a plus. -/
def takeSign : List Char → Bool × List Char
  | '-' :: rest => (true, rest)
  | '+' :: rest => (false, rest)
  | cs => (false, cs)

/-- A whole number in decimal without leading zeros: its sign and digits. -/
def takeWhole (cs : List Char) : Option ((Bool × List Char) × List Char) :=
  let (negative, rest) := takeSign cs
  match rest with
  | '0' :: rest => some ((negative, ['0']), rest)
  | rest => (takeDigits Char.isDigit rest).map fun (ds, rest) => ((negative, ds), rest)

/-- A number of 64 bits with a sign. -/
def inRange (i : Int) : Bool := -(1 <<< 63 : Nat) ≤ i && i < (1 <<< 63 : Nat)

def takeRadix (radix : Nat) (isDigit : Char → Bool) (cs : List Char) : Option (Node × List Char) :=
  (takeDigits isDigit cs).bind fun (ds, rest) =>
    let n : Int := ofDigits radix ds
    if inRange n then some (.integer n, rest) else none

def takeInteger (cs : List Char) : Option (Node × List Char) :=
  match after? "0x" cs, after? "0o" cs, after? "0b" cs with
  | some rest, _, _ => takeRadix 16 isHexDigit rest
  | _, some rest, _ => takeRadix 8 (fun c => '0' ≤ c && c ≤ '7') rest
  | _, _, some rest => takeRadix 2 (fun c => c == '0' || c == '1') rest
  | none, none, none =>
      (takeWhole cs).bind fun ((negative, ds), rest) =>
        let n : Int := ofDigits 10 ds
        let i := if negative then -n else n
        if inRange i then some (.integer i, rest) else none

/-- The exponent of a float, if there is one: its sign and digits. -/
def takeExponent : List Char → Option (Option (Bool × List Char) × List Char)
  | 'e' :: rest => digits rest
  | 'E' :: rest => digits rest
  | cs => some (none, cs)
where
  digits (cs : List Char) : Option (Option (Bool × List Char) × List Char) :=
    let (negative, rest) := takeSign cs
    (takeDigits Char.isDigit rest).map fun (ds, rest) => (some (negative, ds), rest)

/-- Is a decimal too large for a double? Exponents of four digits and more are not computed. -/
def overflows (digits : List Char) (places : Nat) (exponent : Option (Bool × List Char)) : Bool :=
  let significand := ofDigits 10 digits
  let (negative, e) : Bool × Nat :=
    match exponent with
    | some (negative, ds) => (negative, ofDigits 10 ds)
    | none => (false, 0)
  if significand = 0 ∨ negative then false
  else if 1000 + places < e then true
  else (Number.Binary64.ofFraction? (significand * Nat.pow 10 e) (Nat.pow 10 places)).isNone

/-- A float with a point or an exponent. One that is too large is refused, unless it is negative. -/
def takeDecimal (cs : List Char) : Option (Node × List Char) :=
  (takeWhole cs).bind fun ((negative, whole), rest) =>
    let finish (fraction : List Char) (e : Option (Bool × List Char)) (rest : List Char) :
        Option (Node × List Char) :=
      if !negative && overflows (whole ++ fraction) fraction.length e then none
      else some (.float, rest)
    match rest with
    | '.' :: rest =>
        (takeDigits Char.isDigit rest).bind fun (fraction, rest) =>
          (takeExponent rest).bind fun (e, rest) => finish fraction e rest
    | rest =>
        match takeExponent rest with
        | some (some e, rest) => finish [] (some e) rest
        | _ => none

/-- An infinity or no number. -/
def takeSpecial (cs : List Char) : Option (Node × List Char) :=
  let rest := (takeSign cs).2
  ((after? "inf" rest).or (after? "nan" rest)).map fun rest => (.float, rest)

def takeFloat (cs : List Char) : Option (Node × List Char) := (takeDecimal cs).or (takeSpecial cs)

/-! ## Dates and times -/

/-- A number of exactly so many digits within bounds. -/
def takeFixed (digits low high : Nat) (cs : List Char) : Option (Nat × List Char) :=
  let ds := cs.take digits
  if ds.length = digits ∧ ds.all Char.isDigit then
    let n := ofDigits 10 ds
    if low ≤ n ∧ n ≤ high then some (n, cs.drop digits) else none
  else none

def isLeapYear (year : Nat) : Bool :=
  (year % 4 == 0 && year % 100 != 0) || year % 400 == 0

def daysIn (year month : Nat) : Nat :=
  if month = 2 then (if isLeapYear year then 29 else 28)
  else if month = 4 ∨ month = 6 ∨ month = 9 ∨ month = 11 then 30
  else 31

def takeDate (cs : List Char) : Option (Unit × List Char) := do
  let (year, rest) ← takeFixed 4 0 9999 cs
  let rest ← after? "-" rest
  let (month, rest) ← takeFixed 2 1 12 rest
  let rest ← after? "-" rest
  let (_, rest) ← takeFixed 2 1 (daysIn year month) rest
  return ((), rest)

/-- A time of day; the last second of a minute may be a leap second. -/
def takeTime (cs : List Char) : Option (Unit × List Char) := do
  let (_, rest) ← takeFixed 2 0 23 cs
  let rest ← after? ":" rest
  let (_, rest) ← takeFixed 2 0 59 rest
  let rest ← after? ":" rest
  let (_, rest) ← takeFixed 2 0 60 rest
  match rest with
  | '.' :: more =>
      let fraction := more.takeWhile Char.isDigit
      if fraction.isEmpty then return ((), rest) else return ((), more.drop fraction.length)
  | rest => return ((), rest)

def takeOffset (cs : List Char) : Option (Unit × List Char) :=
  match cs with
  | 'Z' :: rest => some ((), rest)
  | 'z' :: rest => some ((), rest)
  | c :: rest =>
      if c = '+' ∨ c = '-' then do
        let (_, rest) ← takeFixed 2 0 23 rest
        let rest ← after? ":" rest
        let (_, rest) ← takeFixed 2 0 59 rest
        return ((), rest)
      else none
  | [] => none

/-- A date, a time of day, or both with or without an offset. -/
def takeDatetime (cs : List Char) : Option (Node × List Char) :=
  match takeDate cs with
  | some (_, rest) =>
      let separated := rest.head?.any fun c => c == 'T' || c == 't' || c == ' '
      match if separated then takeTime (rest.drop 1) else none with
      | some (_, rest) =>
          match takeOffset rest with
          | some (_, rest) => some (.datetime, rest)
          | none => some (.datetime, rest)
      | none => some (.datetime, rest)
  | none => (takeTime cs).map fun (_, rest) => (.datetime, rest)

/-- A value that is no array and no inline table. -/
def takeScalar (cs : List Char) : Option (Node × List Char) :=
  match cs with
  | [] => none
  | c :: _ =>
      if c = '"' ∨ c = '\'' then (takeString cs).map fun (s, rest) => (.text s, rest)
      else if c = 't' then (after? "true" cs).map fun rest => (.bool true, rest)
      else if c = 'f' then (after? "false" cs).map fun rest => (.bool false, rest)
      else (takeDatetime cs).or ((takeFloat cs).or (takeInteger cs))

end Playground.Toml
