set_option autoImplicit false

/-! # Writing TOML

A document of settings has a line for each of them: its key, an equals sign and its value.

A text stands between double quotes, with escapes where they are needed. If all that would need one
are quotes and backslashes, it stands as it is between single quotes instead. A text of several
lines stands between three quotes on each side, and begins on a line of its own. -/

namespace Playground.Toml

/-! ## Texts -/

/-- A control character other than a tab and a newline. -/
def isUnreadable (c : Char) : Bool :=
  (c.toNat < 0x20 && c != '\t' && c != '\n') || c.toNat == 0x7F

/-- Do three single quotes stand in a row somewhere? -/
def hasThreeQuotes : List Char → Bool
  | [] => false
  | c :: cs => ['\'', '\'', '\''].isPrefixOf (c :: cs) || hasThreeQuotes cs

/-- Is a text written as it is? It must be readable like that, and gain by it. -/
def isVerbatim (cs : List Char) : Bool :=
  cs.any (fun c => c == '"' || c == '\\') && !cs.any isUnreadable && !hasThreeQuotes cs &&
    cs.getLast? != some '\''

/-- The four hexadecimal digits of a character below `0x80`. -/
def codeOf (c : Char) : List Char :=
  let digits := (Nat.toDigits 16 c.toNat).map Char.toUpper
  List.replicate (4 - digits.length) '0' ++ digits

/-- A character between double quotes. In a text of several lines a newline stands for itself. -/
def writeChar (severalLines : Bool) (c : Char) : List Char :=
  match c with
  | '\x08' => ['\\', 'b']
  | '\t' => ['\\', 't']
  | '\n' => if severalLines then ['\n'] else ['\\', 'n']
  | '\x0c' => ['\\', 'f']
  | '\r' => ['\\', 'r']
  | '"' => ['\\', '"']
  | '\\' => ['\\', '\\']
  | c => if isUnreadable c then '\\' :: 'u' :: codeOf c else [c]

/-- A text as a value. -/
def writeText (s : String) : List Char :=
  let cs := s.toList
  let severalLines := cs.contains '\n'
  let opening := if severalLines then ['\n'] else []
  if isVerbatim cs then
    let quotes := List.replicate (if severalLines || cs.contains '\'' then 3 else 1) '\''
    quotes ++ opening ++ cs ++ quotes
  else
    let quotes := List.replicate (if severalLines then 3 else 1) '"'
    quotes ++ opening ++ cs.flatMap (writeChar severalLines) ++ quotes

/-! ## Lines -/

/-- A whole number as a value, if it has no more than 63 bits. -/
def writeNumber? (n : Nat) : Option (List Char) :=
  if n < 1 <<< 63 then some (Nat.toDigits 10 n) else none

/-- A key that needs no quotes, with a value. -/
def writeLine (key : String) (value : List Char) : List Char :=
  key.toList ++ " = ".toList ++ value ++ ['\n']

end Playground.Toml
