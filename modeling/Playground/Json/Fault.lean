import Playground.Json.Lexeme
import Playground.Text.Quoted

set_option autoImplicit false

/-! # Why a document is refused

A document is refused either because it is no JSON where it was read, or because it is not what the
reader wants. The second kind of fault has a message; the first needs none. -/

namespace Playground.Json

open Playground.Text.Utf8 (Symbol)

/-- What a document holds where something else was wanted. -/
inductive Found where
  | null
  | bool (value : Bool)
  | number (value : Number)
  | text (value : String)
  | sequence
  | map
  deriving DecidableEq, Repr

def Found.describe : Found → String
  | .null => "null"
  | .bool b => "boolean `" ++ toString b ++ "`"
  | .number n => n.describe
  | .text s => "string " ++ Text.quoted s
  | .sequence => "sequence"
  | .map => "map"

/-- A document that is JSON as far as it was read, and not what was wanted. -/
inductive Mismatch where
  | invalidType (found : Found) (wanted : String)
  | invalidLength (length : Nat) (wanted : String)
  | missingField (name : String)
  | duplicateField (name : String)
  | unknownVariant (name : String) (known : List String)
  | noVariant (type : String)
  | refused (reason : String)
  deriving DecidableEq, Repr

namespace Mismatch

def inBackticks (s : String) : String := "`" ++ s ++ "`"

/-- The text before a number at the end of a text and before the words that announce it. Both texts
    are given backwards. Numbers have no more than 64 bits. -/
def beforeNumber? (announcement text : List Char) : Option (List Char) :=
  let digits := text.takeWhile Char.isDigit
  let rest := text.dropWhile Char.isDigit
  let n := Numeral.ofDigits (digits.reverse.map fun c => c.toNat - '0'.toNat)
  if digits.isEmpty ∨ 1 <<< 64 ≤ n then none
  else if announcement.isPrefixOf rest then some (rest.drop announcement.length)
  else none

/-- A reason without the place in the document that it may end with, such as
    ` at line 3 column 5`: messages do not tell the place. -/
def withoutPlace (reason : String) : String :=
  let backwards (s : String) : List Char := s.toList.reverse
  match (beforeNumber? (backwards " column ") (backwards reason)).bind
      (beforeNumber? (backwards " at line ")) with
  | some text => String.ofList text.reverse
  | none => reason

def message : Mismatch → String
  | .invalidType found wanted => "invalid type: " ++ found.describe ++ ", expected " ++ wanted
  | .invalidLength length wanted => "invalid length " ++ toString length ++ ", expected " ++ wanted
  | .missingField name => "missing field " ++ inBackticks name
  | .duplicateField name => "duplicate field " ++ inBackticks name
  | .unknownVariant name known =>
      "unknown variant " ++ inBackticks name ++ ", expected one of " ++
        ", ".intercalate (known.map inBackticks)
  | .noVariant type => "data did not match any variant of untagged enum " ++ type
  | .refused reason => withoutPlace reason

end Mismatch

inductive Fault where
  | syntaxError
  | mismatch (m : Mismatch)
  deriving DecidableEq, Repr

/-- A reader returns what it has read and the lexemes after it. -/
abbrev Reading (α : Type) := Except Fault (α × List Lexeme)

/-- The characters of a string, all of which are wanted. -/
def textOf (symbols : List Symbol) : Except Fault String :=
  match symbols.mapM id with
  | some cs => .ok (String.ofList cs)
  | none => .error .syntaxError

/-- What the value that opens with this lexeme is. Lexemes that open none are faults. -/
def Lexeme.found (l : Lexeme) : Except Fault Found :=
  match l with
  | .null => .ok .null
  | .bool b => .ok (.bool b)
  | .number n =>
      match n.value? with
      | some v => .ok (.number v)
      | none => .error .syntaxError
  | .text t => (textOf t).map .text
  | .openArray => .ok .sequence
  | .openObject => .ok .map
  | _ => .error .syntaxError

/-- A fault for the value that opens with this lexeme, where another one was wanted. -/
def Lexeme.mismatch (l : Lexeme) (wanted : String) : Fault :=
  match l.found with
  | .ok found => .mismatch (.invalidType found wanted)
  | .error fault => fault

end Playground.Json
