import Playground.Text.Class

set_option autoImplicit false

/-! # Media types

What a body is said to be: a type, a subtype and parameters. A subtype may end in a suffix that
names the syntax of the format, and it is the syntax that matters here: `application/json` and
`application/problem+json` are both JSON. Parameters are read only to see that they are well
formed. -/

namespace Playground.Http

open Text

/-! ## Characters -/

/-- A character of a name. -/
def isToken (c : Char) : Bool :=
  c.isAlphanum || "!#$%&'*+-.^_|~".toList.contains c || c.toNat == 0x60

/-- A character that may stand in a header. -/
def isPrintable (c : Char) : Bool := (32 ≤ c.toNat && c.toNat < 127) || c == '\t'

/-- A character that may stand between quotes. -/
def isQuotable (c : Char) : Bool := 32 ≤ c.toNat && c.toNat != 127

/-! ## Parameters

The state of a reader that is inside the parameters. -/

inductive ParameterState where
  /-- After a semicolon. -/
  | start
  | name
  /-- After the equals sign. -/
  | opening
  | value
  /-- Between quotes, with nothing or something read there. -/
  | quoted (isEmpty : Bool)
  /-- After the closing quote. -/
  | closed
  deriving DecidableEq, Repr

namespace ParameterState

def step : ParameterState → Char → Option ParameterState
  | .start, c => if c = ' ' then some .start else if isToken c then some .name else none
  | .name, c => if c = '=' then some .opening else if isToken c then some .name else none
  | .opening, c =>
      if c = '"' then some (.quoted true) else if isToken c then some .value else none
  | .value, c => if c = ';' then some .start else if isToken c then some .value else none
  | .quoted isEmpty, c =>
      if c = '"' ∧ isEmpty = false then some .closed
      else if isQuotable c then some (.quoted false) else none
  | .closed, c => if c = ';' then some .start else if c = ' ' then some .closed else none

/-- May the parameters end here? -/
def isFinal : ParameterState → Bool
  | .start => true
  | .name => false
  | .opening => true
  | .value => true
  | .quoted _ => false
  | .closed => true

end ParameterState

def areParameters (cs : List Char) : Bool :=
  match cs.foldlM ParameterState.step .start with
  | some s => s.isFinal
  | none => false

/-! ## Types -/

/-- The type and the subtype of a media type whose parameters are well formed. -/
def readMediaType? (cs : List Char) : Option (List Char × List Char) :=
  let type := cs.takeWhile isToken
  match cs.dropWhile isToken with
  | '/' :: rest =>
      let subtype := rest.takeWhile isToken
      if type.isEmpty then none
      else
        match rest.dropWhile isToken with
        | [] => some (type, subtype)
        | ';' :: parameters =>
            if subtype.isEmpty ∨ areParameters parameters = false then none
            else some (type, subtype)
        | _ => none
  | _ => none

/-- Does a subtype mean JSON, by its name up to the last plus sign or by what follows that sign? A
    plus sign in front is part of the name. -/
def isJsonSubtype (subtype : List Char) : Bool :=
  let suffix := (subtype.reverse.takeWhile (· != '+')).reverse
  let name := subtype.take (subtype.length - suffix.length - 1)
  if name.isEmpty then subtype == "json".toList
  else name == "json".toList || suffix == "json".toList

/-- Is this the media type of a JSON document? The case of letters does not matter. -/
def isJsonType (value : String) : Bool :=
  let cs := value.toList
  if cs.all isPrintable then
    match readMediaType? (lower cs) with
    | some (type, subtype) => type == "application".toList && isJsonSubtype subtype
    | none => false
  else false

end Playground.Http
