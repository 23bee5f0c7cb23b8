import Playground.Failure
import Playground.Json.Record
import Playground.Language

set_option autoImplicit false

/-! # Requests

What a caller asks for: some code, the language it is in or nothing to have it guessed, and the text
the program is to read, if any. On the wire a language goes by any of its tags; what is written is
its name. -/

namespace Playground

open Json

/-- The language of a tag, or the failure that names the tag as it was given. -/
def Language.ofTag (tag : String) : Except Failure Language :=
  match Language.ofTag? tag with
  | some l => .ok l
  | none => .error (.unsupportedLanguage tag)

structure Request where
  code : String
  language : Option Language
  input : Option String
  deriving DecidableEq, Repr

namespace Request

/-- A request for code in a given language. -/
def inLanguage (l : Language) (code : String) : Request := ⟨code, some l, none⟩

/-- A request for code whose language is to be guessed. -/
def guessing (code : String) : Request := ⟨code, none, none⟩

/-- A request for code in the language of a tag, if there is a tag. -/
def tagged (tag : Option String) (code : String) : Except Failure Request :=
  match tag with
  | none => .ok (guessing code)
  | some tag => (Language.ofTag tag).map fun l => inLanguage l code

def withInput (r : Request) (input : String) : Request := { r with input := some input }

/-! ## Wire form -/

/-- Why a text is no tag. -/
def tagRefusal (tag : String) : Option String :=
  match Language.ofTag tag with
  | .ok _ => none
  | .error f => some f.message

def record : Record :=
  ⟨"ExecutionRequest", [.required "code", ⟨"language", false, tagRefusal⟩, .optional "input"]⟩

/-- The request that the fields of a record hold; tags have been checked when they were read. -/
def ofFields : List FieldValue → Except Fault Request
  | [some code, tag, input] => .ok ⟨code, tag.bind Language.ofTag?, input⟩
  | _ => .error .syntaxError

def read (lexemes : List Lexeme) : Except Fault (Request × List Lexeme) := do
  let (fields, rest) ← record.read lexemes
  return (← ofFields fields, rest)

/-- The request that a document is. -/
def ofDocument (d : Document) : Except Fault Request := d.readAll read

/-- A text, or null. -/
def textOrNull (s : Option String) : Value := (s.map Value.ofString).getD .null

def toJson (r : Request) : Value :=
  .object [member "code" (.ofString r.code),
    member "language" (textOrNull (r.language.map Language.name)),
    member "input" (textOrNull r.input)]

end Request

/-! ## Wire forms of names -/

def Language.read (lexemes : List Lexeme) : Except Fault (Language × List Lexeme) := do
  let (name, rest) ← readName (Language.all.map Language.name) lexemes
  match Language.ofName? name with
  | some l => return (l, rest)
  | none => throw .syntaxError

def Detection.read (lexemes : List Lexeme) : Except Fault (Detection × List Lexeme) := do
  let (name, rest) ← readName (Detection.all.map Detection.name) lexemes
  match Detection.ofName? name with
  | some d => return (d, rest)
  | none => throw .syntaxError

def Kind.read (lexemes : List Lexeme) : Except Fault (Kind × List Lexeme) := do
  let (name, rest) ← readName (Kind.all.map Kind.name) lexemes
  match Kind.ofName? name with
  | some k => return (k, rest)
  | none => throw .syntaxError

/-! ## Wire form of outcomes

An outcome is an object without a tag: with an output it is a success, whatever else it has; without
one it is a failure, and must have both an error and a kind. -/

namespace Outcome

/-- The one member of this name. -/
def only? (key : String) (members : List (List Text.Utf8.Symbol × Value)) : Option Value :=
  match members.filter fun m => m.1 == key.toList.map some with
  | [(_, v)] => some v
  | _ => none

def text? : Value → Option String
  | .text t => (t.mapM id).map String.ofList
  | _ => none

/-- A kind is its name, or an object with the name as its one key and null as the value. -/
def readKind? : Value → Option Kind
  | .object [(key, .null)] => (text? (.text key)).bind Kind.ofName?
  | v => (text? v).bind Kind.ofName?

def ofMembers? (members : List (List Text.Utf8.Symbol × Value)) : Option Outcome :=
  match (only? "output" members).bind text? with
  | some output => some (.success output)
  | none => do
      let error ← (only? "error" members).bind text?
      let kind ← (only? "kind" members).bind readKind?
      return .failure error kind

def ofJson : Value → Except Fault Outcome
  | .object members =>
      match ofMembers? members with
      | some o => .ok o
      | none => .error (.mismatch (.noVariant "ExecutionResult"))
  | _ => .error (.mismatch (.noVariant "ExecutionResult"))

def read (lexemes : List Lexeme) : Except Fault (Outcome × List Lexeme) := do
  let (v, rest) ← readTree lexemes
  return (← ofJson v, rest)

/-- The outcome that a document is. -/
def ofDocument (d : Document) : Except Fault Outcome := d.readAll read

def toJson : Outcome → Value
  | .success output => .object [member "output" (.ofString output)]
  | .failure error kind =>
      .object [member "error" (.ofString error), member "kind" (.ofString kind.name)]

end Outcome

end Playground
