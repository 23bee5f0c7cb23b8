import Playground.Json.Value

set_option autoImplicit false

/-! # Records and names

The documents that a service is sent are records of texts and names from a fixed list. They are read
lexeme by lexeme, so that the first thing that is wrong decides what is reported: a field of the
wrong type is reported even if the text after it is no JSON at all.

A record may be an object, whose members come in any order and with others between them, or an array
of the fields in the order in which they are declared. -/

namespace Playground.Json

open Playground.Text.Utf8 (Symbol)

/-! ## Fields -/

/-- A field that holds a text. -/
structure Field where
  name : String
  isRequired : Bool
  /-- Why a text may not stand here, if it may not. -/
  refusal? : String → Option String

/-- A field with any text, which must be there. -/
def Field.required (name : String) : Field := ⟨name, true, fun _ => none⟩

/-- A field with any text, which may be null or missing. -/
def Field.optional (name : String) : Field := ⟨name, false, fun _ => none⟩

/-- The value of a field: nothing for null. -/
abbrev FieldValue := Option String

/-- A record and what is known of it: for each field, in order, its value once it has been read. -/
abbrev Slots := List (Field × Option FieldValue)

structure Record where
  name : String
  fields : List Field

/-- How a record is named in a message. -/
def Record.wanted (r : Record) : String := "struct " ++ r.name

def Record.wantedWithLength (r : Record) : String :=
  let n := r.fields.length
  r.wanted ++ " with " ++ toString n ++ (if n = 1 then " element" else " elements")

def Record.slots (r : Record) : Slots := r.fields.map fun f => (f, none)

/-- Reads the value of a field, which is one lexeme. -/
def Field.read (f : Field) : List Lexeme → Except Fault (FieldValue × List Lexeme)
  | [] => .error .syntaxError
  | .text t :: rest => do
      let s ← textOf t
      match f.refusal? s with
      | some reason => throw (.mismatch (.refused reason))
      | none => return (some s, rest)
  | .null :: rest =>
      if f.isRequired then .error (Lexeme.null.mismatch "a string") else .ok (none, rest)
  | l :: _ => .error (l.mismatch "a string")

/-- Puts a value into the slot of this name. -/
def Slots.fill (name : String) (v : FieldValue) (slots : Slots) : Slots :=
  slots.map fun slot => if slot.1.name = name then (slot.1, some v) else slot

/-- The values of all fields, in order; a missing one that is not required has none. -/
def Slots.values : Slots → Except Fault (List FieldValue)
  | [] => .ok []
  | (f, v) :: slots =>
      match v with
      | some v => (Slots.values slots).map (v :: ·)
      | none =>
          if f.isRequired then .error (.mismatch (.missingField f.name))
          else (Slots.values slots).map (none :: ·)

/-! ## Objects -/

/-- Reads what follows a key: the value of its field if it has one, else a value to be passed over.
    A field that has been read before is refused at its key. -/
def readMember (slots : Slots) (key : String) (lexemes : List Lexeme) : Reading Slots :=
  match slots.find? fun slot => slot.1.name == key, lexemes with
  | some (_, some _), _ => .error (.mismatch (.duplicateField key))
  | some (f, none), .colon :: rest => (f.read rest).map fun (v, rest) => (slots.fill key v, rest)
  | none, .colon :: rest => (skipValue rest).map fun rest => (slots, rest)
  | _, _ => .error .syntaxError

/-- Reads members from a key on. Each takes more than one lexeme, so as many rounds as there are
    lexemes are enough. -/
def readMembers (rounds : Nat) (slots : Slots) (lexemes : List Lexeme) :
    Except Fault (List FieldValue × List Lexeme) :=
  match rounds, lexemes with
  | rounds + 1, .text key :: rest => do
      let key ← textOf key
      let (slots, rest) ← readMember slots key rest
      match rest with
      | .comma :: rest => readMembers rounds slots rest
      | .closeObject :: rest => return (← slots.values, rest)
      | _ => throw .syntaxError
  | _, _ => .error .syntaxError

/-! ## Arrays -/

/-- Reads the fields from the items of an array, of which `position` have been read. -/
def readItems (r : Record) (position : Nat) :
    List Field → List Lexeme → Except Fault (List FieldValue × List Lexeme)
  | [], .closeArray :: rest => .ok ([], rest)
  | [], _ => .error .syntaxError
  | f :: fields, lexemes =>
      match lexemes with
      | [] => .error .syntaxError
      | .closeArray :: rest =>
          if f.isRequired then .error (.mismatch (.invalidLength position r.wantedWithLength))
          else do
            let (values, rest) ← readItems r position fields (.closeArray :: rest)
            .ok (none :: values, rest)
      | l :: rest => do
          let items ←
            if position = 0 then .ok (l :: rest)
            else if l = .comma then
              match rest with
              | .closeArray :: _ => .error .syntaxError
              | rest => .ok rest
            else .error .syntaxError
          let (v, rest) ← f.read items
          let (values, rest) ← readItems r (position + 1) fields rest
          .ok (v :: values, rest)

/-- Reads a record: the values of its fields in the order in which they are declared. -/
def Record.read (r : Record) : List Lexeme → Except Fault (List FieldValue × List Lexeme)
  | [] => .error .syntaxError
  | .openObject :: .closeObject :: rest => do
      let values ← r.slots.values
      .ok (values, rest)
  | .openObject :: rest => readMembers (rest.length + 1) r.slots rest
  | .openArray :: rest => readItems r 0 r.fields rest
  | l :: _ => .error (l.mismatch r.wanted)

/-! ## Names from a list -/

/-- Checks that a name is on the list. -/
def checkName (known : List String) (symbols : List Symbol) : Except Fault String := do
  let name ← textOf symbols
  if known.contains name then .ok name else .error (.mismatch (.unknownVariant name known))

/-- Reads one of the names on a list: a string, or an object with the name as its one key and null
    as the value. -/
def readName (known : List String) : List Lexeme → Except Fault (String × List Lexeme)
  | .text t :: rest => (checkName known t).map fun name => (name, rest)
  | .openObject :: l :: rest =>
      match l with
      | .text t => do
          let name ← checkName known t
          match rest with
          | .colon :: .null :: .closeObject :: rest => .ok (name, rest)
          | .colon :: .null :: _ => .error .syntaxError
          | .colon :: l :: _ => .error (l.mismatch "unit")
          | _ => .error .syntaxError
      | l => .error (l.mismatch "variant identifier")
  | _ => .error .syntaxError

/-! ## Whole documents -/

/-- Reads a document that holds one value and nothing after it. -/
def Document.readAll {α : Type} (d : Document) (read : List Lexeme → Reading α) :
    Except Fault α := do
  let (v, rest) ← read d.lexemes
  if rest.isEmpty ∧ d.isComplete then .ok v else .error .syntaxError

end Playground.Json
