import Playground.Json.Fault

set_option autoImplicit false

/-! # JSON values

A value as a tree. Reading one bounds its depth; a value that nobody wants is read with a bound that
its own length cannot exceed, and dropped.

`Value.render` writes a value without blanks. -/

namespace Playground.Json

open Playground.Text.Utf8 (Symbol)

inductive Value where
  | null
  | bool (value : Bool)
  | number (numeral : Numeral)
  | text (symbols : List Symbol)
  | array (items : List Value)
  | object (members : List (List Symbol × Value))
  deriving Repr

/-! ## Reading

Lexemes are taken one by one. What has been read of the arrays and objects that are open lies on a
stack, the innermost on top; what may come next is one of six things. -/

/-- An array or object that is open: what it holds so far, last first. -/
inductive Frame where
  | array (items : List Value)
  | object (members : List (List Symbol × Value)) (key : List Symbol)
  deriving Repr

/-- A value has been read inside of a frame. -/
def Frame.add (v : Value) : Frame → Frame
  | .array items => .array (v :: items)
  | .object members key => .object ((key, v) :: members) key

/-- The value of a frame that a lexeme closes. -/
def Frame.close? : Frame → Lexeme → Option Value
  | .array items, .closeArray => some (.array items.reverse)
  | .object members _, .closeObject => some (.object members.reverse)
  | _, _ => none

/-- What may come next. -/
inductive Awaited where
  | value
  /-- The first item of an array, or its end. -/
  | itemOrEnd
  /-- The first key of an object, or its end. -/
  | keyOrEnd
  | key
  | colon (key : List Symbol)
  /-- A comma, or the end of the frame. -/
  | more
  deriving DecidableEq, Repr

/-- The value that a lexeme is by itself. -/
def Lexeme.scalar? : Lexeme → Option Value
  | .null => some .null
  | .bool b => some (.bool b)
  | .number n => some (.number n)
  | .text t => some (.text t)
  | _ => none

/-- Where the reading of a value stands. -/
structure ReadState where
  stack : List Frame
  awaited : Awaited
  deriving Repr

inductive Progress where
  | going (state : ReadState)
  | finished (v : Value)
  deriving Repr

namespace ReadState

def start : ReadState := ⟨[], .value⟩

/-- A value is complete: the whole one if no frame is open, else a part of the innermost frame. -/
def deliver (v : Value) : List Frame → Progress
  | [] => .finished v
  | frame :: stack => .going ⟨frame.add v :: stack, .more⟩

/-- The innermost frame is closed by a lexeme. -/
def close? (stack : List Frame) (l : Lexeme) : Option Progress :=
  match stack with
  | [] => none
  | frame :: stack => (frame.close? l).map fun v => deliver v stack

/-- A value begins. No more than `limit` frames may be open at once, if there is a limit. -/
def begin? (limit : Option Nat) (stack : List Frame) (l : Lexeme) : Option Progress :=
  match l.scalar? with
  | some v => some (deliver v stack)
  | none =>
      if limit.any (· ≤ stack.length) then none
      else
        match l with
        | .openArray => some (.going ⟨.array [] :: stack, .itemOrEnd⟩)
        | .openObject => some (.going ⟨.object [] [] :: stack, .keyOrEnd⟩)
        | _ => none

/-- One lexeme further; nothing if it may not come here. -/
def step? (limit : Option Nat) (s : ReadState) (l : Lexeme) : Option Progress :=
  match s.awaited with
  | .value => begin? limit s.stack l
  | .itemOrEnd => (close? s.stack l).or (begin? limit s.stack l)
  | .keyOrEnd =>
      match l with
      | .text key => some (.going ⟨s.stack, .colon key⟩)
      | l => close? s.stack l
  | .key =>
      match l with
      | .text key => some (.going ⟨s.stack, .colon key⟩)
      | _ => none
  | .colon key =>
      match l, s.stack with
      | .colon, .object members _ :: stack => some (.going ⟨.object members key :: stack, .value⟩)
      | _, _ => none
  | .more =>
      match l, s.stack with
      | .comma, .array _ :: _ => some (.going ⟨s.stack, .value⟩)
      | .comma, .object _ _ :: _ => some (.going ⟨s.stack, .key⟩)
      | l, stack => close? stack l

/-- Reads on until the value is complete. -/
def read (limit : Option Nat) (s : ReadState) : List Lexeme → Reading Value
  | [] => .error .syntaxError
  | l :: rest =>
      match s.step? limit l with
      | none => .error .syntaxError
      | some (.finished v) => .ok (v, rest)
      | some (.going s) => read limit s rest

end ReadState

/-- Passes over the first value of a text, however deep it is. -/
def skipValue (lexemes : List Lexeme) : Except Fault (List Lexeme) :=
  (ReadState.start.read none lexemes).map Prod.snd

/-! ## Values whose leaves are wanted -/

mutual

/-- Can every string in the value be decoded, and does every number have a value? -/
def Value.isDecodable : Value → Bool
  | .null => true
  | .bool _ => true
  | .number n => n.value?.isSome
  | .text t => t.all Option.isSome
  | .array items => areDecodable items
  | .object members => areDecodableMembers members

def areDecodable : List Value → Bool
  | [] => true
  | v :: vs => v.isDecodable && areDecodable vs

def areDecodableMembers : List (List Symbol × Value) → Bool
  | [] => true
  | (key, v) :: ms => key.all Option.isSome && v.isDecodable && areDecodableMembers ms

end

/-- How many arrays and objects may lie within each other in a value that is read as a whole. -/
def depthLimit : Nat := 127

/-- Reads the first value of a text as a whole. -/
def readTree (lexemes : List Lexeme) : Reading Value :=
  match ReadState.start.read (some depthLimit) lexemes with
  | .ok (v, rest) => if v.isDecodable then .ok (v, rest) else .error .syntaxError
  | .error fault => .error fault

/-! ## Writing -/

/-- The four hexadecimal digits of an escape. -/
def hexDigits (n : Nat) : List Char :=
  let digits := Nat.toDigits 16 n
  List.replicate (4 - digits.length) '0' ++ digits

/-- One character inside a string. -/
def renderChar (c : Char) : List Char :=
  if c = '"' then ['\\', '"']
  else if c = '\\' then ['\\', '\\']
  else if c = '\n' then ['\\', 'n']
  else if c = '\r' then ['\\', 'r']
  else if c = '\t' then ['\\', 't']
  else if c = '\x08' then ['\\', 'b']
  else if c = '\x0c' then ['\\', 'f']
  else if c.toNat < 0x20 then ['\\', 'u'] ++ hexDigits c.toNat
  else [c]

def renderText (cs : List Char) : List Char := '"' :: cs.flatMap renderChar ++ ['"']

/-- A text as a value. -/
def Value.ofString (s : String) : Value := .text (s.toList.map some)

/-- A member of an object. -/
def member (key : String) (v : Value) : List Symbol × Value := (key.toList.map some, v)

def renderDigits (digits : List Nat) : List Char := digits.flatMap fun d => Nat.toDigits 10 d

def Numeral.render (n : Numeral) : List Char :=
  (if n.negative then ['-'] else []) ++ renderDigits n.whole ++
    (if n.fraction.isEmpty then [] else '.' :: renderDigits n.fraction) ++
    match n.exponent with
    | none => []
    | some (negative, digits) => 'e' :: (if negative then ['-'] else []) ++ renderDigits digits

mutual

/-- The text of a value. Symbols without a character are left out; values that were read as a whole
    have none. -/
def Value.render : Value → List Char
  | .null => ['n', 'u', 'l', 'l']
  | .bool true => ['t', 'r', 'u', 'e']
  | .bool false => ['f', 'a', 'l', 's', 'e']
  | .number n => n.render
  | .text t => renderText (t.filterMap id)
  | .array items => '[' :: renderItems items ++ [']']
  | .object members => '\x7b' :: renderMembers members ++ ['\x7d']

def renderItems : List Value → List Char
  | [] => []
  | [v] => v.render
  | v :: w :: vs => v.render ++ ',' :: renderItems (w :: vs)

def renderMembers : List (List Symbol × Value) → List Char
  | [] => []
  | [(key, v)] => renderText (key.filterMap id) ++ ':' :: v.render
  | (key, v) :: m :: ms =>
      renderText (key.filterMap id) ++ ':' :: v.render ++ ',' :: renderMembers (m :: ms)

end

end Playground.Json
