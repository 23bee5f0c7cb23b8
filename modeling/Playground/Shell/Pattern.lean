import Playground.Machine.Bytes

set_option autoImplicit false

/-! # Patterns

Patterns stand for texts: a star for any, a question mark for any of one character, brackets for one
character of some. A character that was quoted stands for itself. -/

namespace Playground.Shell

open Machine (Bytes)

/-- A character of an expanded word, and whether it was quoted. -/
structure Glyph where
  char : Char
  isQuoted : Bool
  deriving DecidableEq, Repr

abbrev Glyphs := List Glyph

namespace Glyphs

def ofBytes (b : Bytes) (isQuoted : Bool) : Glyphs := b.map fun c => ⟨c, isQuoted⟩

def toBytes (g : Glyphs) : Bytes := g.map Glyph.char

end Glyphs

namespace Pattern

/-- What one character may be inside brackets. -/
inductive Choice where
  | range (low high : Char)
  | named (name : String)
  deriving DecidableEq, Repr

def classNames : List String :=
  ["alpha", "digit", "alnum", "upper", "lower", "space", "blank", "punct", "xdigit", "cntrl",
    "print", "graph"]

def Choice.has (c : Char) : Choice → Bool
  | .range low high => low ≤ c && c ≤ high
  | .named "alpha" => c.isAlpha
  | .named "digit" => c.isDigit
  | .named "alnum" => c.isAlphanum
  | .named "upper" => c.isUpper
  | .named "lower" => c.isLower
  | .named "space" => Bytes.isSpace c
  | .named "blank" => Bytes.isBlank c
  | .named "punct" => 33 ≤ c.toNat && c.toNat < 127 && !c.isAlphanum
  | .named "xdigit" => (Bytes.hexValue? c).isSome
  | .named "cntrl" => c.toNat < 32 || c.toNat == 127
  | .named "print" => 32 ≤ c.toNat && c.toNat < 127
  | .named "graph" => 33 ≤ c.toNat && c.toNat < 127
  | .named _ => false

inductive Item where
  | char (c : Char)
  | one
  | many
  | choice (isNegated : Bool) (choices : List Choice)
  deriving DecidableEq, Repr

def Item.has (c : Char) : Item → Bool
  | .char d => c == d
  | .one => true
  | .many => true
  | .choice isNegated choices => (choices.any fun x => x.has c) != isNegated

/-! ## Reading patterns -/

/-- A class in brackets, after the two characters that open it: its name and what follows. -/
def takeClass (g : Glyphs) : Option (String × Glyphs) :=
  let name := g.takeWhile fun x => x.char.isAlpha
  match g.drop name.length with
  | ⟨':', _⟩ :: ⟨']', _⟩ :: rest => some (String.ofList (Glyphs.toBytes name), rest)
  | _ => none

/-- The choices of brackets up to the closing one, and what follows it. -/
def takeChoices (steps : Nat) (choices : List Choice) (g : Glyphs) (isFirst : Bool) :
    Option (List Choice × Glyphs) :=
  match steps, g with
  | 0, _ => none
  | _, [] => none
  | steps + 1, x :: rest =>
      if x.char = ']' ∧ x.isQuoted = false ∧ isFirst = false then some (choices, rest)
      else
        match x, rest with
        | ⟨'[', false⟩, ⟨':', false⟩ :: inner =>
            match takeClass inner with
            | some (name, rest) => takeChoices steps (.named name :: choices) rest false
            | none => takeChoices steps (.range '[' '[' :: choices) rest false
        | x, ⟨'-', false⟩ :: y :: after =>
            if y.char = ']' ∧ y.isQuoted = false then
              takeChoices steps (.range x.char x.char :: choices) rest false
            else takeChoices steps (.range x.char y.char :: choices) after false
        | x, rest => takeChoices steps (.range x.char x.char :: choices) rest false

/-- The pattern that glyphs stand for. Brackets that are not closed stand for themselves. -/
def ofGlyphs (steps : Nat) (g : Glyphs) : List Item :=
  match steps, g with
  | 0, _ => []
  | _, [] => []
  | steps + 1, x :: rest =>
      match x with
      | ⟨'*', false⟩ => .many :: ofGlyphs steps rest
      | ⟨'?', false⟩ => .one :: ofGlyphs steps rest
      | ⟨'[', false⟩ =>
          let (isNegated, inner) :=
            match rest with
            | ⟨'!', false⟩ :: inner => (true, inner)
            | ⟨'^', false⟩ :: inner => (true, inner)
            | inner => (false, inner)
          match takeChoices (inner.length + 1) [] inner true with
          | some (choices, rest) => .choice isNegated choices :: ofGlyphs steps rest
          | none => .char '[' :: ofGlyphs steps rest
      | ⟨'\\', false⟩ =>
          match rest with
          | y :: rest => .char y.char :: ofGlyphs steps rest
          | [] => [.char '\\']
      | x => .char x.char :: ofGlyphs steps rest

def read (g : Glyphs) : List Item := ofGlyphs (g.length + 1) g

/-- Is there anything in the glyphs that does not stand for itself? -/
def isMagic (g : Glyphs) : Bool :=
  (read g).any fun i =>
    match i with
    | .char _ => false
    | _ => true

/-! ## Matching -/

/-- Does the pattern stand for the whole text? -/
def hits (items : List Item) (b : Bytes) : Bool :=
  match items, b with
  | [], b => b.isEmpty
  | .many :: items, [] => hits items []
  | .many :: items, c :: cs => hits items (c :: cs) || hits (.many :: items) cs
  | _ :: _, [] => false
  | i :: items, c :: cs => i.has c && hits items cs
  termination_by items.length + b.length

/-- The lengths of the beginnings of a text that the pattern stands for, shortest first. -/
def hitLengths (items : List Item) (b : Bytes) : List Nat :=
  (List.range (b.length + 1)).filter fun (n : Nat) => hits items (b.take n)

/-- The text without a beginning that the pattern stands for. -/
def trimStart (items : List Item) (longest : Bool) (b : Bytes) : Bytes :=
  let lengths := hitLengths items b
  match if longest then lengths.getLast? else lengths.head? with
  | some n => b.drop n
  | none => b

/-- The text without an end that the pattern stands for. -/
def trimEnd (items : List Item) (longest : Bool) (b : Bytes) : Bytes :=
  let lengths := (List.range (b.length + 1)).filter fun (n : Nat) =>
    hits items (b.drop (b.length - n))
  match if longest then lengths.getLast? else lengths.head? with
  | some n => b.take (b.length - n)
  | none => b

end Pattern

end Playground.Shell
