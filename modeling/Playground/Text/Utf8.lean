set_option autoImplicit false

/-! # UTF-8

Programs print octets and clients send them; neither need be text. Decoding turns octets into
**symbols**: a character, or nothing for each maximal run of octets that begins a character and
cannot be completed. A reader that must have text refuses the latter; a reader that shows what it
can puts U+FFFD in their place.

The decoder holds what it has seen of the current character: how many octets are owed, between
which bounds the next one must lie, and the bits so far. The bounds are what excludes overlong
forms, surrogates and numbers beyond U+10FFFF at the earliest octet. -/

namespace Playground.Text.Utf8

/-- A character, or an undecodable run of octets. -/
abbrev Symbol := Option Char

/-- A character that has begun. -/
structure Pending where
  owed : Nat
  low : Nat
  high : Nat
  bits : Nat
  deriving DecidableEq, Repr

/-- What an octet at the start of a character says. -/
inductive Lead where
  | whole (c : Char)
  | begins (p : Pending)
  | stray
  deriving DecidableEq, Repr

def lead (b : UInt8) : Lead :=
  let n := b.toNat
  if n < 0x80 then .whole (Char.ofNat n)
  else if n < 0xC2 then .stray
  else if n < 0xE0 then .begins ⟨1, 0x80, 0xBF, n - 0xC0⟩
  else if n = 0xE0 then .begins ⟨2, 0xA0, 0xBF, n - 0xE0⟩
  else if n = 0xED then .begins ⟨2, 0x80, 0x9F, n - 0xE0⟩
  else if n < 0xF0 then .begins ⟨2, 0x80, 0xBF, n - 0xE0⟩
  else if n = 0xF0 then .begins ⟨3, 0x90, 0xBF, n - 0xF0⟩
  else if n < 0xF4 then .begins ⟨3, 0x80, 0xBF, n - 0xF0⟩
  else if n = 0xF4 then .begins ⟨3, 0x80, 0x8F, n - 0xF0⟩
  else .stray

/-- The symbols decoded so far, last first, and the character that has begun. -/
structure Decoder where
  pending : Option Pending
  symbols : List Symbol
  deriving DecidableEq, Repr

namespace Decoder

def start : Decoder := ⟨none, []⟩

def takeLead (symbols : List Symbol) (b : UInt8) : Decoder :=
  match lead b with
  | .whole c => ⟨none, some c :: symbols⟩
  | .begins p => ⟨some p, symbols⟩
  | .stray => ⟨none, none :: symbols⟩

/-- One octet further. An octet that cannot continue the character which has begun ends it, and is
    looked at anew. -/
def step (d : Decoder) (b : UInt8) : Decoder :=
  match d.pending with
  | none => takeLead d.symbols b
  | some p =>
      if p.low ≤ b.toNat ∧ b.toNat ≤ p.high then
        let bits := p.bits * 64 + b.toNat % 64
        if p.owed ≤ 1 then ⟨none, some (Char.ofNat bits) :: d.symbols⟩
        else ⟨some ⟨p.owed - 1, 0x80, 0xBF, bits⟩, d.symbols⟩
      else takeLead (none :: d.symbols) b

/-- All symbols, once there are no more octets. -/
def finish (d : Decoder) : List Symbol :=
  match d.pending with
  | none => d.symbols.reverse
  | some _ => (none :: d.symbols).reverse

end Decoder

/-- The symbols that octets stand for. -/
def decode (octets : List UInt8) : List Symbol := (octets.foldl Decoder.step .start).finish

/-- The text that octets stand for, if all of them can be decoded. -/
def decode? (octets : List UInt8) : Option (List Char) := (decode octets).mapM id

/-- The text with U+FFFD for what cannot be decoded. -/
def decodeLossy (octets : List UInt8) : List Char :=
  (decode octets).map fun s => s.getD (Char.ofNat 0xFFFD)

/-- The octets of a text. -/
def encode (cs : List Char) : List UInt8 := cs.flatMap String.utf8EncodeChar

end Playground.Text.Utf8
