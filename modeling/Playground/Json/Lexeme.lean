import Playground.Json.Numeral
import Playground.Text.Utf8

set_option autoImplicit false

/-! # Lexemes of JSON

JSON text is read one lexeme at a time, so that a reader who wants something else can refuse a
document at the first place where it differs, before the rest has been looked at.

The text may come from a client and need not be decodable, so it is a list of symbols. Undecodable
octets and lone surrogate escapes are tolerated inside a string as long as nobody wants its
characters: they become symbols without a character. -/

namespace Playground.Json

open Playground.Text.Utf8 (Symbol)

/-- A text to be read. -/
abbrev Input := List Symbol

/-- What can be read from a string. -/
abbrev Input.ofString (s : String) : Input := s.toList.map some

inductive Lexeme where
  | openObject
  | closeObject
  | openArray
  | closeArray
  | colon
  | comma
  | null
  | bool (value : Bool)
  | number (numeral : Numeral)
  | text (symbols : List Symbol)
  deriving DecidableEq, Repr

/-- A blank between lexemes: space, newline, tab or carriage return. -/
def isSeparator (s : Symbol) : Bool :=
  s == some ' ' || s == some '\n' || s == some '\t' || s == some '\r'

/-! ## Strings -/

/-- The value of a hexadecimal digit of either case. -/
def hexDigit? (c : Char) : Option Nat :=
  if '0' ≤ c ∧ c ≤ '9' then some (c.toNat - '0'.toNat)
  else if 'a' ≤ c ∧ c ≤ 'f' then some (c.toNat - 'a'.toNat + 10)
  else if 'A' ≤ c ∧ c ≤ 'F' then some (c.toNat - 'A'.toNat + 10)
  else none

/-- The character that a backslash and this letter stand for. -/
def escapeLetter? (c : Char) : Option Char :=
  match c with
  | '"' => some '"'
  | '\\' => some '\\'
  | '/' => some '/'
  | 'b' => some '\x08'
  | 'f' => some '\x0c'
  | 'n' => some '\n'
  | 'r' => some '\r'
  | 't' => some '\t'
  | _ => none

/-- Where the reading of a string stands: between characters, after a backslash, or in the four
    digits of an escaped code unit. -/
inductive TextState where
  | plain
  | escape
  | digits (left value : Nat)
  deriving DecidableEq, Repr

/-- One unit of a string: a symbol, or a code unit that was given by its number. -/
inductive TextUnit where
  | symbol (s : Symbol)
  | code (n : Nat)
  deriving DecidableEq, Repr

def isHighSurrogate (n : Nat) : Bool := 0xD800 ≤ n && n < 0xDC00

def isLowSurrogate (n : Nat) : Bool := 0xDC00 ≤ n && n < 0xE000

/-- Code units become characters: two surrogates that belong together one, a lone one none. -/
def joinUnits : List TextUnit → List Symbol
  | [] => []
  | [.symbol s] => [s]
  | [.code n] => [if isHighSurrogate n || isLowSurrogate n then none else some (Char.ofNat n)]
  | .symbol s :: u :: us => s :: joinUnits (u :: us)
  | .code n :: u :: us =>
      if isHighSurrogate n then
        match u with
        | .code m =>
            if isLowSurrogate m then
              some (Char.ofNat ((n - 0xD800) * 0x400 + (m - 0xDC00) + 0x10000)) :: joinUnits us
            else none :: joinUnits (.code m :: us)
        | .symbol s => none :: joinUnits (.symbol s :: us)
      else (if isLowSurrogate n then none else some (Char.ofNat n)) :: joinUnits (u :: us)

/-- The units of a string up to its closing quote, last first, and the text after it. Control
    characters must be escaped. -/
def readUnits : TextState → List TextUnit → Input → Option (List TextUnit × Input)
  | _, _, [] => none
  | .plain, acc, s :: rest =>
      match s with
      | none => readUnits .plain (.symbol none :: acc) rest
      | some c =>
          if c = '"' then some (acc, rest)
          else if c = '\\' then readUnits .escape acc rest
          else if c.toNat < 0x20 then none
          else readUnits .plain (.symbol (some c) :: acc) rest
  | .escape, acc, s :: rest =>
      match s with
      | none => none
      | some c =>
          if c = 'u' then readUnits (.digits 4 0) acc rest
          else
            match escapeLetter? c with
            | some d => readUnits .plain (.symbol (some d) :: acc) rest
            | none => none
  | .digits left value, acc, s :: rest =>
      match s.bind hexDigit? with
      | none => none
      | some d =>
          if left ≤ 1 then readUnits .plain (.code (value * 16 + d) :: acc) rest
          else readUnits (.digits (left - 1) (value * 16 + d)) acc rest

theorem readUnits_length {st : TextState} {acc units : List TextUnit} {input rest : Input}
    (h : readUnits st acc input = some (units, rest)) : rest.length < input.length := by
  induction input generalizing st acc with
  | nil => cases st <;> simp [readUnits] at h
  | cons s cs ih =>
      have later {st : TextState} {acc : List TextUnit}
          (h : readUnits st acc cs = some (units, rest)) : rest.length < (s :: cs).length :=
        Nat.lt_succ_of_lt (ih h)
      cases st <;> simp only [readUnits] at h <;> grind

/-- The symbols of a string whose opening quote has been read. -/
def readText (input : Input) : Option (List Symbol × Input) :=
  match readUnits .plain [] input with
  | some (units, rest) => some (joinUnits units.reverse, rest)
  | none => none

theorem readText_length {symbols : List Symbol} {input rest : Input}
    (h : readText input = some (symbols, rest)) : rest.length < input.length := by
  unfold readText at h
  split at h
  · next heq =>
      simp only [Option.some.injEq, Prod.mk.injEq] at h
      exact h.2 ▸ readUnits_length heq
  · simp at h

/-! ## Numbers -/

def decimalDigit? (s : Symbol) : Option Nat :=
  s.bind fun c => if '0' ≤ c ∧ c ≤ '9' then some (c.toNat - '0'.toNat) else none

/-- The digits a text opens with. -/
def readDigits : Input → List Nat × Input
  | [] => ([], [])
  | s :: rest =>
      match decimalDigit? s with
      | some d =>
          let r := readDigits rest
          (d :: r.1, r.2)
      | none => ([], s :: rest)

theorem readDigits_length (input : Input) : (readDigits input).2.length ≤ input.length := by
  fun_induction readDigits input with
  | case1 => exact Nat.le_refl _
  | case2 s rest d _ r ih => exact Nat.le_succ_of_le ih
  | case3 s rest _ => exact Nat.le_refl _

theorem readDigits_length_lt {input : Input} (h : (readDigits input).1 ≠ []) :
    (readDigits input).2.length < input.length := by
  cases input with
  | nil => simp [readDigits] at h
  | cons s rest =>
      simp only [readDigits] at h ⊢
      split
      · exact Nat.lt_succ_of_le (readDigits_length rest)
      · next hs => simp [hs] at h

/-- The exponent of a number, if one follows; nothing at all if one begins and has no digits. -/
def readExponent (input : Input) : Option (Option (Bool × List Nat) × Input) :=
  match input with
  | some c :: rest =>
      if c = 'e' ∨ c = 'E' then
        let (negative, rest) : Bool × Input :=
          match rest with
          | some '-' :: rest => (true, rest)
          | some '+' :: rest => (false, rest)
          | rest => (false, rest)
        match readDigits rest with
        | ([], _) => none
        | (digits, rest) => some (some (negative, digits), rest)
      else some (none, input)
  | _ => some (none, input)

theorem readExponent_length {input rest : Input} {e : Option (Bool × List Nat)}
    (h : readExponent input = some (e, rest)) : rest.length ≤ input.length := by
  unfold readExponent at h
  have := readDigits_length
  grind

/-- A number without its sign. Its whole part has no zero before other digits; a point has digits
    after it. -/
def readUnsigned (negative : Bool) (input : Input) : Option (Numeral × Input) :=
  match readDigits input with
  | ([], _) => none
  | (whole, rest) =>
      if whole.length > 1 ∧ whole.head? = some 0 then none
      else
        match rest with
        | some '.' :: rest =>
            match readDigits rest with
            | ([], _) => none
            | (fraction, rest) =>
                (readExponent rest).map fun (e, rest) => (⟨negative, whole, fraction, e⟩, rest)
        | rest => (readExponent rest).map fun (e, rest) => (⟨negative, whole, [], e⟩, rest)

theorem readUnsigned_length {negative : Bool} {input rest : Input} {n : Numeral}
    (h : readUnsigned negative input = some (n, rest)) : rest.length < input.length := by
  unfold readUnsigned at h
  split at h
  · simp at h
  · next whole after hne heq =>
      have hlt : after.length < input.length := by
        have := @readDigits_length_lt input
        simp_all
      split at h
      · simp at h
      · split at h
        · next point =>
            split at h
            · simp at h
            · next heq' =>
                obtain ⟨⟨e, last⟩, he, h⟩ := Option.map_eq_some_iff.1 h
                obtain ⟨-, rfl⟩ := Prod.mk.inj h
                have h₁ := readExponent_length he
                have h₂ := readDigits_length point
                simp only [heq'] at h₂
                simp only [List.length_cons] at hlt
                omega
        · obtain ⟨⟨e, last⟩, he, h⟩ := Option.map_eq_some_iff.1 h
          obtain ⟨-, rfl⟩ := Prod.mk.inj h
          exact Nat.lt_of_le_of_lt (readExponent_length he) hlt

/-! ## The next lexeme -/

/-- The text after these very characters. -/
def afterWord (word : List Char) (input : Input) : Option Input :=
  if (word.map some).isPrefixOf input then some (input.drop word.length) else none

theorem afterWord_length {word : List Char} {input rest : Input}
    (h : afterWord word input = some rest) : rest.length ≤ input.length := by
  unfold afterWord at h
  split at h
  · obtain rfl := Option.some.inj h
    simp
  · simp at h

/-- The lexeme that opens with `c`, and the text after it. -/
def Lexeme.first? (c : Char) (rest : Input) : Option (Lexeme × Input) :=
  match c with
  | '\x7b' => some (.openObject, rest)
  | '\x7d' => some (.closeObject, rest)
  | '[' => some (.openArray, rest)
  | ']' => some (.closeArray, rest)
  | ':' => some (.colon, rest)
  | ',' => some (.comma, rest)
  | '"' => (readText rest).map fun r => (.text r.1, r.2)
  | 'n' => (afterWord ['u', 'l', 'l'] rest).map fun rest => (.null, rest)
  | 't' => (afterWord ['r', 'u', 'e'] rest).map fun rest => (.bool true, rest)
  | 'f' => (afterWord ['a', 'l', 's', 'e'] rest).map fun rest => (.bool false, rest)
  | '-' => (readUnsigned true rest).map fun r => (.number r.1, r.2)
  | c => (readUnsigned false (some c :: rest)).map fun r => (.number r.1, r.2)

theorem Lexeme.first?_length {c : Char} {input rest : Input} {l : Lexeme}
    (h : Lexeme.first? c input = some (l, rest)) : rest.length ≤ input.length := by
  unfold Lexeme.first? at h
  split at h
  case h_7 =>
    obtain ⟨⟨symbols, r⟩, hr, h⟩ := Option.map_eq_some_iff.1 h
    obtain ⟨-, rfl⟩ := Prod.mk.inj h
    exact Nat.le_of_lt (readText_length hr)
  case h_11 =>
    obtain ⟨⟨n, r⟩, hr, h⟩ := Option.map_eq_some_iff.1 h
    obtain ⟨-, rfl⟩ := Prod.mk.inj h
    exact Nat.le_of_lt (readUnsigned_length hr)
  case h_12 =>
    obtain ⟨⟨n, r⟩, hr, h⟩ := Option.map_eq_some_iff.1 h
    obtain ⟨-, rfl⟩ := Prod.mk.inj h
    exact Nat.le_of_lt_succ (readUnsigned_length hr)
  case h_8 | h_9 | h_10 =>
    obtain ⟨r, hr, h⟩ := Option.map_eq_some_iff.1 h
    obtain ⟨-, rfl⟩ := Prod.mk.inj h
    exact afterWord_length hr
  all_goals
    obtain ⟨-, rfl⟩ := Prod.mk.inj (Option.some.inj h)
    exact Nat.le_refl _

/-- The next lexeme and the text after it; nothing at the end of the text and where no lexeme can
    be read. -/
def nextLexeme? (input : Input) : Option (Lexeme × Input) :=
  match input.dropWhile isSeparator with
  | [] => none
  | none :: _ => none
  | some c :: rest => Lexeme.first? c rest

theorem nextLexeme?_length {input rest : Input} {l : Lexeme}
    (h : nextLexeme? input = some (l, rest)) : rest.length < input.length := by
  have hle := (List.dropWhile_sublist (l := input) isSeparator).length_le
  unfold nextLexeme? at h
  split at h
  · simp at h
  · simp at h
  · next c after heq =>
      rw [heq] at hle
      exact Nat.lt_of_lt_of_le (Nat.lt_succ_of_le (Lexeme.first?_length h)) hle

/-! ## Documents -/

/-- The lexemes of a text, up to its end or to the first place where none can be read. A reader who
    runs out of them before it has what it wants cannot tell the two apart, and need not. -/
structure Document where
  lexemes : List Lexeme
  /-- Was the end of the text reached? -/
  isComplete : Bool
  deriving DecidableEq, Repr

def Document.ofInput (input : Input) : Document :=
  match _h : nextLexeme? input with
  | none => ⟨[], (input.dropWhile isSeparator).isEmpty⟩
  | some (l, rest) =>
      let d := ofInput rest
      ⟨l :: d.lexemes, d.isComplete⟩
termination_by input.length
decreasing_by exact nextLexeme?_length ‹_›

def Document.ofString (s : String) : Document := ofInput (Input.ofString s)

end Playground.Json
