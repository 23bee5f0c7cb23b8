import Playground.Machine.Bytes

set_option autoImplicit false

/-! # Arithmetic

Expressions over whole numbers of 64 bits that wrap around. Names stand for the numbers that
variables hold; a variable without a value holds zero. Only what has to be evaluated is: the branch
that is not taken assigns nothing and divides by nothing. -/

namespace Playground.Shell.Arithmetic

open Machine (Bytes)

/-- A number in the range of 64 bits with a sign. -/
def wrap (i : Int) : Int := Int.bmod i (1 <<< 64)

/-! ## Tokens -/

inductive Token where
  | number (n : Int)
  | name (b : Bytes)
  | operator (s : String)
  deriving DecidableEq, Repr

/-- All operators, each before those that it begins with. -/
def operators : List String :=
  ["<<=", ">>=", "<<", ">>", "<=", ">=", "==", "!=", "&&", "||", "*=", "/=", "%=", "+=", "-=",
    "&=", "^=", "|=", "+", "-", "*", "/", "%", "<", ">", "=", "!", "~", "&", "|", "^", "?", ":",
    "(", ")", ","]

/-- A number in base ten, or in another one that its beginning names. -/
def readNumber (b : Bytes) : Option (Int × Bytes) :=
  match b with
  | '0' :: x :: rest =>
      if x = 'x' ∨ x = 'X' then
        let digits := rest.takeWhile fun c => (Bytes.hexValue? c).isSome
        if digits.isEmpty then none
        else some (wrap (Bytes.hexNumber digits), rest.drop digits.length)
      else
        let digits := b.takeWhile Char.isDigit
        if digits.all Bytes.isOctalDigit then
          some (wrap (Bytes.octalValue digits), b.drop digits.length)
        else none
  | b =>
      let digits := b.takeWhile Char.isDigit
      if digits.isEmpty then none
      else some (min (Bytes.digitsValue digits : Int) ((1 <<< 63 : Nat) - 1), b.drop digits.length)

def tokenize (steps : Nat) (b : Bytes) : Option (List Token) :=
  match steps, b with
  | 0, _ => none
  | _, [] => some []
  | steps + 1, c :: cs =>
      if Bytes.isSpace c then tokenize steps cs
      else if c.isDigit then
        match readNumber (c :: cs) with
        | some (n, rest) =>
            match rest with
            | d :: _ => if Bytes.isNameChar d then none
                else (tokenize steps rest).map (.number n :: ·)
            | [] => some [.number n]
        | none => none
      else if Bytes.isNameStart c then
        let name := (c :: cs).takeWhile Bytes.isNameChar
        (tokenize steps ((c :: cs).drop name.length)).map (.name name :: ·)
      else
        match operators.find? fun s => s.toList.isPrefixOf (c :: cs) with
        | some s => (tokenize steps ((c :: cs).drop s.length)).map (.operator s :: ·)
        | none => none

/-! ## Evaluation -/

/-- Why an expression has no value. -/
inductive Fault where
  | expectingPrimary
  | expectingEnd
  | expecting (what : String)
  | divisionByZero
  | illegalNumber (b : Bytes)
  deriving DecidableEq, Repr

structure State where
  tokens : List Token
  values : List (Bytes × Bytes)
  /-- What has been assigned, last first. -/
  assigned : List (Bytes × Bytes)

abbrev Evaluator := StateT State (Except Fault)

namespace Evaluator

def peek : Evaluator (Option Token) := do return (← get).tokens.head?

def drop : Evaluator Unit := modify fun s => { s with tokens := s.tokens.drop 1 }

/-- Takes an operator if it is one of these. -/
def accept (names : List String) : Evaluator (Option String) := do
  match ← peek with
  | some (.operator s) =>
      if names.contains s then
        drop
        return some s
      else return none
  | _ => return none

/-- The number that a variable holds. -/
def valueOf (name : Bytes) : Evaluator Int := do
  match (← get).values.lookup name with
  | none => return 0
  | some b =>
      let trimmed := ((b.dropWhile Bytes.isSpace).reverse.dropWhile Bytes.isSpace).reverse
      let (isNegative, digits) :=
        match trimmed with
        | '-' :: rest => (true, rest)
        | '+' :: rest => (false, rest)
        | rest => (false, rest)
      if trimmed.isEmpty then return 0
      else
        match readNumber digits with
        | some (n, []) => return wrap (if isNegative then -n else n)
        | _ => throw (.illegalNumber b)

def assign (name : Bytes) (n : Int) : Evaluator Unit :=
  modify fun s =>
    let entry := (name, Bytes.ofInt n)
    { s with
      values := entry :: s.values.filter fun e => e.1 != name
      assigned := entry :: s.assigned.filter fun e => e.1 != name }

def truth (b : Bool) : Int := if b then 1 else 0

/-- Two numbers as sequences of 64 bits. -/
def onBits (f : Nat → Nat → Nat) (a b : Int) : Int :=
  wrap (f (a % (1 <<< 64 : Nat)).toNat (b % (1 <<< 64 : Nat)).toNat)

def shiftLeft (a b : Int) : Int := wrap (a * (1 <<< (b % 64).toNat : Nat))

def shiftRight (a b : Int) : Int := Int.fdiv a (1 <<< (b % 64).toNat : Nat)

/-- The value of an operation on two numbers. -/
def apply (operator : String) (a b : Int) : Except Fault Int :=
  match operator with
  | "+" => .ok (wrap (a + b))
  | "-" => .ok (wrap (a - b))
  | "*" => .ok (wrap (a * b))
  | "/" => if b = 0 then .error .divisionByZero else .ok (wrap (Int.tdiv a b))
  | "%" => if b = 0 then .error .divisionByZero else .ok (wrap (Int.tmod a b))
  | "<<" => .ok (shiftLeft a b)
  | ">>" => .ok (shiftRight a b)
  | "<" => .ok (truth (a < b))
  | "<=" => .ok (truth (a ≤ b))
  | ">" => .ok (truth (b < a))
  | ">=" => .ok (truth (b ≤ a))
  | "==" => .ok (truth (a == b))
  | "!=" => .ok (truth (a != b))
  | "&" => .ok (onBits Nat.land a b)
  | "^" => .ok (onBits Nat.xor a b)
  | "|" => .ok (onBits Nat.lor a b)
  | _ => .error .expectingEnd

/-- The operators of two operands that bind alike, the loosest first. -/
def levels : List (List String) :=
  [["|"], ["^"], ["&"], ["==", "!="], ["<", "<=", ">", ">="], ["<<", ">>"], ["+", "-"],
    ["*", "/", "%"]]

def assignments : List String :=
  ["=", "*=", "/=", "%=", "+=", "-=", "<<=", ">>=", "&=", "^=", "|="]

/-- An operation whose value may not be wanted. -/
def applyIf (isWanted : Bool) (operator : String) (a b : Int) : Evaluator Int :=
  if isWanted then
    match apply operator a b with
    | .ok n => return n
    | .error e => throw e
  else return 0

mutual

/-- An assignment, or a choice. -/
def expression (steps : Nat) (isWanted : Bool) : Evaluator Int :=
  match steps with
  | 0 => throw .expectingPrimary
  | steps + 1 => do
      match (← get).tokens with
      | .name name :: .operator s :: _ =>
          if assignments.contains s then
            drop
            drop
            let n ← expression steps isWanted
            let n ←
              if s = "=" then pure n
              else do
                let old ← if isWanted then valueOf name else pure 0
                applyIf isWanted (String.ofList s.toList.dropLast) old n
            if isWanted then assign name n
            return n
          else choice steps isWanted
      | _ => choice steps isWanted
  termination_by structural steps

def choice (steps : Nat) (isWanted : Bool) : Evaluator Int :=
  match steps with
  | 0 => throw .expectingPrimary
  | steps + 1 => do
      let test ← disjunction steps isWanted
      match ← accept ["?"] with
      | none => return test
      | some _ =>
          let a ← expression steps (isWanted && test != 0)
          match ← accept [":"] with
          | none => throw (.expecting "':'")
          | some _ =>
              let b ← choice steps (isWanted && test == 0)
              return if test != 0 then a else b
  termination_by structural steps

def disjunction (steps : Nat) (isWanted : Bool) : Evaluator Int :=
  match steps with
  | 0 => throw .expectingPrimary
  | steps + 1 => do
      let a ← conjunction steps isWanted
      match ← accept ["||"] with
      | none => return a
      | some _ =>
          let b ← disjunction steps (isWanted && a == 0)
          return truth (a != 0 || b != 0)
  termination_by structural steps

def conjunction (steps : Nat) (isWanted : Bool) : Evaluator Int :=
  match steps with
  | 0 => throw .expectingPrimary
  | steps + 1 => do
      let a ← binary steps isWanted levels
      match ← accept ["&&"] with
      | none => return a
      | some _ =>
          let b ← conjunction steps (isWanted && a != 0)
          return truth (a != 0 && b != 0)
  termination_by structural steps

/-- An operand of operators that bind as tightly as the first of these levels. -/
def binary (steps : Nat) (isWanted : Bool) (levels : List (List String)) : Evaluator Int :=
  match steps, levels with
  | 0, _ => throw .expectingPrimary
  | steps + 1, [] => unary steps isWanted
  | steps + 1, level :: tighter => do
      let a ← binary steps isWanted tighter
      binaryRest steps isWanted level tighter a
  termination_by structural steps

def binaryRest (steps : Nat) (isWanted : Bool) (level : List String)
    (tighter : List (List String)) (a : Int) : Evaluator Int :=
  match steps with
  | 0 => throw .expectingPrimary
  | steps + 1 => do
      match ← accept level with
      | none => return a
      | some operator =>
          let b ← binary steps isWanted tighter
          binaryRest steps isWanted level tighter (← applyIf isWanted operator a b)
  termination_by structural steps

def unary (steps : Nat) (isWanted : Bool) : Evaluator Int :=
  match steps with
  | 0 => throw .expectingPrimary
  | steps + 1 => do
      match ← accept ["!", "~", "-", "+"] with
      | some "!" => return truth ((← unary steps isWanted) == 0)
      | some "~" => return wrap (-(← unary steps isWanted) - 1)
      | some "-" => return wrap (-(← unary steps isWanted))
      | some _ => unary steps isWanted
      | none =>
          match ← peek with
          | some (.number n) =>
              drop
              return n
          | some (.name name) =>
              drop
              if isWanted then valueOf name else return 0
          | some (.operator "(") =>
              drop
              let n ← expression steps isWanted
              match ← accept [")"] with
              | some _ => return n
              | none => throw (.expecting "')'")
          | _ => throw .expectingPrimary
  termination_by structural steps

end

end Evaluator

/-- The value of an expression and what it assigns, the last assignment first. -/
def evaluate (values : List (Bytes × Bytes)) (text : Bytes) :
    Except Fault (Int × List (Bytes × Bytes)) :=
  if text.all Bytes.isSpace then .ok (0, [])
  else
    match tokenize (text.length + 1) text with
    | none => .error .expectingEnd
    | some tokens =>
        let steps := 32 * tokens.length + 64
        match (Evaluator.expression steps true).run ⟨tokens, values, []⟩ with
        | .error e => .error e
        | .ok (n, s) => if s.tokens.isEmpty then .ok (n, s.assigned) else .error .expectingEnd

def Fault.message (text : Bytes) : Fault → Bytes
  | .illegalNumber b => "Illegal number: ".toList ++ b
  | f =>
      let what :=
        match f with
        | .expectingPrimary => "expecting primary"
        | .expectingEnd => "expecting EOF"
        | .expecting what => "expecting " ++ what
        | .divisionByZero => "division by zero"
        | .illegalNumber _ => ""
      ("arithmetic expression: " ++ what ++ ": \"").toList ++ text ++ ['"']

end Playground.Shell.Arithmetic
