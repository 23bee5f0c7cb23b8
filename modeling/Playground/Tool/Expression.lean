import Playground.Tool.Regex
import Playground.Tool.Files

set_option autoImplicit false

/-! # Expressions as arguments

Numbers and texts joined by operators, each in an argument of its own. -/

namespace Playground.Tool

open Machine (Bytes Program Script Start)

namespace Expression

/-- The operators, the loosest first. -/
def levels : List (List String) :=
  [["|"], ["&"], ["<", "<=", "=", "==", "!=", ">=", ">"], ["+", "-"], ["*", "/", "%"], [":"]]

def isTrue (b : Bytes) : Bool := !b.isEmpty && Bytes.toInt? b != some 0

def truth (b : Bool) : Bytes := if b then ['1'] else ['0']

/-- Why an expression has no value. -/
inductive Fault where
  | missing
  | unclosed (found : Option Bytes)
  | unexpectedClose
  | unexpected (word : Bytes)
  | division
  | notInteger
  | badPattern (e : Regex.Fault)

/-- What is said about a fault in these words. Nothing can be missing but after the last one. -/
def Fault.message (words : List Bytes) : Fault → Bytes
  | .missing => "syntax error: missing argument after ".toList ++
      Script.quoted (words.getLastD [])
  | .unclosed none => "syntax error: expecting ')' after ".toList ++
      Script.quoted (words.getLastD [])
  | .unclosed (some word) => "syntax error: expecting ')' instead of ".toList ++
      Script.quoted word
  | .unexpectedClose => "syntax error: unexpected ')'".toList
  | .unexpected word => "syntax error: unexpected argument ".toList ++ Script.quoted word
  | .division => "division by zero".toList
  | .notInteger => "non-integer argument".toList
  | .badPattern e => e.message

/-- What an expression matches at the beginning of a text: its first group, or its length. -/
def matched (text pattern : Bytes) : Except Fault Bytes :=
  match Regex.read ⟨false, true⟩ pattern with
  | .error e => .error (.badPattern e)
  | .ok (r, groups) =>
      match Regex.matchAt? false r ⟨0, none, text, []⟩ with
      | some (m, p) =>
          .ok (if 0 < groups then (p.groups.lookup 1).getD [] else Bytes.ofNat m.length)
      | none => .ok (if 0 < groups then [] else ['0'])

def compare (operator : String) (a b : Bytes) : Bool :=
  match Bytes.toInt? a, Bytes.toInt? b with
  | some m, some n =>
      match operator with
      | "<" => m < n
      | "<=" => m ≤ n
      | ">" => n < m
      | ">=" => n ≤ m
      | "!=" => m != n
      | _ => m == n
  | _, _ =>
      match operator with
      | "<" => a != b && Bytes.before a b
      | "<=" => Bytes.before a b
      | ">" => a != b && Bytes.before b a
      | ">=" => Bytes.before b a
      | "!=" => a != b
      | _ => a == b

/-- The value of an operation, or what is wrong. -/
def apply (operator : String) (a b : Bytes) : Except Fault Bytes :=
  match operator with
  | "|" => .ok (if isTrue a then a else if isTrue b then b else ['0'])
  | "&" => .ok (if isTrue a && isTrue b then a else ['0'])
  | ":" => matched a b
  | operator =>
      if ["<", "<=", "=", "==", "!=", ">=", ">"].contains operator then
        .ok (truth (compare operator a b))
      else
        match Bytes.toInt? a, Bytes.toInt? b with
        | some m, some n =>
            match operator with
            | "+" => .ok (Bytes.ofInt (m + n))
            | "-" => .ok (Bytes.ofInt (m - n))
            | "*" => .ok (Bytes.ofInt (m * n))
            | "/" => if n = 0 then .error .division
                else .ok (Bytes.ofInt (Int.tdiv m n))
            | _ => if n = 0 then .error .division
                else .ok (Bytes.ofInt (Int.tmod m n))
        | _, _ => .error .notInteger

/-- The value of the beginning of an expression, and the words after it. -/
abbrev Outcome := Except Fault (Bytes × List Bytes)

mutual

/-- An operand of the operators of the first of these levels, and what it is joined to. -/
def level (steps : Nat) (levels : List (List String)) (words : List Bytes) : Outcome :=
  match steps, levels with
  | 0, _ => .error .missing
  | steps + 1, [] => operand steps words
  | steps + 1, names :: tighter =>
      match level steps tighter words with
      | .ok (a, rest) => rests steps names tighter a rest
      | .error e => .error e
  termination_by structural steps

def rests (steps : Nat) (names : List String) (tighter : List (List String)) (a : Bytes)
    (words : List Bytes) : Outcome :=
  match steps, words with
  | 0, _ => .error .missing
  | _, [] => .ok (a, [])
  | steps + 1, word :: rest =>
      if names.contains (String.ofList word) then
        match level steps tighter rest with
        | .error e => .error e
        | .ok (b, rest) =>
            match apply (String.ofList word) a b with
            | .ok value => rests steps names tighter value rest
            | .error e => .error e
      else .ok (a, word :: rest)
  termination_by structural steps

def operand (steps : Nat) (words : List Bytes) : Outcome :=
  match steps with
  | 0 => .error .missing
  | steps + 1 =>
      match words with
      | [] => .error .missing
      | ['('] :: rest =>
          match level steps levels rest with
          | .ok (a, [')'] :: rest) => .ok (a, rest)
          | .ok (_, rest) => .error (.unclosed rest.head?)
          | .error e => .error e
      | [')'] :: _ => .error .unexpectedClose
      | word :: rest =>
          match String.ofList word, rest with
          | "+", other :: rest => .ok (other, rest)
          | "+", [] => .error .missing
          | "length", rest => do
              let (a, rest) ← operand steps rest
              return (Bytes.ofNat a.length, rest)
          | "match", rest => do
              let (a, rest) ← operand steps rest
              let (b, rest) ← operand steps rest
              return (← matched a b, rest)
          | "index", rest => do
              let (a, rest) ← operand steps rest
              let (b, rest) ← operand steps rest
              let place := a.findIdx? fun c => b.contains c
              return (Bytes.ofNat ((place.map fun (i : Nat) => i + 1).getD 0), rest)
          | "substr", rest => do
              let (a, rest) ← operand steps rest
              let (b, rest) ← operand steps rest
              let (c, rest) ← operand steps rest
              let first := (Bytes.toNat? b).getD 0
              let size := (Bytes.toNat? c).getD 0
              return (if first = 0 then [] else (a.drop (first - 1)).take size, rest)
          | _, rest => .ok (word, rest)
  termination_by structural steps

end

def expr : Program := fun s => do
  let words := if s.arguments.head? == some ['-', '-'] then s.arguments.drop 1 else s.arguments
  let fault (e : Fault) : Script Nat := do
    Script.complain s (e.message words)
    return 2
  if words.isEmpty then
    Script.complain s ("missing operand".toList ++ Machine.seeHelp s)
    return 2
  else
    match level (64 * words.length + 64) levels words with
    | .error e => fault e
    | .ok (value, []) =>
        Script.printLine value
        return if isTrue value then 0 else 1
    | .ok (_, word :: _) => fault (.unexpected word)

end Expression

end Playground.Tool
