import Playground.Machine.Program

set_option autoImplicit false

/-! # Conditions

Conditions compare texts and numbers, ask about files, and are joined by operators. They come as
arguments, one word each, so what a word means depends on the words around it. -/

namespace Playground.Tool

open Machine (Bytes Script Node Status)

namespace Condition

def unaryOperators : List String :=
  ["-b", "-c", "-d", "-e", "-f", "-g", "-h", "-k", "-L", "-n", "-p", "-r", "-s", "-S", "-t", "-u",
    "-w", "-x", "-z", "-O", "-G"]

def binaryOperators : List String :=
  ["=", "==", "!=", "<", ">", "-eq", "-ne", "-lt", "-le", "-gt", "-ge", "-nt", "-ot", "-ef"]

def isUnary (b : Bytes) : Bool := unaryOperators.contains (String.ofList b)

/-- Is a word an operator between two operands? One of them is known to some only. -/
def isBinary (isExtended : Bool) (b : Bytes) : Bool :=
  binaryOperators.contains (String.ofList b) && (isExtended || b != ['=', '='])

/-! ## Files -/

def isFile (n : Node) : Bool :=
  match n.entry with
  | .file _ => true
  | _ => false

def isDirectory (n : Node) : Bool :=
  match n.entry with
  | .directory => true
  | _ => false

def isLink (n : Node) : Bool :=
  match n.entry with
  | .link _ => true
  | _ => false

def isDevice (n : Node) : Bool :=
  match n.entry with
  | .device _ => true
  | _ => false

def isEmptyFile (n : Node) : Bool :=
  match n.entry with
  | .file contents => contents.isEmpty
  | .device _ => true
  | .pipe => true
  | _ => false

def status? (name : Bytes) (follow : Bool) : Script (Option Status) := do
  match ← Script.ask (.status (Bytes.toText name) follow) with
  | .ok s => return some s
  | .error _ => return none

/-- What a question about a file is answered with. -/
def aboutFile (operator : String) (name : Bytes) : Script Bool := do
  let isLinkTest := operator == "-h" || operator == "-L"
  match ← status? name !isLinkTest with
  | none => return false
  | some s =>
      return match operator with
        | "-d" => isDirectory s.node
        | "-f" => isFile s.node
        | "-h" => isLink s.node
        | "-L" => isLink s.node
        | "-c" => isDevice s.node
        | "-p" => s.node.entry == .pipe
        | "-s" => !isEmptyFile s.node
        | "-x" => isDirectory s.node || s.node.mode &&& 0o111 != 0
        | "-e" => true
        | "-r" => true
        | "-w" => true
        | "-O" => true
        | "-G" => true
        | "-u" => s.node.mode &&& 0o4000 != 0
        | "-g" => s.node.mode &&& 0o2000 != 0
        | "-k" => s.node.mode &&& 0o1000 != 0
        | _ => false

def trim (b : Bytes) : Bytes :=
  ((b.dropWhile Bytes.isSpace).reverse.dropWhile Bytes.isSpace).reverse

def number (b : Bytes) : Except Bytes Int :=
  match Bytes.toInt? (trim b) with
  | some n => .ok n
  | none => .error ("Illegal number: ".toList ++ b)

/-- A question about one operand. No descriptor is a terminal. -/
def unary (operator : String) (operand : Bytes) : Script (Except Bytes Bool) :=
  match operator with
  | "-n" => return .ok !operand.isEmpty
  | "-z" => return .ok operand.isEmpty
  | "-t" => return (number operand).map fun _ => false
  | operator => do return .ok (← aboutFile operator operand)

/-! ## Comparisons -/

def compareNumbers (operator : String) (a b : Int) : Bool :=
  match operator with
  | "-eq" => a == b
  | "-ne" => a != b
  | "-lt" => a < b
  | "-le" => a ≤ b
  | "-gt" => b < a
  | _ => b ≤ a

def binary (operator : String) (a b : Bytes) : Script (Except Bytes Bool) :=
  match operator with
  | "=" => return .ok (a == b)
  | "==" => return .ok (a == b)
  | "!=" => return .ok (a != b)
  | "<" => return .ok (a != b && Bytes.before a b)
  | ">" => return .ok (a != b && Bytes.before b a)
  | "-nt" => do return .ok ((← status? a true).isSome && (← status? b true).isNone)
  | "-ot" => do return .ok ((← status? a true).isNone && (← status? b true).isSome)
  | "-ef" => do
      match ← status? a true, ← status? b true with
      | some s, some t => return .ok (s.location == t.location)
      | _, _ => return .ok false
  | operator =>
      match number a, number b with
      | .ok m, .ok n => return .ok (compareNumbers operator m n)
      | .error e, _ => return .error e
      | _, .error e => return .error e

/-! ## Expressions -/

/-- The value of an expression and the words after it. -/
abbrev Outcome := Except Bytes (Bool × List Bytes)

mutual

/-- Conditions of which one has to hold. -/
def disjunction (isExtended : Bool) (steps : Nat) (words : List Bytes) : Script Outcome :=
  match steps with
  | 0 => return .error "too deep".toList
  | steps + 1 => do
      match ← conjunction isExtended steps words with
      | .ok (a, ['-', 'o'] :: rest) =>
          match ← disjunction isExtended steps rest with
          | .ok (b, rest) => return .ok (a || b, rest)
          | .error e => return .error e
      | result => return result
  termination_by structural steps

/-- Conditions all of which have to hold. -/
def conjunction (isExtended : Bool) (steps : Nat) (words : List Bytes) : Script Outcome :=
  match steps with
  | 0 => return .error "too deep".toList
  | steps + 1 => do
      match ← negation isExtended steps words with
      | .ok (a, ['-', 'a'] :: rest) =>
          match ← conjunction isExtended steps rest with
          | .ok (b, rest) => return .ok (a && b, rest)
          | .error e => return .error e
      | result => return result
  termination_by structural steps

def negation (isExtended : Bool) (steps : Nat) (words : List Bytes) : Script Outcome :=
  match steps with
  | 0 => return .error "too deep".toList
  | steps + 1 => do
      match words with
      | ['!'] :: word :: rest =>
          if isBinary isExtended word && 0 < rest.length then primary isExtended steps words
          else
            match ← negation isExtended steps (word :: rest) with
            | .ok (b, rest) => return .ok (!b, rest)
            | .error e => return .error e
      | words => primary isExtended steps words
  termination_by structural steps

def primary (isExtended : Bool) (steps : Nat) (words : List Bytes) : Script Outcome :=
  match steps with
  | 0 => return .error "too deep".toList
  | steps + 1 => do
      match words with
      | [] => return .ok (false, [])
      | [word] =>
          if isUnary word && word != ['-', 't'] then
            return .error (word ++ ": argument expected".toList)
          else return .ok (!word.isEmpty, [])
      | word :: operator :: rest =>
          if isBinary isExtended operator && 0 < rest.length then
            match ← binary (String.ofList operator) word (rest.headD []) with
            | .ok b => return .ok (b, rest.drop 1)
            | .error e => return .error e
          else if word = ['('] then
            match ← disjunction isExtended steps (operator :: rest) with
            | .ok (b, [')'] :: rest) => return .ok (b, rest)
            | .ok _ => return .error "closing paren expected".toList
            | .error e => return .error e
          else if isUnary word then
            match ← unary (String.ofList word) operator with
            | .ok b => return .ok (b, rest)
            | .error e => return .error e
          else if isBinary isExtended operator then
            return .error (operator ++ ": argument expected".toList)
          else return .ok (!word.isEmpty, operator :: rest)
  termination_by structural steps

end

/-- Does the condition hold that these words state? A single word is a text, whatever it is. -/
def holds (isExtended : Bool) (words : List Bytes) : Script (Except Bytes Bool) := do
  match words with
  | [] => return .ok false
  | [word] => return .ok (!word.isEmpty)
  | [['!'], word] => return .ok word.isEmpty
  | words =>
      match ← disjunction isExtended (8 * words.length + 8) words with
      | .ok (b, []) => return .ok b
      | .ok (_, rest) =>
          let last := words.getD (words.length - rest.length - 1) []
          return .error (last ++ ": unexpected operator".toList)
      | .error e => return .error e

/-- The words of a condition between brackets, without the closing one. -/
def bracketed (words : List Bytes) : Except Bytes (List Bytes) :=
  if words.getLast? == some [']'] then .ok words.dropLast else .error "missing ]".toList

end Condition

end Playground.Tool
