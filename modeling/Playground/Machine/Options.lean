import Playground.Machine.Program

set_option autoImplicit false

/-! # Options

Programs agree on how they are told what to do: letters after a dash, names after two dashes, and
values for some of them. A program only says which letters and names it knows, and for which it
wants a value. A name may be shortened as long as it is clear which one is meant. -/

namespace Playground.Machine

/-- The options that were given, in order, each with its value. -/
structure Options where
  given : List (Char × Bytes)

namespace Options

def letters (o : Options) : List Char := o.given.map Prod.fst

/-- Was an option given? -/
def has (o : Options) (c : Char) : Bool := o.given.any fun entry => entry.1 == c

/-- All values of an option. -/
def values (o : Options) (c : Char) : List Bytes :=
  (o.given.filter fun entry => entry.1 == c).map Prod.snd

/-- The value of an option, which is the last one if it was given several times. -/
def value? (o : Options) (c : Char) : Option Bytes := (o.values c).getLast?

end Options

/-- What options a program knows. -/
structure Grammar where
  /-- Letters that stand alone. -/
  flags : String
  /-- Letters that take a value. -/
  valued : String := ""
  /-- Letters that take what is left of their word as a value, if anything is. -/
  attached : String := ""
  /-- Names, and the letters that they stand for. -/
  names : List (String × Char) := []
  /-- Letters whose names may be given a value, though they need none. -/
  relaxed : String := ""
  /-- Do options end where the first operand is? -/
  endsEarly : Bool := false

namespace Grammar

/-! ## Faults -/

inductive Fault where
  | unknownLetter (c : Char)
  | noValue (c : Char)
  | unknownName (word : Bytes)
  | ambiguous (word : Bytes) (candidates : List String)
  | noValueFor (name : String)
  | extraValueFor (name : String)

def quotedName (name : Bytes) : Bytes := "'--".toList ++ name ++ ['\'']

def Fault.message : Fault → Bytes
  | .unknownLetter c => "invalid option -- ".toList ++ Script.quoted [c]
  | .noValue c => "option requires an argument -- ".toList ++ Script.quoted [c]
  | .unknownName word => "unrecognized option ".toList ++ quotedName word
  | .ambiguous word candidates =>
      "option ".toList ++ quotedName word ++ " is ambiguous; possibilities:".toList ++
        candidates.flatMap fun name => ' ' :: quotedName name.toList
  | .noValueFor name => "option ".toList ++ quotedName name.toList ++
      " requires an argument".toList
  | .extraValueFor name => "option ".toList ++ quotedName name.toList ++
      " doesn't allow an argument".toList

/-! ## Reading -/

/-- The options of one word, without its dash. The value of the last may be the next word. -/
def readLetters (g : Grammar) : Bytes → List Bytes → Except Fault (List (Char × Bytes) × List Bytes)
  | [], rest => .ok ([], rest)
  | c :: cs, rest =>
      if g.flags.toList.contains c then
        (readLetters g cs rest).map fun (options, rest) => ((c, []) :: options, rest)
      else if g.valued.toList.contains c then
        match cs, rest with
        | [], [] => .error (.noValue c)
        | [], value :: rest => .ok ([(c, value)], rest)
        | cs, rest => .ok ([(c, cs)], rest)
      else if g.attached.toList.contains c then .ok ([(c, cs)], rest)
      else .error (.unknownLetter c)

/-- The names that a word may stand for: the one that it is, or those that it begins. -/
def candidates (g : Grammar) (word : Bytes) : List (String × Char) :=
  match g.names.find? fun entry => entry.1.toList == word with
  | some entry => [entry]
  | none => g.names.filter fun entry => word.isPrefixOf entry.1.toList

/-- The option of a word, without its two dashes. Its value may be the next word. -/
def readName (g : Grammar) (word : Bytes) (rest : List Bytes) :
    Except Fault ((Char × Bytes) × List Bytes) :=
  let name := word.takeWhile (· != '=')
  match g.candidates name, word.drop name.length with
  | [], _ => .error (.unknownName word)
  | (full, c) :: others, value =>
      if others.any fun entry => entry.2 != c then
        .error (.ambiguous word (full :: others.map Prod.fst))
      else if g.valued.toList.contains c then
        match value, rest with
        | _ :: value, rest => .ok ((c, value), rest)
        | [], value :: rest => .ok ((c, value), rest)
        | [], [] => .error (.noValueFor full)
      else
        match value with
        | [] => .ok ((c, []), rest)
        | _ :: value =>
            if g.relaxed.toList.contains c then .ok ((c, value), rest)
            else .error (.extraValueFor full)

/-- The options and the operands of some words, each step taking at least one word. -/
def readWords (g : Grammar) (steps : Nat) (words : List Bytes) :
    Except Fault (List (Char × Bytes) × List Bytes) :=
  match steps, words with
  | 0, _ => .ok ([], words)
  | _, [] => .ok ([], [])
  | steps + 1, word :: rest => do
      match word with
      | ['-', '-'] => return ([], rest)
      | '-' :: '-' :: name =>
          let (option, rest) ← g.readName name rest
          let (options, operands) ← g.readWords steps rest
          return (option :: options, operands)
      | '-' :: c :: cs =>
          let (found, rest) ← g.readLetters (c :: cs) rest
          let (options, operands) ← g.readWords steps rest
          return (found ++ options, operands)
      | operand =>
          if g.endsEarly then return ([], operand :: rest)
          else
            let (options, operands) ← g.readWords steps rest
            return (options, operand :: operands)

def read (g : Grammar) (words : List Bytes) : Except Fault (Options × List Bytes) :=
  (g.readWords words.length words).map fun (given, operands) => (⟨given⟩, operands)

end Grammar

/-! ## In programs -/

/-- Where more is said about a program. -/
def seeHelp (s : Start) : Bytes :=
  "\nTry '".toList ++ s.name ++ " --help' for more information.".toList

/-- Goes on with the options and the operands, or complains and ends with a code. -/
def withOptions (s : Start) (g : Grammar) (code : Nat)
    (body : Options → List Bytes → Script Nat) : Script Nat :=
  match g.read s.arguments with
  | .ok (options, operands) => body options operands
  | .error fault => do
      Script.complain s (fault.message ++ seeHelp s)
      return code

end Playground.Machine
