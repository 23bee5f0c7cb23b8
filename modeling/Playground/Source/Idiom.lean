import Playground.Text.Class

set_option autoImplicit false

/-! # Idioms

Some shapes of text say more about a language than any single token: `public class`, a line that
ends in a colon after `if`. An **idiom** is a list of such shapes. Each shape is a sequence of
steps: a character of a class, as many characters of a class as can be taken, or a condition on
the two characters around a place. An idiom matches at a place if one of its shapes does, and the
first of them that does says where the match ends.

The occurrences of an idiom in a text are counted from left to right: at each place the idiom is
tried; where it matches, the count goes on after the match, else one character further on. -/

namespace Playground.Source

open Playground.Text

/-! ## Steps -/

/-- A class of characters. -/
inductive CharClass where
  | only (c : Char)
  | anyOf (cs : List Char)
  | noneOf (cs : List Char)
  | blank
  | wordStart
  | word
  /-- Word characters, dots and slashes: what a header's name is made of. -/
  | headerPath
  deriving DecidableEq, Repr

def CharClass.has : CharClass → Char → Bool
  | .only d, c => c == d
  | .anyOf cs, c => cs.contains c
  | .noneOf cs, c => !cs.contains c
  | .blank, c => isBlank c
  | .wordStart, c => isWordStart c
  | .word, c => isWord c
  | .headerPath, c => isWord c || c == '.' || c == '/'

inductive Step where
  /-- One character of the class. -/
  | one (k : CharClass)
  /-- Any number of characters of the class, as many as leave the remaining steps a match. -/
  | many (k : CharClass)
  /-- One of the characters around this place continues a word, the other does not. -/
  | wordEdge
  | lineStart
  | lineEnd
  deriving DecidableEq, Repr

/-- Is there a word character on one side of a place and none on the other? -/
def isWordEdge (before after : Option Char) : Bool := before.any isWord != after.any isWord

/-- How many characters the steps match at a place between characters, which is given by the
    character before it, if there is one, and the text after it. Longer choices are tried before
    shorter ones. -/
def matchLength? (before : Option Char) (after : List Char) : List Step → Option Nat
  | [] => some 0
  | .one k :: steps =>
      match after with
      | [] => none
      | c :: cs => if k.has c then (matchLength? (some c) cs steps).map (· + 1) else none
  | .many k :: steps =>
      match after with
      | [] => matchLength? before [] steps
      | c :: cs =>
          if k.has c then
            match matchLength? (some c) cs (.many k :: steps) with
            | some n => some (n + 1)
            | none => matchLength? before (c :: cs) steps
          else matchLength? before (c :: cs) steps
  | .wordEdge :: steps =>
      if isWordEdge before after.head? then matchLength? before after steps else none
  | .lineStart :: steps =>
      if before.all (· == '\n') then matchLength? before after steps else none
  | .lineEnd :: steps =>
      if after.head?.all (· == '\n') then matchLength? before after steps else none
termination_by steps => (steps.length, after.length)

/-! ## Idioms and their occurrences -/

/-- Shapes of text that count as one idiom, in the order in which they are tried. -/
abbrev Idiom := List (List Step)

/-- How many characters an idiom matches at a place. -/
def Idiom.matchLength? (i : Idiom) (before : Option Char) (after : List Char) : Option Nat :=
  i.findSome? (Source.matchLength? before after)

/-- How often an idiom occurs from a place on, without overlap. The next `passed` characters belong
    to an occurrence that has been counted. An occurrence covers at least one character. -/
def Idiom.countFrom (i : Idiom) (before : Option Char) (passed : Nat) : List Char → Nat
  | [] => 0
  | c :: cs =>
      match passed with
      | passed + 1 => i.countFrom (some c) passed cs
      | 0 =>
          match i.matchLength? before (c :: cs) with
          | some n => 1 + i.countFrom (some c) (n - 1) cs
          | none => i.countFrom (some c) 0 cs

/-- How often an idiom occurs in a text. -/
def Idiom.count (i : Idiom) (text : List Char) : Nat := i.countFrom none 0 text

/-! ## Building shapes -/

/-- These very characters. -/
def spelled (s : String) : List Step := s.toList.map fun c => .one (.only c)

/-- Blanks, at least one of them. -/
def someBlanks : List Step := [.one .blank, .many .blank]

/-- Blanks, if there are any. -/
def anyBlanks : List Step := [.many .blank]

/-- Spaces and tabs, if there are any. -/
def indentation : List Step := [.many (.anyOf [' ', '\t'])]

/-- Word characters, at least one of them. -/
def someWord : List Step := [.one .word, .many .word]

end Playground.Source
