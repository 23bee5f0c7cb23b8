import Playground.Source.Region
import Playground.Source.Token

set_option autoImplicit false

/-! # Scores

The evidence for each language in a source: one point for every token that counts for it and one
for every occurrence of one of its idioms, both in the stripped text. The language with strictly
more points than each of the others is the guess. -/

namespace Playground.Source

/-- Points per language. -/
structure Scores where
  python : Nat
  java : Nat
  cpp : Nat
  deriving DecidableEq, Repr

namespace Scores

def zero : Scores := ⟨0, 0, 0⟩

def get (s : Scores) : Language → Nat
  | .python => s.python
  | .java => s.java
  | .cpp => s.cpp

/-- More points for one language. -/
def credit (s : Scores) (points : Nat) : Language → Scores
  | .python => { s with python := s.python + points }
  | .java => { s with java := s.java + points }
  | .cpp => { s with cpp := s.cpp + points }

theorem get_credit (s : Scores) (points : Nat) (l m : Language) :
    (s.credit points l).get m = s.get m + if l = m then points else 0 := by
  cases l <;> cases m <;> rfl

/-- One point for the language that a token counts for, if there is one. -/
def creditToken (s : Scores) (t : Token) : Scores :=
  match Language.owner? t.text with
  | some l => s.credit 1 l
  | none => s

/-- The points of a text whose literals and comments are gone. -/
def ofStripped (text : List Char) : Scores :=
  let byToken := (tokens text).foldl creditToken zero
  Language.all.foldl (fun s l => s.credit (l.vocabulary.countIdioms text) l) byToken

def ofSource (source : List Char) : Scores := ofStripped (stripped source)

/-- The highest of the scores. -/
def best (s : Scores) : Nat := (Language.all.map s.get).foldl max 0

/-- The one language with the highest score, unless that is zero or shared. -/
def verdict (s : Scores) : Detection :=
  if s.best = 0 then .undetected
  else
    match Language.all.filter fun l => s.get l == s.best with
    | [l] => .found l
    | _ => .undetected

end Scores

/-- The language a source is written in, as far as its text tells. -/
def detect (source : String) : Detection := (Scores.ofSource source.toList).verdict

end Playground.Source
