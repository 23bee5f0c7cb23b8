import Playground.Source.Vocabulary

set_option autoImplicit false

/-! # Tokens

A text is split into tokens at blanks and wherever one token ends and the next begins. Four kinds
are tried in turn, and each takes as much as it can: a chain of identifiers joined by `::`, a
number, a compound of some vocabulary, any other character. -/

namespace Playground.Source

open Playground.Text

inductive Token.Kind where
  | word
  | number
  | compound
  | symbol
  deriving DecidableEq, Repr

structure Token where
  kind : Token.Kind
  text : List Char
  deriving DecidableEq, Repr

/-- The rest of a chain of identifiers, and what follows: word characters, and `::` where an
    identifier follows it. -/
def splitChain : List Char → List Char × List Char
  | [] => ([], [])
  | c :: cs =>
      if isWord c then
        let r := splitChain cs
        (c :: r.1, r.2)
      else
        match c, cs with
        | ':', ':' :: d :: rest =>
            if isWordStart d then
              let r := splitChain rest
              (':' :: ':' :: d :: r.1, r.2)
            else ([], ':' :: ':' :: d :: rest)
        | c, cs => ([], c :: cs)

/-- The rest of a number, and what follows: digits, then at most one point with more digits, or
    none, after it. -/
def splitNumber (cs : List Char) : List Char × List Char :=
  let whole := cs.takeWhile isDigit
  match cs.dropWhile isDigit with
  | '.' :: rest => (whole ++ '.' :: rest.takeWhile isDigit, rest.dropWhile isDigit)
  | rest => (whole, rest)

theorem splitChain_append (cs : List Char) : (splitChain cs).1 ++ (splitChain cs).2 = cs := by
  fun_induction splitChain cs <;> simp_all +zetaDelta

theorem splitNumber_append (cs : List Char) : (splitNumber cs).1 ++ (splitNumber cs).2 = cs := by
  have h := List.takeWhile_append_dropWhile (p := isDigit) (l := cs)
  unfold splitNumber
  split
  · next rest hrest => rw [hrest] at h; simpa using h
  · exact h

/-- The token that opens with `c`, and the text after it. -/
def Token.first (c : Char) (cs : List Char) : Token × List Char :=
  if isWordStart c then
    let r := splitChain cs
    (⟨.word, c :: r.1⟩, r.2)
  else if isDigit c then
    let r := splitNumber cs
    (⟨.number, c :: r.1⟩, r.2)
  else
    match longestCompound? (c :: cs) with
    | some t => (⟨.compound, t⟩, cs.drop (t.length - 1))
    | none => (⟨.symbol, [c]⟩, cs)

theorem Token.first_length (c : Char) (cs : List Char) :
    (Token.first c cs).2.length ≤ cs.length := by
  unfold Token.first
  split
  · have h := congrArg List.length (splitChain_append cs)
    rw [List.length_append] at h
    show (splitChain cs).2.length ≤ cs.length
    omega
  · split
    · have h := congrArg List.length (splitNumber_append cs)
      rw [List.length_append] at h
      show (splitNumber cs).2.length ≤ cs.length
      omega
    · split <;> simp

/-- The tokens of a text. -/
def tokens : List Char → List Token
  | [] => []
  | c :: cs =>
      if isBlank c then tokens cs
      else
        let r := Token.first c cs
        r.1 :: tokens r.2
termination_by cs => cs.length
decreasing_by
  · simp
  · exact Nat.lt_succ_of_le (Token.first_length c cs)

end Playground.Source
