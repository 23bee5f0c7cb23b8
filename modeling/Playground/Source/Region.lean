import Playground.Text.Class

set_option autoImplicit false

/-! # Regions of a source text

Before a snippet is split into tokens, what its author wrote *about* the code is taken out: the
contents of literals and all comments. A source is cut into **regions**, from left to right, and
each region is rendered on its own:

* a character of code stands for itself;
* a literal becomes the placeholder `""` with a space on each side;
* a line comment, opened by `//` or by a `#` that opens no directive, becomes nothing (the newline
  that ends it is code);
* a block comment becomes its own newlines, or one space if it has none.

One bit of state passes from region to region: whether only blanks have been seen since the line
began, for only there can `#` open a directive. The rules are the same for every language, since
the language is what is being guessed.

Nothing is lost by the cut (`flatMap_text_regionsFrom`), so each statement about the stripped text
can be read off the regions. -/

namespace Playground.Source

open Playground.Text

/-- One stretch of a source text. -/
inductive Region where
  | code (c : Char)
  | literal (text : List Char)
  | lineComment (text : List Char)
  | blockComment (text : List Char)
  deriving DecidableEq, Repr

/-- The characters of the source that a region covers. -/
def Region.text : Region → List Char
  | .code c => [c]
  | .literal t => t
  | .lineComment t => t
  | .blockComment t => t

/-! ## Where a literal or comment ends

Each function takes the text after an opening and returns what belongs to the region and what
follows it. -/

/-- Up to and with the closing quote `q`. A backslash takes the next character with it, whatever
    it is; a newline that is not so taken ends the literal and stays outside. -/
def splitPlain (q : Char) : List Char → List Char × List Char
  | [] => ([], [])
  | [c] => if c = '\n' then ([], [c]) else ([c], [])
  | c :: d :: cs =>
      if c = '\\' then
        let r := splitPlain q cs
        (c :: d :: r.1, r.2)
      else if c = '\n' then ([], c :: d :: cs)
      else if c = q then ([c], d :: cs)
      else
        let r := splitPlain q (d :: cs)
        (c :: r.1, r.2)

/-- Up to and with three quotes `q` in a row. A backslash takes the next character with it;
    newlines are like other characters. -/
def splitTriple (q : Char) : List Char → List Char × List Char
  | [] => ([], [])
  | [c] => ([c], [])
  | c :: d :: cs =>
      if c = '\\' then
        let r := splitTriple q cs
        (c :: d :: r.1, r.2)
      else if [q, q, q].isPrefixOf (c :: d :: cs) then ([q, q, q], cs.drop 1)
      else
        let r := splitTriple q (d :: cs)
        (c :: r.1, r.2)

/-- The rest of a literal whose opening quote `q` has been read: two more quotes make it a triple
    quoted one. -/
def splitLiteral (q : Char) (cs : List Char) : List Char × List Char :=
  if [q, q].isPrefixOf cs then
    let r := splitTriple q (cs.drop 2)
    (q :: q :: r.1, r.2)
  else splitPlain q cs

/-- Up to the end of the line; the newline stays outside. -/
def splitLine (cs : List Char) : List Char × List Char :=
  (cs.takeWhile (· != '\n'), cs.dropWhile (· != '\n'))

/-- Up to and with the first star that a slash follows. -/
def splitBlock : List Char → List Char × List Char
  | [] => ([], [])
  | c :: cs =>
      if ['*', '/'].isPrefixOf (c :: cs) then (['*', '/'], cs.drop 1)
      else
        let r := splitBlock cs
        (c :: r.1, r.2)

theorem eq_of_isPrefixOf {p cs : List Char} (h : p.isPrefixOf cs = true) :
    p ++ cs.drop p.length = cs := by
  obtain ⟨t, rfl⟩ := List.isPrefixOf_iff_prefix.1 h
  simp

theorem splitPlain_append (q : Char) (cs : List Char) :
    (splitPlain q cs).1 ++ (splitPlain q cs).2 = cs := by
  fun_induction splitPlain q cs <;> simp_all +zetaDelta

theorem splitTriple_append (q : Char) (cs : List Char) :
    (splitTriple q cs).1 ++ (splitTriple q cs).2 = cs := by
  fun_induction splitTriple q cs with
  | case1 => rfl
  | case2 c => rfl
  | case3 d cs r ih => simpa [r] using ih
  | case4 c d cs _ h => simpa using eq_of_isPrefixOf h
  | case5 c d cs _ _ r ih => simpa [r] using ih

theorem splitLiteral_append (q : Char) (cs : List Char) :
    (splitLiteral q cs).1 ++ (splitLiteral q cs).2 = cs := by
  unfold splitLiteral
  split
  · next h =>
      have := eq_of_isPrefixOf h
      simpa [splitTriple_append] using this
  · exact splitPlain_append q cs

theorem splitLine_append (cs : List Char) : (splitLine cs).1 ++ (splitLine cs).2 = cs :=
  List.takeWhile_append_dropWhile

theorem splitBlock_append (cs : List Char) : (splitBlock cs).1 ++ (splitBlock cs).2 = cs := by
  fun_induction splitBlock cs with
  | case1 => rfl
  | case2 c cs h => simpa using eq_of_isPrefixOf h
  | case3 c cs _ r ih => simpa using ih

/-! ## Directives -/

/-- The words that make a `#` at the start of a line the opening of a directive. -/
def directiveWords : List (List Char) :=
  ["include", "define", "pragma", "ifdef", "ifndef", "endif", "if", "else", "undef"].map
    String.toList

/-- Does the text after a `#` name a directive? Spaces and tabs may come first; the name is the
    whole run of ASCII letters. -/
def opensDirective (cs : List Char) : Bool :=
  directiveWords.contains ((cs.dropWhile isSpaceOrTab).takeWhile Char.isAlpha)

/-! ## Cutting a source into regions -/

/-- The region that opens with `c`, and the text after it. -/
def Region.first (lineStart : Bool) (c : Char) (cs : List Char) : Region × List Char :=
  if c = '"' ∨ c = '\'' then
    let r := splitLiteral c cs
    (.literal (c :: r.1), r.2)
  else if c = '/' ∧ cs.head? = some '/' then
    let r := splitLine cs
    (.lineComment (c :: r.1), r.2)
  else if c = '/' ∧ cs.head? = some '*' then
    let r := splitBlock (cs.drop 1)
    (.blockComment (c :: '*' :: r.1), r.2)
  else if c = '#' ∧ ¬(lineStart ∧ opensDirective cs) then
    let r := splitLine cs
    (.lineComment (c :: r.1), r.2)
  else (.code c, cs)

theorem Region.first_append (lineStart : Bool) (c : Char) (cs : List Char) :
    (Region.first lineStart c cs).1.text ++ (Region.first lineStart c cs).2 = c :: cs := by
  unfold Region.first
  split
  · simp [Region.text, splitLiteral_append]
  · split
    · simp [Region.text, splitLine_append]
    · split
      · next h =>
          obtain ⟨-, h⟩ := h
          cases cs with
          | nil => simp at h
          | cons d cs =>
              simp only [List.head?_cons, Option.some.injEq] at h
              subst h
              simp [Region.text, splitBlock_append]
      · split
        · simp [Region.text, splitLine_append]
        · rfl

/-- A region covers at least the character that opens it. -/
theorem Region.first_ne_nil (lineStart : Bool) (c : Char) (cs : List Char) :
    (Region.first lineStart c cs).1.text ≠ [] := by
  unfold Region.first
  split
  · simp [Region.text]
  · split
    · simp [Region.text]
    · split
      · simp [Region.text]
      · split <;> simp [Region.text]

theorem Region.first_length (lineStart : Bool) (c : Char) (cs : List Char) :
    (Region.first lineStart c cs).2.length < (c :: cs).length := by
  have h := congrArg List.length (Region.first_append lineStart c cs)
  have hpos := List.length_pos_iff.2 (Region.first_ne_nil lineStart c cs)
  rw [List.length_append] at h
  omega

/-- Have only blanks been seen since the line began, once this region is read? -/
def Region.lineStart (before : Bool) : Region → Bool
  | .code c => c == '\n' || (before && isBlank c)
  | .literal _ => false
  | .lineComment _ => before
  | .blockComment t => before || t.contains '\n'

/-- The regions of a text that is read from the middle of a line or from its start. -/
def regionsFrom (lineStart : Bool) : List Char → List Region
  | [] => []
  | c :: cs =>
      let r := Region.first lineStart c cs
      r.1 :: regionsFrom (r.1.lineStart lineStart) r.2
termination_by cs => cs.length
decreasing_by exact Region.first_length lineStart c cs

@[simp] theorem regionsFrom_nil (lineStart : Bool) : regionsFrom lineStart [] = [] := by
  simp [regionsFrom]

theorem regionsFrom_cons (lineStart : Bool) (c : Char) (cs : List Char) :
    regionsFrom lineStart (c :: cs) =
      (Region.first lineStart c cs).1 ::
        regionsFrom ((Region.first lineStart c cs).1.lineStart lineStart)
          (Region.first lineStart c cs).2 := by
  rw [regionsFrom]

/-- The regions of a whole source. -/
def regions (source : List Char) : List Region := regionsFrom true source

/-- The regions, put together again, are the source. -/
theorem flatMap_text_regionsFrom (lineStart : Bool) (cs : List Char) :
    (regionsFrom lineStart cs).flatMap Region.text = cs := by
  fun_induction regionsFrom lineStart cs with
  | case1 => rfl
  | case2 lineStart c cs r ih =>
      rw [List.flatMap_cons, ih]
      exact Region.first_append lineStart c cs

/-! ## Rendering -/

/-- What stands in the stripped text for a literal, whatever was in it. -/
def placeholder : List Char := [' ', '"', '"', ' ']

/-- What stands in the stripped text for a region. -/
def Region.rendered : Region → List Char
  | .code c => [c]
  | .literal _ => placeholder
  | .lineComment _ => []
  | .blockComment t =>
      if t.contains '\n' then List.replicate (t.count '\n') '\n' else [' ']

/-- The source without the contents of its literals and without its comments. -/
def stripped (source : List Char) : List Char := (regions source).flatMap Region.rendered

/-- `stripped` on strings. -/
def strip (source : String) : String := String.ofList (stripped source.toList)

end Playground.Source
