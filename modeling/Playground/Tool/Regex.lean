import Playground.Shell.Pattern

set_option autoImplicit false

/-! # Regular expressions

Expressions in the two usual spellings: in the basic one most operators are written with a
backslash, in the extended one without. Matching tries all ways to go on and keeps the longest where
an alternative decides. -/

namespace Playground.Tool

open Machine (Bytes)
open Shell (Glyphs.ofBytes)
open Shell.Pattern (Choice)

inductive Regex where
  | nothing
  | char (c : Char)
  | any
  | choice (isNegated : Bool) (choices : List Choice)
  | lineStart
  | lineEnd
  | wordStart
  | wordEnd
  | wordBorder (isNegated : Bool)
  | group (number : Nat) (body : Regex)
  | sequence (first second : Regex)
  | either (first second : Regex)
  | repeated (body : Regex) (least : Nat) (most : Option Nat)
  /-- The text of an earlier group. -/
  | again (number : Nat)

namespace Regex

/-! ## Spellings -/

/-- Which spelling an expression has. -/
structure Spelling where
  isExtended : Bool
  /-- Are operators that are out of place let through? -/
  isLenient : Bool

inductive Fault where
  | openBracket
  | loneBracket
  | bareClass
  | unknownClass
  | badRange
  | openGroup
  | closeGroup
  | openInterval
  | badInterval
  | reversedInterval
  | bigInterval
  | badRepetition
  | trailingBackslash
  | badReference

def Fault.message : Fault → Bytes
  | .openBracket => "Unmatched [, [^, [:, [., or [=".toList
  | .loneBracket => "Invalid regular expression".toList
  | .bareClass => "character class syntax is [[:space:]], not [:space:]".toList
  | .unknownClass => "Invalid character class name".toList
  | .badRange => "Invalid range end".toList
  | .openGroup => "Unmatched ( or \\(".toList
  | .closeGroup => "Unmatched ) or \\)".toList
  | .openInterval => "Unmatched \\\x7b".toList
  | .badInterval => "Invalid content of \\\x7b\\\x7d".toList
  | .reversedInterval => "Invalid content of \\\x7b\\\x7d".toList
  | .bigInterval => "Regular expression too big".toList
  | .badRepetition => "Invalid preceding regular expression".toList
  | .trailingBackslash => "Trailing backslash".toList
  | .badReference => "Invalid back reference".toList

/-! ## Tokens -/

inductive Token where
  | atom (r : Regex)
  | openGroup
  | closeGroup
  | bar
  | interval (least : Nat) (most : Option Nat)
  | back (number : Nat)

/-- Characters that are part of words. -/
def wordChoices : List Choice := [.named "alnum", .range '_' '_']

/-- The meaning of a backslash before a character that is no operator. -/
def escaped (c : Char) : Token :=
  match c with
  | 'w' => .atom (.choice false wordChoices)
  | 'W' => .atom (.choice true wordChoices)
  | 's' => .atom (.choice false [.named "space"])
  | 'S' => .atom (.choice true [.named "space"])
  | 'b' => .atom (.wordBorder false)
  | 'B' => .atom (.wordBorder true)
  | '<' => .atom .wordStart
  | '>' => .atom .wordEnd
  | 'n' => .atom (.char '\n')
  | 't' => .atom (.char '\t')
  | c => if c.isDigit ∧ c ≠ '0' then .back (c.toNat - '0'.toNat) else .atom (.char c)

/-- The bounds between braces, and what follows the closing one. -/
def takeInterval (isExtended : Bool) (b : Bytes) : Except Fault (Token × Bytes) :=
  let low := b.takeWhile Char.isDigit
  let rest := b.drop low.length
  let least := Bytes.digitsValue low
  let (most, rest) :=
    match rest with
    | ',' :: rest =>
        let high := rest.takeWhile Char.isDigit
        (if high.isEmpty then none else some (Bytes.digitsValue high), rest.drop high.length)
    | rest => (some least, rest)
  let finish (rest : Bytes) : Except Fault (Token × Bytes) :=
    if most.any (· < least) then .error .reversedInterval
    else if 32767 < max least (most.getD 0) then .error .bigInterval
    else .ok (.interval least most, rest)
  match isExtended, rest with
  | _, [] => .error .openInterval
  | true, '\x7d' :: rest => finish rest
  | false, '\\' :: '\x7d' :: rest => finish rest
  | _, _ => .error .badInterval

/-- Is an operator of repetition out of place after these tokens? -/
def isStart : Option Token → Bool
  | none => true
  | some .openGroup => true
  | some .bar => true
  | some (.atom .lineStart) => true
  | _ => false

def isInterval : Option Token → Bool
  | some (.interval _ _) => true
  | _ => false

/-- Does an anchor for the end stand before this text? -/
def endsHere (isExtended : Bool) (rest : Bytes) : Bool :=
  isExtended ||
    match rest with
    | [] => true
    | '\\' :: ')' :: _ => true
    | '\\' :: '|' :: _ => true
    | _ => false

def isGroupStart : Option Token → Bool
  | none => true
  | some .openGroup => true
  | some .bar => true
  | _ => false

/-- Is a class begun inside brackets and not ended? -/
def hasOpenClass : Bytes → Bool
  | '[' :: ':' :: rest =>
      !([':', ']'].isPrefixOf (rest.dropWhile Char.isAlpha)) || hasOpenClass rest
  | _ :: rest => hasOpenClass rest
  | [] => false

/-- The choices between brackets, and what follows the closing one. -/
def takeBrackets (b : Bytes) : Except Fault (Token × Bytes) :=
  let (isNegated, inner) :=
    match b with
    | '^' :: inner => (true, inner)
    | inner => (false, inner)
  let first := inner.takeWhile (· != ']')
  if b.isEmpty then .error .loneBracket
  else if first.head? == some ':' && first.getLast? == some ':' && 1 < first.length then
    .error .bareClass
  else
    match Shell.Pattern.takeChoices (inner.length + 1) [] (Glyphs.ofBytes inner false) true with
    | none => .error .openBracket
    | some (choices, after) =>
        let isUnknown (c : Choice) : Bool :=
          match c with
          | .named name => !Shell.Pattern.classNames.contains name
          | .range _ _ => false
        let isEmpty (c : Choice) : Bool :=
          match c with
          | .range low high => high < low
          | .named _ => false
        if hasOpenClass (inner.take (inner.length - after.length)) then .error .openBracket
        else if choices.any isUnknown then .error .unknownClass
        else if choices.any isEmpty then .error .badRange
        else .ok (.atom (.choice isNegated choices), after.map Shell.Glyph.char)

/-- The bounds of an operator of repetition that is one character. -/
def boundsOf? (c : Char) : Option Token :=
  match c with
  | '*' => some (.interval 0 none)
  | '+' => some (.interval 1 none)
  | '?' => some (.interval 0 (some 1))
  | _ => none

/-- The token of an operator that stands between other expressions. -/
def joint? (c : Char) : Option Token :=
  match c with
  | '(' => some .openGroup
  | ')' => some .closeGroup
  | '|' => some .bar
  | _ => none

/-- The tokens that come of an operator of repetition after the last token. -/
def repetition (s : Spelling) (last : Option Token) (c : Char) (bounds : Token) :
    Except Fault (List Token) :=
  if isStart last then
    if !s.isExtended then .ok [.atom (.char c)]
    else if s.isLenient then .ok []
    else .error .badRepetition
  else if isInterval last && !s.isExtended && !s.isLenient then .error .badRepetition
  else .ok [bounds]

/-- The tokens of an expression. How many groups are open is counted. -/
def tokenize (s : Spelling) (steps : Nat) (groups : Nat) (last : Option Token) (b : Bytes) :
    Except Fault (List Token) :=
  match steps, b with
  | 0, _ => .ok []
  | _, [] => .ok []
  | steps + 1, c :: rest =>
      let groupsAfter (t : Token) : Nat :=
        match t with
        | .openGroup => groups + 1
        | .closeGroup => groups - 1
        | _ => groups
      let goOn (t : Token) (rest : Bytes) : Except Fault (List Token) :=
        (tokenize s steps (groupsAfter t) (some t) rest).map (t :: ·)
      let repeated (c : Char) (bounds : Token) (rest : Bytes) : Except Fault (List Token) :=
        match repetition s last c bounds with
        | .error e => .error e
        | .ok [] => tokenize s steps groups last rest
        | .ok (t :: _) => goOn t rest
      let braces (rest : Bytes) : Except Fault (List Token) :=
        match takeInterval s.isExtended rest with
        | .error .reversedInterval => .error .reversedInterval
        | .error e =>
            if s.isExtended && s.isLenient then goOn (.atom (.char c)) rest else .error e
        | .ok (t, rest) =>
            if isStart last && !s.isLenient then .error .badRepetition else repeated c t rest
      let operator (c : Char) (rest : Bytes) (otherwise : Except Fault (List Token)) :
          Except Fault (List Token) :=
        match boundsOf? c, joint? c with
        | some bounds, _ => repeated c bounds rest
        | none, some .closeGroup =>
            if 0 < groups then goOn .closeGroup rest
            else if s.isExtended && s.isLenient then goOn (.atom (.char c)) rest
            else .error .closeGroup
        | none, some t => goOn t rest
        | none, none => if c = '\x7b' then braces rest else otherwise
      match c with
      | '[' =>
          match takeBrackets rest with
          | .ok (t, rest) => goOn t rest
          | .error e => .error e
      | '.' => goOn (.atom .any) rest
      | '*' => repeated c (.interval 0 none) rest
      | '^' =>
          if s.isExtended || isGroupStart last then goOn (.atom .lineStart) rest
          else goOn (.atom (.char '^')) rest
      | '$' =>
          if endsHere s.isExtended rest then goOn (.atom .lineEnd) rest
          else goOn (.atom (.char '$')) rest
      | '\\' =>
          match rest with
          | [] => .error .trailingBackslash
          | d :: rest =>
              let isPlain := "()|+?*.^$[]\\/\x7b\x7d".toList.contains d
              if s.isExtended || d = '*' then
                if isPlain then goOn (.atom (.char d)) rest else goOn (escaped d) rest
              else operator d rest (goOn (escaped d) rest)
      | c =>
          if s.isExtended then operator c rest (goOn (.atom (.char c)) rest)
          else goOn (.atom (.char c)) rest

/-! ## Reading -/

/-- What has been read, the tokens that are left, and the number of the next group. -/
abbrev Reading := Except Fault (Regex × List Token × Nat)

mutual

/-- Alternatives. -/
def readEither (steps : Nat) (tokens : List Token) (next : Nat) : Reading :=
  match steps with
  | 0 => .error .openGroup
  | steps + 1 =>
      match readSequence steps tokens next with
      | .ok (first, .bar :: rest, next) =>
          match readEither steps rest next with
          | .ok (second, rest, next) => .ok (.either first second, rest, next)
          | .error e => .error e
      | result => result
  termination_by structural steps

/-- Items one after another. -/
def readSequence (steps : Nat) (tokens : List Token) (next : Nat) : Reading :=
  match steps with
  | 0 => .error .openGroup
  | steps + 1 =>
      match tokens with
      | [] => .ok (.nothing, [], next)
      | .bar :: _ => .ok (.nothing, tokens, next)
      | .closeGroup :: _ => .ok (.nothing, tokens, next)
      | tokens =>
          match readAtom steps tokens next with
          | .error e => .error e
          | .ok (first, rest, next) =>
              match readSequence steps (repeats rest first).2 next with
              | .ok (second, rest', next) =>
                  .ok (.sequence (repeats rest first).1 second, rest', next)
              | .error e => .error e
  termination_by structural steps
where
  /-- An item with the bounds that follow it. -/
  repeats : List Token → Regex → Regex × List Token
    | .interval least most :: rest, r => repeats rest (.repeated r least most)
    | rest, r => (r, rest)

def readAtom (steps : Nat) (tokens : List Token) (next : Nat) : Reading :=
  match steps with
  | 0 => .error .openGroup
  | steps + 1 =>
      match tokens with
      | .atom r :: rest => .ok (r, rest, next)
      | .back n :: rest => if n < next then .ok (.again n, rest, next) else .error .badReference
      | .openGroup :: rest =>
          match readEither steps rest (next + 1) with
          | .ok (body, .closeGroup :: rest, after) => .ok (.group next body, rest, after)
          | .ok _ => .error .openGroup
          | .error e => .error e
      | .interval _ _ :: rest => .ok (.nothing, rest, next)
      | _ => .error .closeGroup
  termination_by structural steps

end

/-- The expression that a text spells, and how many groups it has. -/
def read (s : Spelling) (b : Bytes) : Except Fault (Regex × Nat) := do
  let tokens ← tokenize s (b.length + 1) 0 none b
  match ← readEither (4 * tokens.length + 8) tokens 1 with
  | (r, [], next) => return (r, next - 1)
  | _ => .error .closeGroup

/-- The expression for a text that stands for itself. -/
def literal (b : Bytes) : Regex := b.foldr (fun c r => .sequence (.char c) r) .nothing

/-! ## Matching -/

/-- A place in a text. -/
structure Place where
  index : Nat
  previous : Option Char
  rest : Bytes
  /-- Where groups begin and what they hold. -/
  groups : List (Nat × Bytes)

def Place.step (p : Place) : Place :=
  match p.rest with
  | c :: rest => { p with index := p.index + 1, previous := some c, rest := rest }
  | [] => p

def isWord (c : Option Char) : Bool :=
  match c with
  | some c => Bytes.isNameChar c
  | none => false

def sameChar (ignoresCase : Bool) (a b : Char) : Bool :=
  a == b || (ignoresCase && a.toLower == b.toLower)

def hasChar (ignoresCase : Bool) (choices : List Choice) (c : Char) : Bool :=
  (choices.any fun x => x.has c) ||
    (ignoresCase && choices.any fun x => x.has c.toLower || x.has c.toUpper)

/-- The longer of two matches. -/
def longer (a b : Option Place) : Option Place :=
  match a, b with
  | some p, some q => if p.index < q.index then some q else some p
  | none, b => b
  | a, none => a

/-- Where a match of the expression, followed by what else has to match, ends. -/
def run (ignoresCase : Bool) (steps : Nat) (r : Regex) (p : Place)
    (next : Place → Option Place) : Option Place :=
  match steps with
  | 0 => none
  | steps + 1 =>
      let ifNext (test : Char → Bool) : Option Place :=
        match p.rest with
        | c :: _ => if test c then next p.step else none
        | [] => none
      let ifHere (test : Bool) : Option Place := if test then next p else none
      match r with
      | .nothing => next p
      | .char c => ifNext (sameChar ignoresCase c)
      | .any => ifNext fun _ => true
      | .choice isNegated choices => ifNext fun c => hasChar ignoresCase choices c != isNegated
      | .lineStart => ifHere p.previous.isNone
      | .lineEnd => ifHere p.rest.isEmpty
      | .wordStart => ifHere (!isWord p.previous && isWord p.rest.head?)
      | .wordEnd => ifHere (isWord p.previous && !isWord p.rest.head?)
      | .wordBorder isNegated => ifHere ((isWord p.previous != isWord p.rest.head?) != isNegated)
      | .group number body =>
          run ignoresCase steps body p fun q =>
            let text := p.rest.take (q.index - p.index)
            next { q with groups := (number, text) :: q.groups }
      | .sequence first second =>
          run ignoresCase steps first p fun q => run ignoresCase steps second q next
      | .either first second =>
          longer (run ignoresCase steps first p next) (run ignoresCase steps second p next)
      | .repeated body least most =>
          let more : Option Place :=
            if most = some 0 then none
            else run ignoresCase steps body p fun q =>
              if q.index = p.index ∧ least = 0 then none
              else
                run ignoresCase steps (.repeated body (least - 1) (most.map fun n => n - 1)) q next
          match more with
          | some q => some q
          | none => if least = 0 then next p else none
      | .again number =>
          let text := (p.groups.lookup number).getD []
          if text.isPrefixOf p.rest then
            next { p with
              index := p.index + text.length
              previous := if text.isEmpty then p.previous else text.getLast?
              rest := p.rest.drop text.length }
          else none

/-- A match in a text: what is before it, what it is, what is after it, and its groups. -/
structure Match where
  before : Bytes
  text : Bytes
  after : Bytes
  groups : List (Nat × Bytes)

/-- The match that begins at a place, if there is one. -/
def matchAt? (ignoresCase : Bool) (r : Regex) (p : Place) : Option (Bytes × Place) :=
  (run ignoresCase (1 <<< 40) r p some).map fun q => (p.rest.take (q.index - p.index), q)

/-- The first match at a place or after it. What has been passed comes last first. -/
def findFrom (ignoresCase : Bool) (r : Regex) (steps : Nat) (passed : Bytes) (p : Place) :
    Option Match :=
  match steps with
  | 0 => none
  | steps + 1 =>
      match matchAt? ignoresCase r p with
      | some (text, q) => some ⟨passed.reverse, text, q.rest, q.groups⟩
      | none =>
          match p.rest with
          | [] => none
          | c :: _ => findFrom ignoresCase r steps (c :: passed) p.step

/-- The first match in what is left of a text after a character. -/
def find? (ignoresCase : Bool) (r : Regex) (previous : Option Char) (b : Bytes) : Option Match :=
  findFrom ignoresCase r (b.length + 1) [] ⟨0, previous, b, []⟩

def matches? (ignoresCase : Bool) (r : Regex) (b : Bytes) : Bool :=
  (find? ignoresCase r none b).isSome

end Regex

end Playground.Tool
