import Playground.Toml.Scalar

set_option autoImplicit false

/-! # Reading a TOML document

A document is a sequence of lines: a key and its value, a header, or nothing, each with a comment
after it if one likes. Arrays may run over several lines; inline tables may not.

A document is read only as a whole: there is no partial result of one that is wrong somewhere. -/

namespace Playground.Toml

/-! ## Between values -/

def skipSpaces (cs : List Char) : List Char := cs.dropWhile isSpace

/-- A comment without the newline after it, if one begins here. -/
def afterComment? (cs : List Char) : Option (List Char) :=
  match cs with
  | '#' :: rest =>
      let body := rest.takeWhile fun c => c != '\n' && c != '\r'
      if body.all isPlain then some (rest.drop body.length) else none
  | cs => some cs

theorem afterComment?_length {cs rest : List Char} (h : afterComment? cs = some rest) :
    rest.length ≤ cs.length := by
  unfold afterComment? at h
  grind [List.length_drop]

/-- The text after the blanks, newlines and comments inside of an array. -/
def skipBlank (cs : List Char) : Option (List Char) :=
  match _h₁ : afterComment? (skipSpaces cs) with
  | none => none
  | some line =>
      match _h₂ : afterNewline? line with
      | some rest => skipBlank rest
      | none => some line
termination_by cs.length
decreasing_by
  have h₁ := afterComment?_length ‹afterComment? _ = _›
  have h₂ := afterNewline?_length ‹afterNewline? _ = _›
  have h₃ := (List.dropWhile_sublist (l := cs) isSpace).length_le
  unfold skipSpaces at h₁
  omega

/-! ## Keys -/

def takeSimpleKey (cs : List Char) : Option (String × List Char) :=
  match cs with
  | '"' :: _ => takeShortString cs
  | '\'' :: _ => takeShortString cs
  | cs =>
      let bare := cs.takeWhile isBareKey
      if bare.isEmpty then none else some (String.ofList bare, cs.drop bare.length)

/-- How many parts a key may have. -/
def keyLimit : Nat := 79

/-- The parts of a key, no more than `limit`, with dots between them, and the blanks after it. -/
def takeKeyUpTo (limit : Nat) (cs : List Char) : Option (List String × List Char) :=
  match limit with
  | 0 => none
  | limit + 1 => do
      let (k, rest) ← takeSimpleKey (skipSpaces cs)
      match skipSpaces rest with
      | '.' :: rest =>
          let (path, rest) ← takeKeyUpTo limit rest
          return (k :: path, rest)
      | rest => return ([k], rest)

/-- A key of one part or several with dots between them, and the blanks after it. -/
def takeKey (cs : List Char) : Option (List String × List Char) := takeKeyUpTo keyLimit cs

/-! ## Values

The fuel is spent on nesting and on items alike; a text has fewer of both than characters. -/

/-- How many arrays and inline tables may lie within each other. -/
def depthLimit : Nat := 79

mutual

def takeValue (fuel depth : Nat) (cs : List Char) : Option (Node × List Char) :=
  match fuel with
  | 0 => none
  | fuel + 1 =>
      match cs with
      | '[' :: rest =>
          if depth = 0 then none
          else (takeItems fuel (depth - 1) [] rest).map fun (items, rest) => (.array items, rest)
      | '\x7b' :: rest =>
          if depth = 0 then none
          else
            match skipSpaces rest with
            | '\x7d' :: rest => some (.inline [], rest)
            | rest =>
                (takePairs fuel (depth - 1) [] rest).map fun (members, rest) =>
                  (.inline members, rest)
      | cs => takeScalar cs

/-- The items of an array up to the closing bracket. -/
def takeItems (fuel depth : Nat) (items : List Node) (cs : List Char) :
    Option (List Node × List Char) :=
  match fuel with
  | 0 => none
  | fuel + 1 => do
      let rest ← skipBlank cs
      match rest with
      | ']' :: rest => some (items.reverse, rest)
      | rest =>
          let (v, rest) ← takeValue fuel depth rest
          let rest ← skipBlank rest
          match rest with
          | ',' :: rest => takeItems fuel depth (v :: items) rest
          | ']' :: rest => some ((v :: items).reverse, rest)
          | _ => none

/-- The pairs of an inline table up to the closing brace. -/
def takePairs (fuel depth : Nat) (members : Members) (cs : List Char) :
    Option (Members × List Char) :=
  match fuel with
  | 0 => none
  | fuel + 1 => do
      let (path, rest) ← takeKey cs
      let rest ← after? "=" rest
      let (v, rest) ← takeValue fuel depth (skipSpaces rest)
      let members ← addKey true members path v
      match skipSpaces rest with
      | ',' :: rest => takePairs fuel depth members rest
      | '\x7d' :: rest => some (members, rest)
      | _ => none

end

/-! ## Lines -/

/-- A document as far as it was read: its root table and the header that lines belong to. -/
structure Draft where
  root : Members
  header : List String
  deriving Repr

/-- A header of two brackets, or of one. -/
def takeHeader (d : Draft) (cs : List Char) : Option (Draft × List Char) := do
  let isElement := ['[', '['].isPrefixOf cs
  let (path, rest) ← takeKey (cs.drop (if isElement then 2 else 1))
  let rest ← after? (if isElement then "]]" else "]") rest
  let key ← path.getLast?
  let opened := if isElement then openElement key else openTable key
  let root ← within opened d.root path.dropLast
  return (⟨root, path⟩, rest)

def takePair (fuel : Nat) (d : Draft) (cs : List Char) : Option (Draft × List Char) := do
  let (path, rest) ← takeKey cs
  let rest ← after? "=" rest
  let (v, rest) ← takeValue fuel depthLimit (skipSpaces rest)
  let root ← within (fun ms => addKey true ms path v) d.root d.header
  return (⟨root, d.header⟩, rest)

/-- What stands on one line, without the comment and newline after it. -/
def takeLine (fuel : Nat) (d : Draft) (cs : List Char) : Option (Draft × List Char) :=
  match skipSpaces cs with
  | [] => some (d, [])
  | '[' :: rest => takeHeader d ('[' :: rest)
  | c :: rest =>
      if c = '#' ∨ c = '\n' ∨ c = '\r' then some (d, c :: rest) else takePair fuel d (c :: rest)

def readLines (fuel : Nat) (d : Draft) (cs : List Char) : Option Draft :=
  match fuel with
  | 0 => none
  | fuel + 1 => do
      let (d, rest) ← takeLine (fuel + 1) d cs
      let rest ← afterComment? (skipSpaces rest)
      match rest with
      | [] => return d
      | rest =>
          let rest ← afterNewline? rest
          readLines fuel d rest

/-- The root table of a document, if the whole text is one. A byte order mark may come first. -/
def read? (text : String) : Option Members :=
  let cs := text.toList
  let cs := if cs.head? = some (Char.ofNat 0xFEFF) then cs.drop 1 else cs
  (readLines (cs.length + 1) ⟨[], []⟩ cs).map Draft.root

end Playground.Toml
