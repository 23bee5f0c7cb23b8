import Playground.Tool.Stream

set_option autoImplicit false

/-! # Dumps

A dump shows the octets of its input as numbers or characters, a block of them in each line. A block
can be shown in several ways, one line below another: the columns are wide enough that what belongs
together stands together. -/

namespace Playground.Tool

open Machine (Bytes Options Program Script Start Grammar withOptions seeHelp)

namespace Dump

/-! ## Data -/

/-- How a datum is shown. -/
inductive Style where
  | named
  | escaped
  | signed
  | unsigned
  | octal
  | hexadecimal
  deriving DecidableEq

/-- A way to show a block: data of some octets each, and the characters beside them if wanted. -/
structure View where
  style : Style
  size : Nat
  showsText : Bool

/-- How wide the widest datum is. -/
def View.width (v : View) : Nat :=
  match v.style with
  | .named => 3
  | .escaped => 3
  | .signed => (Bytes.ofNat (1 <<< (8 * v.size - 1))).length + 1
  | .unsigned => (Bytes.ofNat ((1 <<< (8 * v.size)) - 1)).length
  | .octal => (8 * v.size + 2) / 3
  | .hexadecimal => 2 * v.size

def isPrintable (c : Char) : Bool := 32 ≤ c.toNat && c.toNat < 127

/-- The names of the characters that cannot be seen, and of the blank. -/
def controlNames : List String :=
  ["nul", "soh", "stx", "etx", "eot", "enq", "ack", "bel", "bs", "ht", "nl", "vt", "ff", "cr", "so",
    "si", "dle", "dc1", "dc2", "dc3", "dc4", "nak", "syn", "etb", "can", "em", "sub", "esc", "fs",
    "gs", "rs", "us", "sp"]

/-- A character by its name. The highest bit does not count. -/
def named (c : Char) : Bytes :=
  let n := c.toNat % 128
  if n = 127 then "del".toList
  else
    match controlNames[n]? with
    | some name => name.toList
    | none => [Char.ofNat n]

/-- A character as it is, as an escape, or by its number. -/
def escaped (c : Char) : Bytes :=
  match c.toNat with
  | 0 => ['\\', '0']
  | 7 => ['\\', 'a']
  | 8 => ['\\', 'b']
  | 9 => ['\\', 't']
  | 10 => ['\\', 'n']
  | 11 => ['\\', 'v']
  | 12 => ['\\', 'f']
  | 13 => ['\\', 'r']
  | n => if isPrintable c then [c] else Bytes.paddedDigits 8 3 n

def View.datum (v : View) (isBigEndian : Bool) (b : Bytes) : Bytes :=
  let n := if isBigEndian then Bytes.bigEndian b else Bytes.littleEndian b
  match v.style with
  | .named => named (b.headD 'x')
  | .escaped => escaped (b.headD 'x')
  | .signed => Bytes.ofInt (if n < 1 <<< (8 * v.size - 1) then n
      else (n : Int) - (1 <<< (8 * v.size) : Nat))
  | .unsigned => Bytes.ofNat n
  | .octal => Bytes.paddedDigits 8 v.width n
  | .hexadecimal => Bytes.paddedDigits 16 v.width n

/-! ## Types -/

/-- The style that a letter stands for. -/
def styleOf? (c : Char) : Option Style :=
  match c with
  | 'a' => some .named
  | 'c' => some .escaped
  | 'd' => some .signed
  | 'u' => some .unsigned
  | 'o' => some .octal
  | 'x' => some .hexadecimal
  | _ => none

/-- The size of a datum after its letter, if any is given, and what follows it. -/
def readSize (b : Bytes) : Option Nat × Bytes :=
  match b with
  | 'C' :: rest => (some 1, rest)
  | 'S' :: rest => (some 2, rest)
  | 'I' :: rest => (some 4, rest)
  | 'L' :: rest => (some 8, rest)
  | b =>
      let size := b.takeWhile Char.isDigit
      (Bytes.toNat? size, b.drop size.length)

/-- The views that a text such as "x1zc" asks for, each taking at least one of its characters. -/
def readViews (whole : Bytes) (steps : Nat) (b : Bytes) : Except Bytes (List View) :=
  match steps, b with
  | 0, _ => .ok []
  | _, [] => .ok []
  | steps + 1, c :: rest =>
      match styleOf? c with
      | none =>
          .error ("invalid character ".toList ++ Script.quoted [c] ++ " in type string ".toList ++
            Script.quoted whole)
      | some style =>
          let isCharacter := style = .named ∨ style = .escaped
          let (size, rest) := if isCharacter then (some 1, rest) else readSize rest
          let size := size.getD 4
          let (showsText, rest) :=
            match rest with
            | 'z' :: rest => (true, rest)
            | rest => (false, rest)
          if [1, 2, 4, 8].contains size then
            (readViews whole steps rest).map fun views => ⟨style, size, showsText⟩ :: views
          else
            .error ("invalid type string ".toList ++ Script.quoted whole ++
              ";\nthis system doesn't provide a ".toList ++ Bytes.ofNat size ++
              "-byte integral type".toList)

/-- The views that letters alone ask for. -/
def viewOfLetter? (c : Char) : Option View :=
  match c with
  | 'a' => some ⟨.named, 1, false⟩
  | 'b' => some ⟨.octal, 1, false⟩
  | 'c' => some ⟨.escaped, 1, false⟩
  | 'd' => some ⟨.unsigned, 2, false⟩
  | 'D' => some ⟨.unsigned, 4, false⟩
  | 'H' => some ⟨.hexadecimal, 4, false⟩
  | 'X' => some ⟨.hexadecimal, 4, false⟩
  | 'h' => some ⟨.hexadecimal, 2, false⟩
  | 'x' => some ⟨.hexadecimal, 2, false⟩
  | 'i' => some ⟨.signed, 4, false⟩
  | 'I' => some ⟨.signed, 8, false⟩
  | 'l' => some ⟨.signed, 8, false⟩
  | 'L' => some ⟨.signed, 8, false⟩
  | 'o' => some ⟨.octal, 2, false⟩
  | 'B' => some ⟨.octal, 2, false⟩
  | 'O' => some ⟨.octal, 4, false⟩
  | 's' => some ⟨.signed, 2, false⟩
  | _ => none

/-- All views that options ask for, in their order, or what is wrong with one. -/
def viewsOf (options : Options) : Except Bytes (List View) := do
  let found ← options.given.mapM fun (letter, value) =>
    if letter = 't' then readViews value value.length value
    else .ok (viewOfLetter? letter).toList
  match found.flatten with
  | [] => return [⟨.octal, 2, false⟩]
  | views => return views

/-! ## Lines -/

/-- How a whole dump looks. -/
structure Layout where
  views : List View
  blockSize : Nat
  /-- The base of addresses, unless none are shown. -/
  base : Option Nat
  /-- Are blocks that are like the one before them left out? -/
  abbreviates : Bool
  isBigEndian : Bool

def Layout.addressWidth (l : Layout) : Nat :=
  match l.base with
  | none => 0
  | some 16 => 6
  | some _ => 7

def Layout.address (l : Layout) (offset : Nat) : Bytes :=
  match l.base with
  | none => []
  | some base => Bytes.paddedDigits base l.addressWidth offset

/-- How many columns a block needs in the widest view. -/
def Layout.blockWidth (l : Layout) : Nat :=
  (l.views.map fun v => (v.width + 1) * (l.blockSize / v.size)).foldl max 0

/-- The datum of a block that stands at a place. Missing octets are zero. -/
def datumAt (block : Bytes) (size place : Nat) : Bytes :=
  let given := (block.drop (place * size)).take size
  given ++ List.replicate (size - given.length) (Char.ofNat 0)

/-- A block in one view. What the widest view needs more than this one is spread over the columns,
    as evenly as can be, from the left. -/
def Layout.line (l : Layout) (v : View) (block : Bytes) : Bytes :=
  let count := l.blockSize / v.size
  let blank := (l.blockSize - block.length) / v.size
  let spare := l.blockWidth - v.width * count
  let data := (List.range (count - blank)).map fun (place : Nat) =>
    let left := count - place
    let before := spare * left / count - spare * (left - 1) / count
    Bytes.padLeft (before + v.width) (v.datum l.isBigEndian (datumAt block v.size place))
  let text :=
    if v.showsText then
      List.replicate (blank * v.width + spare * blank / count) ' ' ++ "  >".toList ++
        (block.map fun c => if isPrintable c then c else '.') ++ ['<']
    else []
  data.flatten ++ text ++ ['\n']

/-- A block in all views, the address before the first. -/
def Layout.block (l : Layout) (offset : Nat) (block : Bytes) : Bytes :=
  let lines := l.views.map fun v => l.line v block
  let starts := l.address offset :: List.replicate (lines.length - 1)
    (List.replicate l.addressWidth ' ')
  ((starts.zip lines).map fun (start, line) => start ++ line).flatten

/-! ## Passing through -/

/-- How far a dump has come. -/
structure Progress where
  /-- How many octets are still to be passed over. -/
  toSkip : Nat
  /-- How many are still to be shown, if not all are. -/
  left : Option Nat
  offset : Nat
  /-- Octets that do not make a whole block yet. -/
  pending : Bytes
  /-- The block before, and whether it was like the one before it. -/
  last : Option (Bytes × Bool)
  /-- Has a file been opened? -/
  hasBegun : Bool

/-- What is shown of one whole block. -/
def Layout.next (l : Layout) (p : Progress) (block : Bytes) : Bytes × Progress :=
  let after := { p with offset := p.offset + block.length }
  let shown := ({ after with last := some (block, false) } : Progress)
  match p.last with
  | some (last, isRepeated) =>
      if l.abbreviates && last == block then
        (if isRepeated then [] else ['*', '\n'], { after with last := some (block, true) })
      else (l.block p.offset block, shown)
  | none => (l.block p.offset block, shown)

/-- What is shown of the whole blocks of a text. The last and shorter one stays pending. -/
def Layout.showBlocks (l : Layout) (shown : List Bytes) (steps : Nat) (p : Progress) (b : Bytes) :
    Bytes × Progress :=
  match steps with
  | 0 => (shown.reverse.flatten, { p with pending := b })
  | steps + 1 =>
      let block := b.take l.blockSize
      if block.length < l.blockSize then (shown.reverse.flatten, { p with pending := b })
      else
        let (text, p) := l.next p block
        l.showBlocks (text :: shown) steps p (b.drop l.blockSize)

/-- What is shown of what has been read. -/
def Layout.show (l : Layout) (p : Progress) (b : Bytes) : Bytes × Progress :=
  let rest := b.drop p.toSkip
  let part := rest.take (p.left.getD rest.length)
  let p := { p with
    toSkip := p.toSkip - b.length
    left := p.left.map fun n => n - part.length }
  l.showBlocks [] (b.length + 1) p (p.pending ++ part)

/-- Shows all that comes, or as much of it as is wanted. -/
def Layout.copy (l : Layout) (steps : Nat) (p : Progress) (descriptor : Nat) :
    Script (Stream.Ending × Progress) :=
  match steps with
  | 0 => return (.finished, p)
  | steps + 1 => do
      let size := min Script.chunkSize ((p.left.map fun n => n + p.toSkip).getD Script.chunkSize)
      if size = 0 then return (.finished, p)
      else
        match ← Script.ask (.read descriptor size) with
        | .ok [] => return (.finished, p)
        | .error e => return (.unreadable e, p)
        | .ok octets =>
            let (shown, p) := l.show p (Bytes.ofOctets octets)
            match ← Script.writeAll Script.stdout shown with
            | .ok () => l.copy steps p descriptor
            | .error e => return (.unwritable e, p)

/-! ## The program -/

def grammar : Grammar where
  flags := "aBbcDdHhIiLlOosvXx"
  valued := "AjNtE"
  attached := "w"
  names := [("skip-bytes", 'j'), ("address-radix", 'A'), ("read-bytes", 'N'), ("format", 't'),
    ("output-duplicates", 'v'), ("width", 'w'), ("endian", 'E')]
  relaxed := "w"

/-- A number in base ten, eight or sixteen, which may be given in greater units. -/
def count? (b : Bytes) : Option Nat :=
  match b with
  | '0' :: 'x' :: digits =>
      if !digits.isEmpty && digits.all fun c => (Bytes.hexValue? c).isSome then
        some (Bytes.hexNumber digits)
      else none
  | '0' :: c :: digits =>
      if (c :: digits).all Bytes.isOctalDigit then some (Bytes.octalValue (c :: digits))
      else Stream.size? b
  | b => Stream.size? b

/-- What is wrong with the number that an option gives. -/
def wrongCount (letter : Char) (text : Bytes) : Bytes :=
  let what := if (text.headD 'x').isDigit then "invalid suffix in -" else "invalid -"
  what.toList ++ letter :: " argument ".toList ++ Script.quoted text

/-- A number that an option gives. -/
def countOf (options : Options) (letter : Char) : Except Bytes (Option Nat) :=
  match options.value? letter with
  | none => .ok none
  | some text =>
      match count? text with
      | some n => .ok (some n)
      | none => .error (wrongCount letter text)

/-- The base of addresses. -/
def baseOf (options : Options) : Except Bytes (Option Nat) :=
  match options.value? 'A' with
  | none => .ok (some 8)
  | some ('d' :: _) => .ok (some 10)
  | some ('o' :: _) => .ok (some 8)
  | some ('x' :: _) => .ok (some 16)
  | some ('n' :: _) => .ok none
  | some text =>
      .error ("invalid output address radix ".toList ++ Script.quoted (text.take 1) ++
        "; it must be one character from [doxn]".toList)

/-- How many octets a block has: as many as asked for if all data fit into it, and a warning if they
    do not. -/
def blockSizeOf (options : Options) (views : List View) : Except Bytes (Nat × Option Bytes) :=
  let common := (views.map View.size).foldl Nat.lcm 1
  match options.value? 'w' with
  | none => .ok (common * (16 / common), none)
  | some text =>
      match if text.isEmpty then some 32 else Bytes.toNat? text with
      | none => .error (wrongCount 'w' text)
      | some n =>
          if n ≠ 0 ∧ n % common = 0 then .ok (n, none)
          else
            let warning := "warning: invalid width ".toList ++ Bytes.ofNat n ++
              "; using ".toList ++ Bytes.ofNat common ++ " instead".toList
            .ok (common, some warning)

/-- What a dump is to look like, what it is to show, and a warning. -/
def planOf (options : Options) : Except Bytes (Layout × Progress × Option Bytes) := do
  let base ← baseOf options
  let toSkip ← countOf options 'j'
  let limit ← countOf options 'N'
  let views ← viewsOf options
  let (blockSize, warning) ← blockSizeOf options views
  let layout : Layout :=
    { views := views, blockSize := blockSize, base := base, abbreviates := !options.has 'v',
      isBigEndian := options.value? 'E' == some "big".toList }
  return (layout, ⟨toSkip.getD 0, limit, toSkip.getD 0, [], none, false⟩, warning)

/-- Shows octets. -/
def od : Program := fun s => withOptions s grammar 1 fun options names => do
  match planOf options with
  | .error e =>
      Script.complain s e
      return 1
  | .ok (layout, start, warning) =>
      match warning with
      | some text => Script.complain s text
      | none => pure ()
      let (code, p) ← Stream.foldEach s id id names start fun p _ descriptor =>
        layout.copy Script.endless { p with hasBegun := true } descriptor
      if !p.hasBegun then return code
      else if 0 < p.toSkip then
        Script.complain s "cannot skip past end of combined input".toList
        return 1
      else
        let rest := if p.pending.isEmpty then [] else layout.block p.offset p.pending
        let address := layout.address (p.offset + p.pending.length)
        Script.print (rest ++ if address.isEmpty then [] else address ++ ['\n'])
        return code

end Dump

end Playground.Tool
