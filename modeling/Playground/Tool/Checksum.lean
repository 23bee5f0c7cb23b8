import Playground.Tool.Digest
import Playground.Tool.Stream

set_option autoImplicit false

/-! # Checksums

Programs that tell the digests of files, and whether files still have the digests that a list tells
of. -/

namespace Playground.Tool

open Machine (Bytes Options Program Script Start Grammar withOptions seeHelp)

namespace Checksum

/-- A kind of digest. -/
structure Kind where
  name : String
  /-- How many octets a digest has. -/
  size : Nat
  digest : Bytes → Bytes

def hex (b : Bytes) : Bytes := b.flatMap fun c => Bytes.paddedDigits 16 2 c.toNat

/-! ## Telling digests -/

/-- Is a character of a name written as an escape? -/
def isEscaped (c : Char) : Bool := c == '\n' || c == '\r' || c == '\\'

/-- A name in one line. -/
def writeName (name : Bytes) : Bytes :=
  name.flatMap fun c =>
    match c with
    | '\n' => ['\\', 'n']
    | '\r' => ['\\', 'r']
    | '\\' => ['\\', '\\']
    | c => [c]

/-- The name that stands in a line, if it is written as it should be. -/
def readName? : Bytes → Option Bytes
  | [] => some []
  | '\\' :: 'n' :: rest => (readName? rest).map ('\n' :: ·)
  | '\\' :: 'r' :: rest => (readName? rest).map ('\r' :: ·)
  | '\\' :: '\\' :: rest => (readName? rest).map ('\\' :: ·)
  | c :: rest => if c = '\\' then none else (readName? rest).map (c :: ·)

/-- How the line of a file is written. -/
structure Form where
  isTagged : Bool
  isBinary : Bool
  endsInNul : Bool

def line (k : Kind) (f : Form) (name digest : Bytes) : Bytes :=
  let needsEscape := !f.endsInNul && name.any isEscaped
  let shown := if needsEscape then writeName name else name
  let start : Bytes := if needsEscape then ['\\'] else []
  let text :=
    if f.isTagged then k.name.toList ++ " (".toList ++ shown ++ ") = ".toList ++ hex digest
    else hex digest ++ ' ' :: (if f.isBinary then '*' else ' ') :: shown
  start ++ text ++ [if f.endsInNul then Char.ofNat 0 else '\n']

/-- Tells the digests of files. -/
def tell (s : Start) (k : Kind) (f : Form) (names : List Bytes) : Script Nat :=
  Stream.forEach s id id names () fun _ name descriptor => do
    match ← Script.readAll descriptor with
    | .error e => return (.unreadable e, ())
    | .ok b =>
        match ← Script.writeAll Script.stdout (line k f name (k.digest b)) with
        | .ok () => return (.finished, ())
        | .error e => return (.unwritable e, ())

/-! ## Checking -/

/-- A file and the digest that it should have. -/
structure Entry where
  name : Bytes
  digest : Bytes

/-- A digest in digits, which may be of either case, without what follows it. -/
def readDigest? (k : Kind) (b : Bytes) : Option (Bytes × Bytes) :=
  let digits := b.takeWhile fun c => (Bytes.hexValue? c).isSome
  if digits.length = 2 * k.size then some (digits.map Char.toLower, b.drop digits.length) else none

/-- An entry with the kind of digest in front. -/
def readTagged? (k : Kind) (b : Bytes) : Option Entry := do
  let tag := k.name.toList ++ " (".toList
  if tag.isPrefixOf b then
    let rest := (b.drop tag.length).reverse
    let after := (rest.takeWhile (· != ')')).reverse
    let name := (rest.drop (after.length + 1)).reverse
    match after.dropWhile Bytes.isBlank with
    | '=' :: digits =>
        match ← readDigest? k (digits.dropWhile Bytes.isBlank) with
        | (digest, []) => return ⟨name, digest⟩
        | _ => none
    | _ => none
  else none

/-- An entry with the digest in front. -/
def readPlain? (k : Kind) (b : Bytes) : Option Entry := do
  match ← readDigest? k b with
  | (digest, ' ' :: ' ' :: c :: name) => return ⟨c :: name, digest⟩
  | (digest, ' ' :: '*' :: c :: name) => return ⟨c :: name, digest⟩
  | (digest, ' ' :: c :: name) => return ⟨c :: name, digest⟩
  | _ => none

/-- The entry of a line. -/
def readEntry? (k : Kind) (b : Bytes) : Option Entry := do
  let b := b.dropWhile Bytes.isBlank
  let (isMarked, b) :=
    match b with
    | '\\' :: b => (true, b)
    | b => (false, b)
  let entry ← (readTagged? k b).or (readPlain? k b)
  if isMarked then return { entry with name := ← readName? entry.name }
  else return entry

/-- What has been found in a list. -/
structure Findings where
  proper : Nat
  improper : Nat
  unreadable : Nat
  wrong : Nat
  right : Nat

/-- What is told of a check. -/
structure Manner where
  isSilent : Bool
  isQuiet : Bool
  warns : Bool
  isStrict : Bool
  ignoresMissing : Bool

/-- Tells of one file, with the name as it is in the list. -/
def report (name : Bytes) (text : String) : Script Unit :=
  let shown := if name.any isEscaped then '\\' :: writeName name else name
  Script.printLine (shown ++ ": ".toList ++ text.toList)

/-- Checks a file. -/
def checkEntry (s : Start) (k : Kind) (m : Manner) (entry : Entry) (f : Findings) :
    Script Findings := do
  let f := { f with proper := f.proper + 1 }
  match ← Script.readFile entry.name with
  | .error e =>
      if m.ignoresMissing && e == .notFound then return f
      else
        Script.complainOf s "" entry.name e
        if m.isSilent then pure () else report entry.name "FAILED open or read"
        return { f with unreadable := f.unreadable + 1 }
  | .ok b =>
      if hex (k.digest b) = entry.digest then
        if m.isSilent || m.isQuiet then pure () else report entry.name "OK"
        return { f with right := f.right + 1 }
      else
        if m.isSilent then pure () else report entry.name "FAILED"
        return { f with wrong := f.wrong + 1 }

/-- Checks the files of a list, line by line. -/
def checkLines (s : Start) (k : Kind) (m : Manner) (list : Bytes) (number : Nat) (f : Findings) :
    List Bytes → Script Findings
  | [] => return f
  | text :: rest => do
      if text.isEmpty || text.head? == some '#' then
        checkLines s k m list (number + 1) f rest
      else
        match readEntry? k text with
        | some entry => checkLines s k m list (number + 1) (← checkEntry s k m entry f) rest
        | none =>
            if m.warns then
              Script.complain s (list ++ ": ".toList ++ Bytes.ofNat number ++
                ": improperly formatted ".toList ++ k.name.toList ++ " checksum line".toList)
            else pure ()
            checkLines s k m list (number + 1) { f with improper := f.improper + 1 } rest

/-- A warning about so many things, with the words for one and for more. -/
def warnOf (s : Start) (count : Nat) (one many : String) : Script Unit :=
  if count = 0 then return ()
  else
    Script.complain s ("WARNING: ".toList ++ Bytes.ofNat count ++ ' ' ::
      (if count = 1 then one else many).toList)

/-- Tells what has been found in a list, and whether all is as it should be. -/
def conclude (s : Start) (m : Manner) (list : Bytes) (f : Findings) : Script Bool := do
  if f.proper = 0 then
    Script.complain s (list ++ ": no properly formatted checksum lines found".toList)
    return false
  else
    if m.isSilent then pure ()
    else
      warnOf s f.improper "line is improperly formatted" "lines are improperly formatted"
      warnOf s f.unreadable "listed file could not be read" "listed files could not be read"
      warnOf s f.wrong "computed checksum did NOT match" "computed checksums did NOT match"
      if m.ignoresMissing && f.right == 0 then
        Script.complain s (list ++ ": no file was verified".toList)
      else pure ()
    return 0 < f.right && f.wrong == 0 && f.unreadable == 0 && (!m.isStrict || f.improper == 0)

/-- Checks the files of several lists. -/
def check (s : Start) (k : Kind) (m : Manner) (names : List Bytes) : Script Nat := do
  let mut code := 0
  for name in if names.isEmpty then [['-']] else names do
    match ← Script.readFile name with
    | .error .isADirectory =>
        Script.complain s (name ++ ": read error".toList)
        code := 1
    | .error e =>
        Script.complainOf s "" name e
        code := 1
    | .ok b =>
        let shown := if name = ['-'] then "'standard input'".toList else name
        let f ← checkLines s k m shown 1 ⟨0, 0, 0, 0, 0⟩ (Bytes.lines b)
        if ← conclude s m shown f then pure () else code := 1
  return code

/-! ## Programs -/

def grammar : Grammar where
  flags := "bctwz"
  names := [("binary", 'b'), ("check", 'c'), ("ignore-missing", 'M'), ("quiet", 'Q'),
    ("status", 'S'), ("strict", 'R'), ("tag", 'T'), ("text", 't'), ("warn", 'w'), ("zero", 'z')]

/-- The option that makes no sense without a check, if one is given. -/
def onlyForChecks? (options : Options) : Option String :=
  if options.has 'c' then none
  else
    [('M', "ignore-missing"), ('S', "status"), ('w', "warn"), ('Q', "quiet"),
      ('R', "strict")].findSome? fun (letter, name) =>
        if options.has letter then some name else none

def misused (s : Start) (text : Bytes) : Script Nat := do
  Script.complain s (text ++ seeHelp s)
  return 1

/-- Tells or checks digests of one kind. -/
def sumOf (k : Kind) : Program := fun s => withOptions s grammar 1 fun options names => do
  if options.has 'T' && options.has 't' then misused s "--tag does not support --text mode".toList
  else if options.has 'c' && options.has 'T' then
    misused s "the --tag option is meaningless when verifying checksums".toList
  else if options.has 'c' && options.has 'z' then
    misused s "the --zero option is not supported when verifying checksums".toList
  else if options.has 'c' && (options.has 'b' || options.has 't') then
    misused s
      "the --binary and --text options are meaningless when verifying checksums".toList
  else
    match onlyForChecks? options with
    | some name =>
        misused s ("the --".toList ++ name.toList ++
          " option is meaningful only when verifying checksums".toList)
    | none =>
        if options.has 'c' then
          let m : Manner :=
            { isSilent := options.has 'S', isQuiet := options.has 'Q', warns := options.has 'w',
              isStrict := options.has 'R', ignoresMissing := options.has 'M' }
          check s k m names
        else
          let modes := options.letters.filter fun c => c == 'b' || c == 't'
          let isBinary := modes.getLast? == some 'b'
          tell s k ⟨options.has 'T', isBinary, options.has 'z'⟩ names

def md5 : Kind := ⟨"MD5", 16, Digest.md5⟩
def sha1 : Kind := ⟨"SHA1", 20, Digest.sha1⟩
def sha224 : Kind := ⟨"SHA224", 28, Digest.sha224⟩
def sha256 : Kind := ⟨"SHA256", 32, Digest.sha256⟩
def sha384 : Kind := ⟨"SHA384", 48, Digest.sha384⟩
def sha512 : Kind := ⟨"SHA512", 64, Digest.sha512⟩

/-- Writes a line about each file, which a rule makes from its contents, and from its name if that
    has been given. -/
def tellEach (s : Start) (names : List Bytes) (text : Bytes → Bytes) : Script Nat :=
  Stream.forEach s id id names () fun _ name descriptor => do
    match ← Script.readAll descriptor with
    | .error e => return (.unreadable e, ())
    | .ok b =>
        let shown := if names.isEmpty then [] else ' ' :: name
        match ← Script.writeAll Script.stdout (text b ++ shown ++ ['\n']) with
        | .ok () => return (.finished, ())
        | .error e => return (.unwritable e, ())

def cksum : Program := fun s => withOptions s { flags := "" } 1 fun _ names =>
  tellEach s names fun b => Bytes.ofNat (Digest.cyclic b) ++ ' ' :: Bytes.ofNat b.length

/-- Tells a sum of octets, and how many blocks they take. -/
def sum : Program := fun s =>
  withOptions s { flags := "rs", names := [("sysv", 's')] } 1 fun options names =>
    let isFolded := (options.letters.getLast?).getD 'r' == 's'
    tellEach s names fun b =>
      if isFolded then
        Bytes.ofNat (Digest.foldedSum b) ++ ' ' :: Bytes.ofNat ((b.length + 511) / 512)
      else
        Bytes.paddedDigits 10 5 (Digest.rotatedSum b) ++ ' ' ::
          Bytes.padLeft 5 (Bytes.ofNat ((b.length + 1023) / 1024))

end Checksum

end Playground.Tool
