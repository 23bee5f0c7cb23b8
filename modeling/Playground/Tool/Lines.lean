import Playground.Shell.Pattern
import Playground.Tool.Format
import Playground.Tool.Stream

set_option autoImplicit false

/-! # Lines

Programs that look at the lines of their input and write others. Those that can write a line as soon
as they have read it do so. -/

namespace Playground.Tool

open Machine (Bytes Options Program Script Start Grammar withOptions seeHelp)

namespace Lines

/-- Writes lines, each with its end. -/
def printLines (lines : List Bytes) : Script Unit :=
  Script.print (lines.flatMap fun line => line ++ ['\n'])

/-- The lines of all files, and the exit code so far. -/
def ofFiles (s : Start) (complaint : String) (names : List Bytes) : Script (List Bytes × Nat) := do
  let (files, isWhole) ← Script.readFiles s complaint names
  return (files.flatMap fun file => Bytes.lines file.2, if isWhole then 0 else 1)

/-- Complains about how a program was called. -/
def refuse (s : Start) (message : Bytes) : Script Nat := do
  Script.complain s (message ++ seeHelp s)
  return 1

/-- A line with its end, if it came with one. -/
def ended (isEnded : Bool) (line : Bytes) : Bytes := if isEnded then line ++ ['\n'] else line

/-! ## Ends and order -/

/-- The end of a text, from a line or an octet on. -/
structure Ending where
  isOctets : Bool
  isFromStart : Bool
  count : Nat

/-- The ending that an option asks for, or what is wrong with it. -/
def readEnding (isOctets : Bool) (value : Bytes) : Except Bytes Ending :=
  let (isFromStart, digits) :=
    match value with
    | '+' :: digits => (true, digits)
    | '-' :: digits => (false, digits)
    | digits => (false, digits)
  match Stream.size? digits with
  | some n => .ok ⟨isOctets, isFromStart, n⟩
  | none =>
      let unit := if isOctets then "bytes" else "lines"
      .error ("invalid number of ".toList ++ unit.toList ++ ": ".toList ++ Script.quoted value)

def Ending.of (e : Ending) (b : Bytes) : Bytes :=
  if e.isOctets then if e.isFromStart then b.drop (e.count - 1) else b.drop (b.length - e.count)
  else
    let lines := Bytes.lines b
    let skipped := if e.isFromStart then e.count - 1 else lines.length - e.count
    b.drop ((lines.take skipped).foldl (fun n line => n + line.length + 1) 0)

/-- Goes on to write what is added to a file. -/
def follow (steps descriptor : Nat) : Script Stream.Ending :=
  match steps with
  | 0 => return .finished
  | steps + 1 => do
      Script.ask (.sleep 10000)
      match ← Stream.copy Script.endless descriptor [Script.stdout] with
      | .finished => follow steps descriptor
      | other => return other

def tailGrammar : Grammar where
  flags := "fFqvz"
  valued := "cnsp"
  names := [("bytes", 'c'), ("follow", 'f'), ("lines", 'n'), ("quiet", 'q'), ("silent", 'q'),
    ("verbose", 'v'), ("zero-terminated", 'z'), ("sleep-interval", 's'), ("pid", 'p')]
  relaxed := "f"

def tail : Program := fun s =>
  let arguments :=
    match Stream.withCounts s.arguments with
    | ('+' :: c :: cs) :: rest => ['-', 'n'] :: ('+' :: c :: cs) :: rest
    | arguments => arguments
  let isOldStyle := arguments.length != s.arguments.length
  withOptions { s with arguments := arguments } tailGrammar 1 fun options names => do
    if isOldStyle && 1 < names.length then
      let count := (s.arguments.headD []).drop 1
      Script.complain s ("option used in invalid context -- ".toList ++ count.take 1)
      return 1
    let ending :=
      match options.value? 'c', options.value? 'n' with
      | some value, _ => readEnding true value
      | none, value => readEnding false (value.getD ['1', '0'])
    match ending with
    | .error e =>
        Script.complain s e
        return 1
    | .ok ending =>
        Stream.forEach s Stream.openFault Stream.readFault names true fun isFirst name descriptor =>
          Stream.withHeader options names isFirst name do
            match ← Stream.printPart descriptor ending.of with
            | .finished =>
                if (options.has 'f' || options.has 'F') && name != ['-'] then
                  follow Script.endless descriptor
                else return .finished
            | other => return other

/-- The lines of a text with their ends. -/
def records (b : Bytes) : List Bytes :=
  let lines := Bytes.lines b
  let isEnded := b.getLast? == some '\n'
  ((lines.dropLast.map fun line => line ++ ['\n']) ++
    (lines.getLast?.map fun line => ended isEnded line).toList)

def tac : Program := fun s =>
  withOptions s { flags := "br", valued := "s", names := [("before", 'b'), ("regex", 'r'),
    ("separator", 's')] } 1 fun _ names =>
    let openFault (name : Bytes) : Bytes :=
      "failed to open ".toList ++ Script.quoted name ++ " for reading".toList
    let readFault (name : Bytes) : Bytes := name ++ ": read error".toList
    Stream.forEach s openFault readFault names () fun _ _ descriptor => do
      return (← Stream.printPart descriptor fun b => (records b).reverse.flatten, ())

def rev : Program := fun s =>
  withOptions s { flags := "" } 1 fun _ names =>
    let openFault (name : Bytes) : Bytes := "cannot open ".toList ++ name
    Stream.forEach s openFault id names () fun _ _ descriptor =>
      ({ step := fun _ line isEnded => (ended isEnded line.reverse, ()) } : Stream.Filter Unit).copy
        Script.endless [] () descriptor

/-! ## Counting -/

structure Counts where
  lines : Nat
  words : Nat
  octets : Nat
  longest : Nat

def Counts.add (a b : Counts) : Counts :=
  ⟨a.lines + b.lines, a.words + b.words, a.octets + b.octets, max a.longest b.longest⟩

/-- The number of words of a text. -/
def countWords (b : Bytes) : Nat :=
  (b.foldl (fun (n, isInside) c =>
    if Bytes.isSpace c then (n, false) else (if isInside then n else n + 1, true)) (0, false)).1

/-- How many columns a line takes. -/
def columnsOf (line : Bytes) : Nat :=
  line.foldl (fun n c =>
    if c = '\t' then n + 8 - n % 8 else if 32 ≤ c.toNat ∧ c.toNat < 127 then n + 1 else n) 0

def countsOf (b : Bytes) : Counts :=
  ⟨b.count '\n', countWords b, b.length, ((Bytes.lines b).map columnsOf).foldl max 0⟩

/-- The counts that are asked for. -/
def wantedCounts (options : Options) (c : Counts) : List Nat :=
  let isDefault := !(options.letters.any fun letter => "lwcmL".toList.contains letter)
  (if options.has 'l' || isDefault then [c.lines] else []) ++
    (if options.has 'w' || isDefault then [c.words] else []) ++
    (if options.has 'm' then [c.octets] else []) ++
    (if options.has 'c' || isDefault then [c.octets] else []) ++
    (if options.has 'L' then [c.longest] else [])

/-- Counts in columns, and what they are the counts of. -/
def countLine (width : Nat) (counts : List Nat) (name : Bytes) : Bytes :=
  let column (n : Nat) : Bytes :=
    let digits := Bytes.ofNat n
    List.replicate (width - digits.length) ' ' ++ digits
  Bytes.joinWith [' '] (counts.map column) ++ if name.isEmpty then [] else ' ' :: name

/-- How wide columns are: as wide as the sum of the sizes of all files, and not narrow if a size is
    not known. -/
def countWidth (columns : Nat) (names : List Bytes) : Script Nat := do
  if names.length = 1 ∧ columns = 1 then return 1
  else
    let mut total := 0
    let mut least := 1
    for name in names do
      let path := if name = ['-'] then "/dev/stdin".toList else name
      match ← Script.ask (.status (Bytes.toText path) true) with
      | .ok ⟨_, ⟨.file contents, _⟩⟩ => total := total + contents.length
      | .ok _ => least := 7
      | .error _ => pure ()
    return max least (Bytes.ofNat total).length

def wcGrammar : Grammar where
  flags := "clLmw"
  names :=
    [("bytes", 'c'), ("chars", 'm'), ("lines", 'l'), ("max-line-length", 'L'), ("words", 'w')]

/-- Counts lines, words and octets. -/
def wc : Program := fun s => withOptions s wcGrammar 1 fun options names => do
  let files := if names.isEmpty then [['-']] else names
  let width ← countWidth (wantedCounts options ⟨0, 0, 0, 0⟩).length files
  let mut total : Counts := ⟨0, 0, 0, 0⟩
  let mut code := 0
  for name in files do
    let tell (c : Counts) : Script Unit :=
      let label := if names.isEmpty then [] else name
      Script.printLine (countLine width (wantedCounts options c) label)
    match ← Stream.openOperand name with
    | .error e =>
        Script.complainOf s "" name e
        code := 1
    | .ok descriptor =>
        match ← Script.readAll descriptor with
        | .ok b =>
            let counts := countsOf b
            tell counts
            total := total.add counts
        | .error e =>
            Script.complainOf s "" name e
            tell ⟨0, 0, 0, 0⟩
            code := 1
        if descriptor = Script.stdin then pure ()
        else
          let _ ← Script.ask (.close descriptor)
  if 1 < files.length then
    Script.printLine (countLine width (wantedCounts options total) "total".toList)
  else pure ()
  return code

/-! ## Sorting -/

/-- A place in a line: a character of a field, both counted from one. The character zero is the end
    of the field. -/
structure Place where
  field : Nat
  char : Nat
  skipsBlanks : Bool

/-- A key of a line: from one place to another, or to the end. -/
structure Key where
  first : Place
  last : Option Place
  letters : List Char

/-- A place such as "2.1b", with the letters and what follows them. -/
def readPlace (char : Nat) (b : Bytes) : Place × List Char × Bytes :=
  let field := b.takeWhile Char.isDigit
  let rest := b.drop field.length
  let (char, rest) :=
    match rest with
    | '.' :: rest =>
        let digits := rest.takeWhile Char.isDigit
        (Bytes.digitsValue digits, rest.drop digits.length)
    | rest => (char, rest)
  let letters := rest.takeWhile Char.isAlpha
  (⟨Bytes.digitsValue field, char, letters.contains 'b'⟩, letters, rest.drop letters.length)

/-- The key that an option gives, or what is wrong with it. -/
def readKey (b : Bytes) : Except Bytes Key :=
  let notNumber (b : Bytes) : Except Bytes Key :=
    .error ("invalid number at field start: invalid count at start of ".toList ++ Script.quoted b)
  let (first, letters, rest) := readPlace 1 b
  if (b.takeWhile Char.isDigit).isEmpty then notNumber b
  else if first.field = 0 then
    .error ("field number is zero: invalid field specification ".toList ++ Script.quoted b)
  else
    match rest with
    | [] => .ok ⟨first, none, letters⟩
    | ',' :: rest =>
        let (last, more, _) := readPlace 0 rest
        if (rest.takeWhile Char.isDigit).isEmpty then
          .error ("invalid number after ',': invalid count at start of ".toList ++
            Script.quoted rest)
        else .ok ⟨first, some last, letters ++ more⟩
    | _ =>
        .error ("stray character in field spec: invalid field specification ".toList ++
          Script.quoted b)

/-- How long the beginning of a line is that holds so many fields. With a separator, the separator
    after the last of them is not counted. -/
def fieldsLength (separator : Option Char) (count : Nat) (line : Bytes) : Nat :=
  match separator with
  | some c =>
      (Bytes.joinWith [c] ((Bytes.splitOn c line).take count)).length
  | none => go count line
where
  go : Nat → Bytes → Nat
    | 0, _ => 0
    | count + 1, line =>
        let blanks := line.takeWhile Bytes.isBlank
        let word := (line.drop blanks.length).takeWhile fun c => !Bytes.isBlank c
        let n := blanks.length + word.length
        n + go count (line.drop n)

/-- Where a field begins. -/
def fieldStart (separator : Option Char) (place : Place) (line : Bytes) : Nat :=
  let n := fieldsLength separator (place.field - 1) line
  let n := if separator.isSome && 1 < place.field then n + 1 else n
  if place.skipsBlanks then n + ((line.drop n).takeWhile Bytes.isBlank).length else n

def keyText (separator : Option Char) (k : Key) (line : Bytes) : Bytes :=
  let start := fieldStart separator k.first line + (k.first.char - 1)
  let stop :=
    match k.last with
    | none => line.length
    | some last =>
        if last.char = 0 then fieldsLength separator last.field line
        else fieldStart separator last line + last.char
  (line.take stop).drop start

/-- The number at the beginning of a text, scaled so that nine places after the point count. -/
def numberAt (b : Bytes) : Int := (Format.readFraction 9 (b.dropWhile Bytes.isBlank)).1

/-- A number with a unit: its sign, the place of the unit, and the number. -/
def sizeAt (b : Bytes) : Int × Int :=
  let b := b.dropWhile Bytes.isBlank
  let (n, rest) := Format.readFraction 9 b
  let unit : Int := ("KMGTPEZY".toList.idxOf ((rest.headD ' ').toUpper) : Nat)
  let unit := if unit = 8 then 0 else unit + 1
  (if n = 0 then 0 else if n < 0 then -(unit + 1) else unit + 1, n)

/-- Pieces of a text, numbers apart from what is between them. -/
def versionParts (steps : Nat) (b : Bytes) : List (Bytes × Nat) :=
  match steps, b with
  | 0, _ => []
  | _, [] => []
  | steps + 1, b =>
      let text := b.takeWhile fun c => !c.isDigit
      let digits := (b.drop text.length).takeWhile Char.isDigit
      (text, Bytes.digitsValue digits) :: versionParts steps (b.drop (text.length + digits.length))

/-- Is one sequence of pieces before another? Nothing is known if they are alike. -/
def versionBefore : List (Bytes × Nat) → List (Bytes × Nat) → Option Bool
  | [], [] => none
  | [], _ => some true
  | _, [] => some false
  | (a, m) :: as, (b, n) :: bs =>
      if a ≠ b then some (Bytes.before a b)
      else if m ≠ n then some (decide (m < n))
      else versionBefore as bs

/-- The months, as they are written. -/
def months : List Bytes :=
  ["JAN", "FEB", "MAR", "APR", "MAY", "JUN", "JUL", "AUG", "SEP", "OCT", "NOV", "DEC"].map
    String.toList

/-- The number of the month that a text begins with, or zero. -/
def monthAt (b : Bytes) : Nat :=
  let name := ((b.dropWhile Bytes.isBlank).take 3).map Char.toUpper
  match months.idxOf? name with
  | some i => i + 1
  | none => 0

/-- Is one text before another, in the order that these letters ask for? Nothing is known if they
    are alike. -/
def isBefore? (letters : List Char) (a b : Bytes) : Option Bool :=
  let prepare (t : Bytes) : Bytes :=
    let t := if letters.contains 'd' then t.filter fun c => c.isAlphanum || Bytes.isBlank c else t
    let t := if letters.contains 'i' then t.filter fun c => 32 ≤ c.toNat && c.toNat < 127 else t
    if letters.contains 'f' then t.map Char.toUpper else t
  let byNumber (m n : Int) : Option Bool := if m = n then none else some (decide (m < n))
  let order : Option Bool :=
    if letters.contains 'n' || letters.contains 'g' then byNumber (numberAt a) (numberAt b)
    else if letters.contains 'h' then
      let (x, y) := (sizeAt a, sizeAt b)
      (byNumber x.1 y.1).or (byNumber x.2 y.2)
    else if letters.contains 'M' then byNumber (monthAt a) (monthAt b)
    else if letters.contains 'V' then
      versionBefore (versionParts a.length a) (versionParts b.length b)
    else
      let (x, y) := (prepare a, prepare b)
      if x = y then none else some (Bytes.before x y)
  order.map fun isBefore => isBefore != letters.contains 'r'

/-- How lines are put in order. -/
structure LineOrder where
  letters : List Char
  separator : Option Char
  keys : List Key

/-- The order of lines by keys, the first that tells them apart. -/
def LineOrder.byKeys? (o : LineOrder) (a b : Bytes) : Option Bool :=
  let orderLetters := o.letters.filter fun c => "bdfghiMnRrV".toList.contains c
  match o.keys with
  | [] =>
      let trim (t : Bytes) : Bytes :=
        if o.letters.contains 'b' then t.dropWhile Bytes.isBlank else t
      isBefore? orderLetters (trim a) (trim b)
  | keys =>
      keys.findSome? fun k =>
        let letters := if k.letters.isEmpty then orderLetters else k.letters
        let k := if k.letters.isEmpty && o.letters.contains 'b' then
          { k with first := { k.first with skipsBlanks := true } } else k
        isBefore? letters (keyText o.separator k a) (keyText o.separator k b)

/-- Is a line not after another? Lines that keys do not tell apart are compared as a whole. -/
def LineOrder.notAfter (o : LineOrder) (a b : Bytes) : Bool :=
  match o.byKeys? a b with
  | some isBefore => isBefore
  | none =>
      if o.letters.contains 's' || o.letters.contains 'u' then true
      else (isBefore? (o.letters.filter (· == 'r')) a b).getD true

/-- Lines of which no two neighbours are alike. -/
def withoutRepeats (alike : Bytes → Bytes → Bool) : List Bytes → List Bytes
  | [] => []
  | line :: rest =>
      let others := withoutRepeats alike rest
      match others with
      | next :: more => if alike line next then line :: more else line :: others
      | [] => [line]

/-- The first line that is not after the one before it, with its number. -/
def disorder? (o : LineOrder) (number : Nat) : List Bytes → Option (Nat × Bytes)
  | first :: second :: rest =>
      let isOrdered :=
        if o.letters.contains 'u' then (o.byKeys? first second).getD false
        else o.notAfter first second
      if isOrdered then disorder? o (number + 1) (second :: rest) else some (number + 1, second)
  | _ => none

def sortGrammar : Grammar where
  flags := "bcCdfghiMmnRrsuVz"
  valued := "koStT"
  names := [("ignore-leading-blanks", 'b'), ("check", 'c'), ("dictionary-order", 'd'),
    ("ignore-case", 'f'), ("general-numeric-sort", 'g'), ("human-numeric-sort", 'h'),
    ("ignore-nonprinting", 'i'), ("key", 'k'), ("month-sort", 'M'), ("merge", 'm'),
    ("numeric-sort", 'n'), ("output", 'o'), ("random-sort", 'R'), ("reverse", 'r'),
    ("buffer-size", 'S'), ("stable", 's'), ("field-separator", 't'), ("temporary-directory", 'T'),
    ("unique", 'u'), ("version-sort", 'V'), ("zero-terminated", 'z')]
  relaxed := "c"

/-- The order that options ask for, or what is wrong with them. -/
def orderingOf (options : Options) : Except Bytes LineOrder := do
  let separator ←
    match options.value? 't' with
    | none => .ok none
    | some [] => .error "empty tab".toList
    | some [c] => .ok (some c)
    | some ['\\', '0'] => .ok (some (Char.ofNat 0))
    | some b => .error ("multi-character tab ".toList ++ Script.quoted b)
  let keys ← (options.values 'k').mapM readKey
  return ⟨options.letters, separator, keys⟩

def sort : Program := fun s => withOptions s sortGrammar 2 fun options names => do
  match orderingOf options with
  | .error e =>
      Script.complain s e
      return 2
  | .ok ordering =>
      let (lines, code) ← ofFiles s "cannot read: " names
      if code ≠ 0 then return 2
      else if options.has 'c' || options.has 'C' then
        match disorder? ordering 1 lines with
        | none => return 0
        | some (number, line) =>
            if options.has 'C' then pure ()
            else
              Script.complain s (names.headD ['-'] ++ ':' :: Bytes.ofNat number ++
                ": disorder: ".toList ++ line)
            return 1
      else
        let sorted := lines.mergeSort ordering.notAfter
        let sorted :=
          if options.has 'u' then withoutRepeats (fun a b => (ordering.byKeys? a b).isNone) sorted
          else sorted
        match options.value? 'o' with
        | none =>
            printLines sorted
            return 0
        | some name =>
            match ← Script.ask (.openAt (Bytes.toText name) .overwrite 0o666) with
            | .ok descriptor =>
                Script.put descriptor (sorted.flatMap fun line => line ++ ['\n'])
                return 0
            | .error e =>
                Script.complainOf s "open failed: " name e
                return 2

/-! ## Repeats -/

/-- What counts of a line when it is compared with the next. -/
def comparedPart (options : Options) (line : Bytes) : Bytes :=
  let count (letter : Char) : Option Nat := (options.value? letter).bind Bytes.toNat?
  let line := line.drop (fieldsLength none ((count 'f').getD 0) line)
  let line := line.drop ((count 's').getD 0)
  let line :=
    match count 'w' with
    | some n => line.take n
    | none => line
  if options.has 'i' then line.map Char.toLower else line

/-- The runs of lines that are alike. -/
def runs (alike : Bytes → Bytes → Bool) (lines : List Bytes) : List (List Bytes) :=
  lines.foldr (fun line found =>
    match found with
    | (next :: same) :: more =>
        if alike line next then (line :: next :: same) :: more else [line] :: found
    | _ => [line] :: found) []

def uniqGrammar : Grammar where
  flags := "cdDiuz"
  valued := "fsw"
  names := [("count", 'c'), ("repeated", 'd'), ("all-repeated", 'D'), ("ignore-case", 'i'),
    ("unique", 'u'), ("zero-terminated", 'z'), ("skip-fields", 'f'), ("skip-chars", 's'),
    ("check-chars", 'w')]
  relaxed := "D"

def uniq : Program := fun s => withOptions s uniqGrammar 1 fun options names => do
  let (lines, code) ← ofFiles s "" (names.take 1)
  if code ≠ 0 then return code
  else
    let alike (a b : Bytes) : Bool := comparedPart options a == comparedPart options b
    let kept := (runs alike lines).filter fun run =>
      (!(options.has 'd' || options.has 'D') || 1 < run.length) &&
        (!options.has 'u' || run.length == 1)
    let shown (run : List Bytes) : List Bytes :=
      let line := run.headD []
      let digits := Bytes.ofNat run.length
      if options.has 'D' then run
      else if options.has 'c' then
        [List.replicate (7 - digits.length) ' ' ++ digits ++ ' ' :: line]
      else [line]
    let output := (kept.flatMap shown).flatMap fun line => line ++ ['\n']
    match names with
    | _ :: _ :: extra :: _ => refuse s ("extra operand ".toList ++ Script.quoted extra)
    | [_, name] =>
        match ← Script.ask (.openAt (Bytes.toText name) .overwrite 0o666) with
        | .ok descriptor =>
            Script.put descriptor output
            return 0
        | .error e =>
            Script.complainOf s "" name e
            return 1
    | _ =>
        Script.print output
        return 0

/-! ## Columns -/

/-- What is counted in a list of ranges. -/
inductive Counted where
  | fields
  | characters

def Counted.zeroFault : Counted → Bytes
  | .fields => "fields are numbered from 1".toList
  | .characters => "byte/character positions are numbered from 1".toList

/-- One range of a list. -/
def readRange (counted : Counted) (piece : Bytes) : Except Bytes (Nat × Option Nat) :=
  let low := piece.takeWhile Char.isDigit
  let rest := piece.drop low.length
  let wrong (b : Bytes) : Except Bytes (Nat × Option Nat) :=
    match counted with
    | .fields => .error ("invalid field value ".toList ++ Script.quoted b)
    | .characters => .error ("invalid byte/character position ".toList ++ Script.quoted b)
  match rest with
  | [] =>
      let n := Bytes.digitsValue low
      if n = 0 then .error counted.zeroFault else .ok (n, some n)
  | '-' :: high =>
      let first := if low.isEmpty then 1 else Bytes.digitsValue low
      if first = 0 then .error counted.zeroFault
      else if high.isEmpty then
        if low.isEmpty then .error "invalid range with no endpoint: -".toList
        else .ok (first, none)
      else if Bytes.isDigits high then
        if Bytes.digitsValue high < first then .error "invalid decreasing range".toList
        else .ok (first, some (Bytes.digitsValue high))
      else if high.contains '-' then
        match counted with
        | .fields => .error "invalid field range".toList
        | .characters => .error "invalid byte or character range".toList
      else wrong (high.dropWhile Char.isDigit)
  | rest => wrong rest

/-- The ranges of a list such as "1,3-5". -/
def readRanges (counted : Counted) (b : Bytes) : Except Bytes (List (Nat × Option Nat)) :=
  (Bytes.splitOn ',' (b.map fun c => if Bytes.isBlank c then ',' else c)).mapM (readRange counted)

def isInRanges (ranges : List (Nat × Option Nat)) (n : Nat) : Bool :=
  ranges.any fun (low, high) => low ≤ n && match high with
    | some high => n ≤ high
    | none => true

/-- The members of a list whose places, counted from one, are wanted. -/
def atPlaces {α : Type} (isWanted : Nat → Bool) (items : List α) : List α :=
  ((List.range items.length).zip items).filterMap fun ((i : Nat), a) =>
    if isWanted (i + 1) then some a else none

/-- What is cut out of lines. -/
inductive Selection where
  | characters (isWanted : Nat → Bool)
  | fields (isWanted : Nat → Bool) (separator : Char) (joint : Bytes) (skipsOthers : Bool)

/-- The selection that options ask for, or what is wrong with them. -/
def selectionOf (options : Options) : Except Bytes Selection := do
  let lists := options.given.filter fun o => "bcf".toList.contains o.1
  match lists with
  | [] => .error "you must specify a list of bytes, characters, or fields".toList
  | _ :: _ :: _ => .error "only one list may be specified".toList
  | [('f', b)] =>
      let ranges ← readRanges .fields b
      let separator ←
        match options.value? 'd' with
        | none => .ok '\t'
        | some [c] => .ok c
        | some [] => .ok (Char.ofNat 0)
        | some _ => .error "the delimiter must be a single character".toList
      let isWanted (n : Nat) : Bool := isInRanges ranges n != options.has 'C'
      return .fields isWanted separator ((options.value? 'O').getD [separator]) (options.has 's')
  | [(_, b)] =>
      let ranges ← readRanges .characters b
      if options.has 'd' then
        .error "an input delimiter may be specified only when operating on fields".toList
      else if options.has 's' then
        .error ("suppressing non-delimited lines makes sense\n" ++
          "\tonly when operating on fields").toList
      else return .characters fun n => isInRanges ranges n != options.has 'C'

def Selection.of (selection : Selection) (line : Bytes) : Option Bytes :=
  match selection with
  | .characters isWanted => some (atPlaces isWanted line)
  | .fields isWanted separator joint skipsOthers =>
      if line.contains separator then
        some (Bytes.joinWith joint (atPlaces isWanted (Bytes.splitOn separator line)))
      else if skipsOthers then none
      else some line

def cutGrammar : Grammar where
  flags := "Cnsz"
  valued := "bcdfO"
  names := [("bytes", 'b'), ("characters", 'c'), ("delimiter", 'd'), ("fields", 'f'),
    ("complement", 'C'), ("only-delimited", 's'), ("output-delimiter", 'O'),
    ("zero-terminated", 'z')]

def cut : Program := fun s => withOptions s cutGrammar 1 fun options names => do
  match selectionOf options with
  | .error e => refuse s e
  | .ok selection =>
      Stream.filterFiles s names () { step := fun _ line _ =>
        (((selection.of line).map fun b => b ++ ['\n']).getD [], ()) }

/-! ## Characters -/

/-- The characters that a set of an exchange spells, or what is wrong with it. -/
def spelled (steps : Nat) (b : Bytes) : Except Bytes Bytes :=
  match steps, b with
  | 0, _ => .ok []
  | _, [] => .ok []
  | steps + 1, b => do
      let name := (b.drop 2).takeWhile Char.isAlpha
      if ['[', ':'].isPrefixOf b ∧ [':', ']'].isPrefixOf (b.drop (2 + name.length)) then
        let choice : Shell.Pattern.Choice := .named (String.ofList name)
        let members := ((List.range 256).map fun (n : Nat) => Char.ofNat n).filter fun c =>
          choice.has c
        return members ++ (← spelled steps (b.drop (4 + name.length)))
      else
        let (low, rest) := takeOne b
        let digits := (b.drop 3).takeWhile Char.isDigit
        match low, rest with
        | '[', c :: '*' :: _ =>
            if b[3 + digits.length]? == some ']' then
              return List.replicate (max 1 (Bytes.digitsValue digits)) c ++
                (← spelled steps (b.drop (4 + digits.length)))
            else return low :: (← spelled steps rest)
        | low, '-' :: d :: after =>
            let (high, after) := takeOne (d :: after)
            if high.toNat < low.toNat then
              .error ("range-endpoints of ".toList ++ Script.quoted [low, '-', high] ++
                " are in reverse collating sequence order".toList)
            else
              let members := (List.range (high.toNat + 1 - low.toNat)).map fun (n : Nat) =>
                Char.ofNat (low.toNat + n)
              return members ++ (← spelled steps after)
        | low, rest => return low :: (← spelled steps rest)
where
  /-- One character, which may be an escape. -/
  takeOne : Bytes → Char × Bytes
    | '\\' :: rest =>
        let (cs, rest) := Format.takeEscape false rest
        match cs, rest with
        | ['\\'], c :: rest => if c = '\\' then ('\\', rest) else (c, rest)
        | cs, rest => (cs.headD '\\', rest)
    | c :: rest => (c, rest)
    | [] => (' ', [])

/-- What is done with characters: one of two things, or both. -/
structure Exchange where
  /-- What a character becomes, if it is kept. -/
  change : Char → Option Char
  isSqueezed : Char → Bool

/-- The exchange that options and sets ask for, or what is wrong with them. -/
def exchangeOf (options : Options) (sets : List Bytes) : Except Bytes Exchange := do
  let (deletes, squeezes) := (options.has 'd', options.has 's')
  let first ← spelled ((sets.headD []).length) (sets.headD [])
  let second ← spelled ((sets.getD 1 []).length) (sets.getD 1 [])
  let isComplement := options.has 'c' || options.has 'C'
  let first :=
    if options.has 't' && !isComplement then first.take second.length else first
  let isMember (c : Char) : Bool := first.contains c != isComplement
  let place (c : Char) : Nat :=
    if isComplement then second.length - 1 else first.length - 1 - first.reverse.idxOf c
  if deletes then
    return ⟨fun c => if isMember c then none else some c, fun c => squeezes && second.contains c⟩
  else if sets.length = 1 then return ⟨some, isMember⟩
  else if second.isEmpty ∧ !first.isEmpty then
    .error "when not truncating set1, string2 must be non-empty".toList
  else
    let image (c : Char) : Char := second.getD (place c) (second.getLastD c)
    return ⟨fun c => some (if isMember c then image c else c),
      fun c => squeezes && second.contains c⟩

/-- What is wrong with the number of sets, if anything is. -/
def setsFault? (options : Options) (sets : List Bytes) : Option Bytes :=
  let (deletes, squeezes) := (options.has 'd', options.has 's')
  match sets with
  | [] => some "missing operand".toList
  | [first] =>
      let missing := "missing operand after ".toList ++ Script.quoted first
      if deletes ∧ squeezes then
        some (missing ++ ("\nTwo strings must be given when both deleting and " ++
          "squeezing repeats.").toList)
      else if deletes ∨ squeezes then none
      else some (missing ++ "\nTwo strings must be given when translating.".toList)
  | [_, second] =>
      if deletes ∧ !squeezes then
        some ("extra operand ".toList ++ Script.quoted second ++
          "\nOnly one string may be given when deleting without squeezing repeats.".toList)
      else none
  | _ :: _ :: extra :: _ => some ("extra operand ".toList ++ Script.quoted extra)

/-- What an exchange makes of a text, given the last character written before. -/
def Exchange.apply (t : Exchange) (last : Option Char) (b : Bytes) : Bytes × Option Char :=
  let (taken, last) := b.foldl (fun ((taken : Bytes), (last : Option Char)) c =>
    match t.change c with
    | none => (taken, last)
    | some c => if last == some c && t.isSqueezed c then (taken, last) else (c :: taken, some c))
    ([], last)
  (taken.reverse, last)

/-- Exchanges all that comes. -/
def Exchange.copy (t : Exchange) (s : Start) (steps : Nat) (last : Option Char) :
    Script Nat :=
  match steps with
  | 0 => return 0
  | steps + 1 => do
      match ← Script.ask (.read Script.stdin Script.chunkSize) with
      | .ok [] => return 0
      | .error e =>
          Script.complain s ("read error: ".toList ++ Script.errorText e)
          return 1
      | .ok octets =>
          let (text, last) := t.apply last (Bytes.ofOctets octets)
          match ← Script.writeAll Script.stdout text with
          | .ok () => t.copy s steps last
          | .error e =>
              Script.complain s ("write error: ".toList ++ Script.errorText e)
              return 1

def trGrammar : Grammar where
  flags := "cCdst"
  names := [("complement", 'c'), ("delete", 'd'), ("squeeze-repeats", 's'), ("truncate-set1", 't')]
  endsEarly := true

/-- Replaces, deletes and squeezes characters. -/
def tr : Program := fun s => withOptions s trGrammar 1 fun options sets => do
  match setsFault? options sets, exchangeOf options sets with
  | some e, _ => refuse s e
  | none, .error e =>
      Script.complain s e
      return 1
  | none, .ok t => t.copy s Script.endless none

/-! ## Numbers -/

/-- How many digits a number has after its point. -/
def placesOf (b : Bytes) : Nat := ((b.dropWhile (· != '.')).drop 1).length

/-- Is a text a number with or without a point? -/
def isDecimal (b : Bytes) : Bool :=
  let digits := b.dropWhile fun c => c == '-' || c == '+'
  b.length ≤ digits.length + 1 && digits.any Char.isDigit &&
    digits.all (fun c => c.isDigit || c == '.') && digits.count '.' ≤ 1

/-- A number of which the last digits are places after the point. -/
def decimal (places : Nat) (value : Int) : Bytes :=
  let digits := Bytes.ofNat value.natAbs
  let digits := List.replicate (places + 1 - digits.length) '0' ++ digits
  let whole := digits.take (digits.length - places)
  (if value < 0 then ['-'] else []) ++ whole ++
    if places = 0 then [] else '.' :: digits.drop (digits.length - places)

/-- Numbers in a row, and how they are written. -/
structure Sequence where
  first : Int
  step : Int
  count : Nat
  format : Int → Bytes
  separator : Bytes

/-- Writes the numbers from one on, many at a time. -/
def Sequence.writeFrom (q : Sequence) (steps written : Nat) : Script Nat :=
  match steps with
  | 0 => return 0
  | steps + 1 => do
      let size := min 1000 (q.count - written)
      if size = 0 then return 0
      else
        let texts := (List.range size).map fun (i : Nat) =>
          let n := written + i
          q.format (q.first + n * q.step) ++ if n + 1 = q.count then ['\n'] else q.separator
        match ← Script.writeAll Script.stdout texts.flatten with
        | .ok () => q.writeFrom steps (written + size)
        | .error _ => return 1

def seqGrammar : Grammar where
  flags := "w"
  valued := "fs"
  names := [("equal-width", 'w'), ("format", 'f'), ("separator", 's')]
  endsEarly := true

/-- The sequence that options and numbers ask for. -/
def sequenceOf (options : Options) (first step last : Bytes) : Sequence :=
  let places := max (placesOf first) (placesOf step)
  let scale := max places (placesOf last)
  let value (b : Bytes) : Int := (Format.readFraction scale b).1
  let (low, increment, high) := (value first, value step, value last)
  let written (v : Int) : Bytes := decimal places (v / (Nat.pow 10 (scale - places) : Nat))
  let width := max (written low).length (written high).length
  let padded (b : Bytes) : Bytes :=
    let (sign, digits) := b.span (· == '-')
    sign ++ List.replicate (width - b.length) '0' ++ digits
  { first := low
    step := increment
    count :=
      (if 0 < increment then (high - low) / increment + 1
        else (low - high) / (-increment) + 1).toNat
    format := fun v =>
      match options.value? 'f' with
      | some format => (Format.write true format [written v]).text
      | none => if options.has 'w' then padded (written v) else written v
    separator := (options.value? 's').getD ['\n'] }

def seq : Program := fun s =>
  let isNegative (b : Bytes) : Bool :=
    match b with
    | '-' :: c :: _ => c.isDigit || c == '.'
    | _ => false
  let before := s.arguments.takeWhile fun b => !isNegative b
  let after := s.arguments.drop before.length
  let arguments := if after.isEmpty then before else before ++ ['-', '-'] :: after
  withOptions { s with arguments := arguments } seqGrammar 1 fun options operands => do
    let operands := operands.filter (· != ['-', '-'])
    match operands.find? fun b => !isDecimal b, operands with
    | _, [] => refuse s "missing operand".toList
    | some wrong, _ => refuse s ("invalid floating point argument: ".toList ++ Script.quoted wrong)
    | none, [last] => (sequenceOf options ['1'] ['1'] last).writeFrom Script.endless 0
    | none, [first, last] => (sequenceOf options first ['1'] last).writeFrom Script.endless 0
    | none, [first, step, last] =>
        if (Format.readFraction (placesOf step) step).1 = 0 then
          refuse s ("invalid Zero increment value: ".toList ++ Script.quoted step)
        else (sequenceOf options first step last).writeFrom Script.endless 0
    | none, _ :: _ :: _ :: extra :: _ => refuse s ("extra operand ".toList ++ Script.quoted extra)

/-! ## Shapes -/

/-- Lines of at most so many characters, broken after blanks where that is wanted and can be. -/
def folded (atBlanks : Bool) (width steps : Nat) (line : Bytes) : List Bytes :=
  match steps with
  | 0 => []
  | steps + 1 =>
      if line.length ≤ width then [line]
      else
        let piece := line.take width
        let short := (piece.reverse.dropWhile fun c => !Bytes.isBlank c).reverse
        let piece := if atBlanks && !short.isEmpty then short else piece
        piece :: folded atBlanks width steps (line.drop piece.length)

def foldGrammar : Grammar where
  flags := "bs"
  valued := "w"
  names := [("bytes", 'b'), ("spaces", 's'), ("width", 'w')]

def fold : Program := fun s =>
  let arguments :=
    match Stream.withCounts s.arguments with
    | ['-', 'n'] :: rest => ['-', 'w'] :: rest
    | arguments => arguments
  withOptions { s with arguments := arguments } foldGrammar 1 fun options names => do
    match ((options.value? 'w').getD ['8', '0']), (options.value? 'w').map Bytes.toNat? with
    | text, some none =>
        Script.complain s ("invalid number of columns: ".toList ++ Script.quoted text)
        return 1
    | text, some (some 0) =>
        Script.complain s ("invalid number of columns: ".toList ++ Script.quoted text ++
          ": Numerical result out of range".toList)
        return 1
    | _, width =>
        let width := (width.bind id).getD 80
        Stream.filterFiles s names () { step := fun _ line isEnded =>
          let pieces := folded (options.has 's') width (line.length + 1) line
          (ended isEnded (Bytes.joinWith ['\n'] pieces), ()) }

/-- Every so manyth of some lines, from one on. -/
def everyNth (count start : Nat) (lines : List Bytes) : List Bytes :=
  atPlaces (fun n => (n - 1) % count == start) lines

def pasteGrammar : Grammar where
  flags := "sz"
  valued := "d"
  names := [("delimiters", 'd'), ("serial", 's'), ("zero-terminated", 'z')]

/-- Lines of several files side by side, or of one file in a row. -/
def paste : Program := fun s => withOptions s pasteGrammar 1 fun options names => do
  let names := if names.isEmpty then [['-']] else names
  let (files, isWhole) ← Script.readFiles s "" (names.eraseDups)
  if !isWhole then return 1
  else
    let separators := ((options.value? 'd').getD ['\t'])
    let separators := (Format.unescaped false separators).1
    let linesOf (name : Bytes) : List Bytes := Bytes.lines ((files.lookup name).getD [])
    let dashes := names.count ['-']
    let columns := ((List.range names.length).zip names).map fun ((i : Nat), name) =>
      if name = ['-'] && !options.has 's' then
        everyNth dashes ((names.take i).count ['-']) (linesOf name)
      else linesOf name
    let rows :=
      if options.has 's' then columns
      else
        let height := (columns.map List.length).foldl max 0
        (List.range height).map fun (i : Nat) => columns.map fun lines => lines.getD i []
    let joined (row : List Bytes) : Bytes :=
      (((List.range row.length).zip row).map fun ((i : Nat), field) =>
        (if i = 0 || separators.isEmpty then []
          else [separators.getD ((i - 1) % separators.length) '\t']) ++ field).flatten
    printLines (rows.map joined)
    return 0

def nlGrammar : Grammar where
  flags := "p"
  valued := "bdfhilnsvw"
  names := [("body-numbering", 'b'), ("section-delimiter", 'd'), ("footer-numbering", 'f'),
    ("header-numbering", 'h'), ("line-increment", 'i'), ("join-blank-lines", 'l'),
    ("number-format", 'n'), ("no-renumber", 'p'), ("number-separator", 's'),
    ("starting-line-number", 'v'), ("number-width", 'w')]

/-- Numbers lines, those that are not blank or all of them. -/
def nl : Program := fun s => withOptions s nlGrammar 1 fun options names => do
  let count (letter : Char) (default : Nat) : Nat :=
    ((options.value? letter).bind Bytes.toNat?).getD default
  let style := (options.value? 'b').getD ['t']
  let separator := (options.value? 's').getD ['\t']
  let width := count 'w' 6
  let place (number : Nat) : Bytes :=
    let digits := Bytes.ofNat number
    match (options.value? 'n').map String.ofList with
    | some "ln" => digits ++ List.replicate (width - digits.length) ' '
    | some "rz" => List.replicate (width - digits.length) '0' ++ digits
    | _ => List.replicate (width - digits.length) ' ' ++ digits
  Stream.filterFiles s names (count 'v' 1) { step := fun number line _ =>
    if style = ['n'] || (line.isEmpty && style != ['a']) then
      (List.replicate (width + separator.length) ' ' ++ line ++ ['\n'], number)
    else (place number ++ separator ++ line ++ ['\n'], number + count 'i' 1) }

end Lines

end Playground.Tool
