import Playground.Tool.Files
import Playground.Tool.Stream

set_option autoImplicit false

/-! # Blocks and sizes

Programs that copy blocks of octets, give files a size, and compare files octet by octet. -/

namespace Playground.Tool

open Machine (Bytes Program Script Start Options Grammar withOptions seeHelp)

namespace Blocks

/-! ## Copying blocks -/

/-- What a copy has been told, as names and values. -/
structure Settings where
  entries : List (Bytes × Bytes)

def Settings.value? (s : Settings) (name : String) : Option Bytes :=
  s.entries.reverse.lookup name.toList

/-- Is a word among those of a list? -/
def Settings.lists (s : Settings) (name word : String) : Bool :=
  (Bytes.splitOn ',' ((s.value? name).getD [])).contains word.toList

def settingNames : List String :=
  ["if", "of", "bs", "ibs", "obs", "cbs", "count", "skip", "seek", "conv", "status", "iflag",
    "oflag"]

/-- The settings that words make, or the first word that makes none. -/
def readSettings : List Bytes → Except Bytes Settings
  | [] => .ok ⟨[]⟩
  | word :: rest =>
      let name := word.takeWhile (· != '=')
      match word.drop name.length with
      | _ :: value =>
          if settingNames.contains (String.ofList name) then
            match readSettings rest with
            | .ok s => .ok ⟨(name, value) :: s.entries⟩
            | .error e => .error e
          else .error word
      | [] => .error word

/-- How many blocks have been read or written, whole ones and others. -/
structure Tally where
  whole : Nat
  partly : Nat

def Tally.add (t : Tally) (isWhole : Bool) : Tally :=
  if isWhole then { t with whole := t.whole + 1 } else { t with partly := t.partly + 1 }

def Tally.text (t : Tally) : Bytes := Bytes.ofNat t.whole ++ '+' :: Bytes.ofNat t.partly

/-- How a copy goes on: how many blocks are left, and what has been copied. -/
structure Progress where
  left : Option Nat
  read : Tally
  written : Tally
  size : Nat
  /-- What has ended the copy, and whether it was a read. -/
  fault : Option (Bool × HostError)

/-- Reads a block, in several steps if only a whole one will do. -/
def readBlock (fills : Bool) (steps descriptor size : Nat) : Script (Except HostError Bytes) :=
  match steps with
  | 0 => return .ok []
  | steps + 1 => do
      match ← Script.ask (.read descriptor size) with
      | .error e => return .error e
      | .ok octets =>
          let block := Bytes.ofOctets octets
          if fills && !block.isEmpty && block.length < size then
            match ← readBlock fills steps descriptor (size - block.length) with
            | .ok more => return .ok (block ++ more)
            | .error e => return .error e
          else return .ok block

/-- Copies blocks, changed on the way. -/
def copyBlocks (fills : Bool) (change : Bytes → Bytes) (size source target steps : Nat)
    (p : Progress) : Script Progress :=
  match steps with
  | 0 => return p
  | steps + 1 => do
      if p.left = some 0 then return p
      else
        match ← readBlock fills Script.endless source size with
        | .error e => return { p with fault := some (true, e) }
        | .ok [] => return p
        | .ok block =>
            let p := { p with read := p.read.add (block.length == size) }
            let out := change block
            match ← Script.writeAll target out with
            | .error e => return { p with fault := some (false, e) }
            | .ok () =>
                copyBlocks fills change size source target steps
                  { p with
                    left := p.left.map fun n => n - 1
                    written := p.written.add (out.length == size)
                    size := p.size + out.length }

/-- Passes blocks over. -/
def skipBlocks (descriptor size : Nat) : Nat → Script Unit
  | 0 => return ()
  | count + 1 => do
      let _ ← readBlock true Script.endless descriptor size
      skipBlocks descriptor size count

/-- What stays of a file in front of the copy, and what may stay after it. -/
def surroundings (settings : Settings) (name : Bytes) (offset : Nat) : Script (Bytes × Bytes) := do
  let isKept := settings.lists "conv" "notrunc"
  if offset = 0 && !isKept then return ([], [])
  else
    match ← Script.readFile name with
    | .error _ => return (List.replicate offset (Char.ofNat 0), [])
    | .ok b =>
        return (b.take offset ++ List.replicate (offset - b.length) (Char.ofNat 0),
          if isKept then b.drop offset else [])

/-- Is a text no number of blocks or octets? A block has at least one octet. -/
def isWrongNumber (name : String) (text : Bytes) : Bool :=
  match Stream.size? text with
  | none => true
  | some n => n = 0 ∧ ["bs", "ibs", "obs", "cbs"].contains name

def conversions : List String :=
  ["ascii", "ebcdic", "ibm", "block", "unblock", "lcase", "ucase", "sparse", "swab", "sync", "excl",
    "nocreat", "notrunc", "noerror", "fdatasync", "fsync"]

def fileFlags : List String :=
  ["append", "binary", "cio", "direct", "directory", "dsync", "noatime", "nocache", "noctty",
    "nofollow", "nolinks", "nonblock", "sync", "text", "fullblock", "count_bytes", "skip_bytes",
    "seek_bytes"]

/-- What is wrong with a setting, if anything is. -/
def fault? (s : Start) (name : String) (value : Bytes) : Option Bytes :=
  let unknown (what : String) (words : List String) : Option Bytes :=
    let wrong := (Bytes.splitOn ',' value).find? fun w => !words.contains (String.ofList w)
    wrong.map fun word => what.toList ++ Script.quoted word ++ seeHelp s
  match name with
  | "conv" => unknown "invalid conversion: " conversions
  | "iflag" => unknown "invalid input flag: " fileFlags
  | "oflag" => unknown "invalid output flag: " fileFlags
  | "status" =>
      if ["none", "noxfer", "progress"].contains (String.ofList value) then none
      else some ("invalid status level: ".toList ++ Script.quoted value ++ seeHelp s)
  | "if" => none
  | "of" => none
  | number =>
      if isWrongNumber number value then some ("invalid number: ".toList ++ Script.quoted value)
      else none

/-- What comes out of a block: its letters in one case, pairs of octets in the other order, and
    zeros after it if it is to be whole. -/
def converted (settings : Settings) (size : Nat) (b : Bytes) : Bytes :=
  let rec swapped : Bytes → Bytes
    | x :: y :: rest => y :: x :: swapped rest
    | rest => rest
  let b := if settings.lists "conv" "swab" then swapped b else b
  let b :=
    if settings.lists "conv" "sync" then b ++ List.replicate (size - b.length) (Char.ofNat 0) else b
  if settings.lists "conv" "ucase" then b.map Char.toUpper
  else if settings.lists "conv" "lcase" then b.map Char.toLower
  else b

/-- Copies blocks from one file to another, and tells how many. -/
def dd : Program := fun s => do
  let refuse (text : Bytes) : Script Nat := do
    Script.complain s text
    return 1
  match readSettings s.arguments with
  | .error word => refuse ("unrecognized operand ".toList ++ Script.quoted word ++ seeHelp s)
  | .ok settings =>
      let number (name : String) : Option Nat := (settings.value? name).bind Stream.size?
      match settings.entries.findSome? fun entry => fault? s (String.ofList entry.1) entry.2 with
      | some text => refuse text
      | none =>
          let size := ((number "bs").or (number "ibs")).getD 512
          let openSource : Script (Except HostError Nat) :=
            match settings.value? "if" with
            | some name => Script.ask (.openAt (Bytes.toText name) .read 0)
            | none => return .ok Script.stdin
          match ← openSource with
          | .error e =>
              Files.failed s "failed to open" ((settings.value? "if").getD []) e
              return 1
          | .ok source =>
              let offset := (number "seek").getD 0 * ((number "bs").or (number "obs")).getD 512
              let (before, after) ← match settings.value? "of" with
                | some name => surroundings settings name offset
                | none => pure ([], [])
              let openTarget : Script (Except HostError Nat) :=
                match settings.value? "of" with
                | some name => do
                    let isThere := (← Condition.status? name true).isSome
                    if isThere && settings.lists "conv" "excl" then return .error .alreadyExists
                    else if !isThere && settings.lists "conv" "nocreat" then return .error .notFound
                    else Script.ask (.openAt (Bytes.toText name) .overwrite 0o666)
                | none => return .ok Script.stdout
              match ← openTarget with
              | .error e =>
                  Files.failed s "failed to open" ((settings.value? "of").getD []) e
                  return 1
              | .ok target =>
                  Script.put target before
                  skipBlocks source size ((number "skip").getD 0)
                  let fills := settings.lists "iflag" "fullblock"
                  let p ← copyBlocks fills (converted settings size) size source target
                    Script.endless ⟨number "count", ⟨0, 0⟩, ⟨0, 0⟩, 0, none⟩
                  Script.put target (after.drop p.size)
                  match p.fault with
                  | some (true, e) =>
                      Files.failed s "error reading"
                        ((settings.value? "if").getD "standard input".toList) e
                  | some (false, e) =>
                      Files.failed s "error writing"
                        ((settings.value? "of").getD "standard output".toList) e
                  | none => pure ()
                  let counts := p.read.text ++ " records in\n".toList ++ p.written.text ++
                    " records out\n".toList
                  let unit := if p.size = 1 then " byte" else " bytes"
                  let total := Bytes.ofNat p.size ++ unit.toList ++
                    " copied, 0.0001 s, 1.0 MB/s\n".toList
                  match (settings.value? "status").map String.ofList with
                  | some "none" => pure ()
                  | some "noxfer" => Script.put Script.stderr counts
                  | _ => Script.put Script.stderr (counts ++ total)
                  return if p.fault.isSome then 1 else 0

/-! ## Sizes -/

/-- What is done to the size of a file with a number. -/
inductive Resize where
  | assign
  | add
  | subtract
  | atMost
  | atLeast
  /-- To a multiple, down or up. -/
  | roundDown
  | roundUp

def Resize.apply (r : Resize) (n old : Nat) : Nat :=
  match r with
  | .assign => n
  | .add => old + n
  | .subtract => old - n
  | .atMost => min old n
  | .atLeast => max old n
  | .roundDown => old / n * n
  | .roundUp => (old + n - 1) / n * n

/-- What a text asks for, with the number as it is written. -/
def Resize.read (text : Bytes) : Resize × Bytes :=
  match text.dropWhile Bytes.isBlank with
  | '+' :: digits => (.add, digits)
  | '-' :: digits => (.subtract, digits)
  | '<' :: digits => (.atMost, digits)
  | '>' :: digits => (.atLeast, digits)
  | '/' :: digits => (.roundDown, digits)
  | '%' :: digits => (.roundUp, digits)
  | digits => (.assign, digits)

/-- No file may be greater. -/
def greatestSize : Nat := 1 <<< 32

/-- No size may be greater than what a word with a sign can hold. -/
def isTooLarge (n : Nat) : Bool := 1 <<< 63 ≤ n

def truncateGrammar : Grammar where
  flags := "co"
  valued := "rs"
  names := [("no-create", 'c'), ("io-blocks", 'o'), ("reference", 'r'), ("size", 's')]

/-- Gives one file a size, cutting off what is too much and adding zeros. -/
def resizeFile (s : Start) (options : Options) (r : Resize) (n : Nat) (base : Option Nat)
    (name : Bytes) : Script Bool := do
  let found ← Condition.status? name true
  if found.isNone && options.has 'c' then return true
  else
    let contents : Bytes :=
      match found.map fun (st : Machine.Status) => st.node.entry with
      | some (.file contents) => Bytes.ofOctets contents
      | _ => []
    let size := r.apply n (base.getD contents.length)
    let isDevice :=
      match found.map fun (st : Machine.Status) => st.node.entry with
      | some (.device _) => true
      | _ => false
    let refuse (why : String) : Script Bool := do
      Script.complain s ("failed to truncate ".toList ++ Script.quoted name ++ " at ".toList ++
        Bytes.ofNat size ++ " bytes: ".toList ++ why.toList)
      return false
    if isDevice then refuse "Invalid argument"
    else if greatestSize < size then refuse "File too large"
    else
      match ← Script.ask (.openAt (Bytes.toText name) .overwrite 0o666) with
      | .error e =>
          Script.complain s ("cannot open ".toList ++ Script.quoted name ++
            " for writing: ".toList ++ Script.errorText e)
          return false
      | .ok descriptor =>
          Script.put descriptor
            (contents.take size ++ List.replicate (size - contents.length) (Char.ofNat 0))
          let _ ← Script.ask (.close descriptor)
          return true

/-- Gives files a size. -/
def truncate : Program := fun s => withOptions s truncateGrammar 1 fun options names => do
  let refuse (text : Bytes) : Script Nat := do
    Script.complain s text
    return 1
  let (r, digits) := ((options.value? 's').map Resize.read).getD (.add, ['0'])
  let isRelative :=
    match r with
    | .assign => false
    | _ => true
  let whole := ((options.value? 's').getD []).dropWhile Bytes.isBlank
  let shown :=
    match r with
    | .add => whole
    | .subtract => whole
    | _ => digits
  match Stream.size? digits with
  | none => refuse ("Invalid number: ".toList ++ Script.quoted shown)
  | some n =>
      let isRounding :=
        match r with
        | .roundDown => true
        | .roundUp => true
        | _ => false
      if isTooLarge n then
        refuse ("Invalid number: ".toList ++ Script.quoted shown ++
          ": Value too large for defined data type".toList)
      else if isRounding && n == 0 then refuse "division by zero".toList
      else if !options.has 's' && !options.has 'r' then
        refuse ("you must specify either '--size' or '--reference'".toList ++ seeHelp s)
      else if options.has 's' && options.has 'r' && !isRelative then
        refuse ("you must specify a relative '--size' with '--reference'".toList ++ seeHelp s)
      else if options.has 'o' && !options.has 's' then
        refuse ("'--io-blocks' was specified but '--size' was not".toList ++ seeHelp s)
      else if names.isEmpty then refuse ("missing file operand".toList ++ seeHelp s)
      else
        let n := if options.has 'o' then n * 4096 else n
        match options.value? 'r' with
        | none => Files.forAll names (resizeFile s options r n none)
        | some name =>
            match ← Condition.status? name true with
            | none =>
                Files.failed s "cannot stat" name .notFound
                return 1
            | some st =>
                let base : Nat :=
                  match st.node.entry with
                  | .file contents => contents.length
                  | _ => 0
                Files.forAll names (resizeFile s options r n (some base))

/-! ## Comparing -/

/-- A place at which two texts have different octets. -/
structure Difference where
  octet : Nat
  line : Nat
  first : Char
  second : Char

/-- How two texts have been found to be. -/
structure Comparison where
  differences : List Difference
  /-- How many octets both have, and how many lines end in them. -/
  length : Nat
  lines : Nat
  /-- Is the end of one of them the end of a line? -/
  endsLine : Bool
  /-- Is the first text the shorter one, or else the second one? -/
  shorter : Option Bool

/-- Compares two texts octet by octet. -/
def compare (a b : Bytes) : Comparison :=
  let step (c : Comparison) (pair : Char × Char) : Comparison :=
    let length := c.length + 1
    let isEnd := pair.1 == '\n'
    { c with
      differences :=
        if pair.1 = pair.2 then c.differences
        else ⟨length, c.lines + 1, pair.1, pair.2⟩ :: c.differences
      length := length
      lines := if isEnd then c.lines + 1 else c.lines
      endsLine := isEnd }
  let shorter :=
    if a.length < b.length then some true else if b.length < a.length then some false else none
  let c := (a.zip b).foldl step ⟨[], 0, 0, true, shorter⟩
  { c with differences := c.differences.reverse }

/-- An octet as three digits. -/
def octal (c : Char) : Bytes := Bytes.padLeft 3 (Nat.toDigits 8 c.toNat)

/-- The line about the first difference. -/
def firstLine (showsOctets : Bool) (first second : Bytes) (d : Difference) : Bytes :=
  let what := if showsOctets then " differ: byte " else " differ: char "
  let octets :=
    if showsOctets then
      " is ".toList ++ octal d.first ++ ' ' :: Stream.visible d.first ++ ' ' :: octal d.second ++
        ' ' :: Stream.visible d.second
    else []
  first ++ ' ' :: second ++ what.toList ++ Bytes.ofNat d.octet ++ ", line ".toList ++
    Bytes.ofNat d.line ++ octets

/-- The line about one of all differences. -/
def oneOfAll (showsOctets : Bool) (width : Nat) (d : Difference) : Bytes :=
  let place := Bytes.padLeft width (Bytes.ofNat d.octet)
  if showsOctets then
    let shown := Stream.visible d.first
    place ++ ' ' :: octal d.first ++ ' ' :: shown ++ List.replicate (4 - shown.length) ' ' ++
      ' ' :: octal d.second ++ ' ' :: Stream.visible d.second
  else place ++ ' ' :: octal d.first ++ ' ' :: octal d.second

def cmpGrammar : Grammar where
  flags := "bls"
  valued := "in"
  names := [("silent", 's'), ("quiet", 's'), ("verbose", 'l'), ("print-bytes", 'b'),
    ("ignore-initial", 'i'), ("bytes", 'n')]

/-- Ends with what is wrong with the words of a comparison. -/
def misused (s : Start) (text : Bytes) : Script Nat := do
  Script.complain s text
  Script.complain s ("Try '".toList ++ s.name ++ " --help' for more information.".toList)
  return 2

/-- How many octets at the start of both files are passed over: one number, or two with a colon
    between them. -/
def readSkips (text : Bytes) : Option (Nat × Nat) :=
  match Bytes.splitOn ':' text with
  | [both] => (Stream.size? both).map fun n => (n, n)
  | [a, b] => (Stream.size? a).bind fun n => (Stream.size? b).map fun m => (n, m)
  | _ => none

/-- Tells how two texts differ. -/
def reportComparison (s : Start) (options : Options) (first second : Bytes) (a b : Bytes) :
    Script Nat := do
  let c := compare a b
  let isQuiet := options.has 's'
  let width := (Bytes.ofNat (min a.length b.length)).length
  let ended (isFirst : Bool) : Script Unit := do
    let name := if isFirst then first else second
    let place :=
      if c.length = 0 then " which is empty".toList
      else
        let line :=
          if options.has 'l' then []
          else if c.endsLine then ", line ".toList ++ Bytes.ofNat c.lines
          else ", in line ".toList ++ Bytes.ofNat (c.lines + 1)
        " after byte ".toList ++ Bytes.ofNat c.length ++ line
    Script.complain s ("EOF on ".toList ++ name ++ place)
  if options.has 'l' then
    for d in c.differences do
      Script.printLine (oneOfAll (options.has 'b') width d)
    match c.shorter with
    | some isFirst => ended isFirst
    | none => pure ()
  else if isQuiet then pure ()
  else
    match c.differences, c.shorter with
    | d :: _, _ => Script.printLine (firstLine (options.has 'b') first second d)
    | [], some isFirst => ended isFirst
    | [], none => pure ()
  return if c.differences.isEmpty && c.shorter.isNone then 0 else 1

/-- Tells whether two files are alike, and where they differ. -/
def cmp : Program := fun s => do
  match cmpGrammar.read s.arguments with
  | .error fault => misused s fault.message
  | .ok (options, names) =>
      let skips := readSkips ((options.value? 'i').getD ['0'])
      let limit := (options.value? 'n').map Stream.size?
      match skips, limit, names with
      | none, _, _ =>
          misused s ("invalid --ignore-initial value ".toList ++
            Script.quoted ((options.value? 'i').getD []))
      | _, some none, _ =>
          misused s ("invalid --bytes value ".toList ++
            Script.quoted ((options.value? 'n').getD []))
      | _, _, [] => misused s ("missing operand after ".toList ++ Script.quoted s.name)
      | some given, limit, first :: rest =>
          let second := rest.headD ['-']
          let words := rest.drop 1
          match (words.take 2).find? fun word => (Stream.size? word).isNone, words.drop 2 with
          | some word, _ =>
              misused s ("invalid --ignore-initial value ".toList ++ Script.quoted word)
          | none, word :: _ => misused s ("extra operand ".toList ++ Script.quoted word)
          | none, [] =>
              if options.has 'l' && options.has 's' then
                misused s "options -l and -s are incompatible".toList
              else if first = second && words.isEmpty then return 0
              else
                let skip (i : Nat) (n : Nat) : Nat := ((words[i]?).bind Stream.size?).getD n
                let part (n : Nat) (b : Bytes) : Bytes :=
                  match limit with
                  | some (some m) => (b.drop n).take m
                  | _ => b.drop n
                let refuse (name : Bytes) (e : HostError) : Script Nat := do
                  if options.has 's' then pure () else Script.complainOf s "" name e
                  return 2
                match ← Script.readFile first with
                | .error e => refuse first e
                | .ok a =>
                    match ← Script.readFile second with
                    | .error e => refuse second e
                    | .ok b =>
                        reportComparison s options first second (part (skip 0 given.1) a)
                          (part (skip 1 given.2) b)

end Blocks

end Playground.Tool
