import Playground.Tool.Lines
import Playground.Tool.Regex

set_option autoImplicit false

/-! # Scripts for editing

A script of commands is carried out for each line of some input. A command applies to the lines that
its addresses name, and may change the line, write it, or decide what is carried out next. -/

namespace Playground.Tool

open Machine (Bytes)

namespace Edit

/-! ## Scripts -/

/-- An expression to match, or none for the one that was matched last. -/
structure Subject where
  expression : Option Regex
  ignoresCase : Bool

inductive Address where
  | line (n : Nat)
  | last
  | matching (s : Subject)
  | every (first step : Nat)
  /-- So many lines after the first. -/
  | offset (n : Nat)
  /-- The next line whose number is a multiple. -/
  | multiple (n : Nat)

/-- What is done to letters from some point of a replacement on. -/
inductive Case where
  | upper
  | lower
  | upperNext
  | lowerNext
  | asIs

/-- A piece of a replacement. -/
inductive Piece where
  | text (b : Bytes)
  | group (n : Nat)
  | case (c : Case)

/-- What a substitution does. -/
structure Substitution where
  subject : Subject
  replacement : List Piece
  isGlobal : Bool
  prints : Bool
  /-- Which match is the first to be replaced. -/
  number : Nat
  /-- The file that the line is written to. -/
  file : Option Bytes

inductive Action where
  | substitute (s : Substitution)
  | recode (sources targets : Bytes)
  | delete
  | print
  | quit (code : Nat) (prints : Bool)
  | next
  | append
  | lineNumber
  | appendText (b : Bytes)
  | insertText (b : Bytes)
  | changeText (b : Bytes)
  | readFile (name : Bytes)
  | writeFile (name : Bytes)
  | writeFirst (name : Bytes)
  | hold
  | holdAppend
  | get
  | getAppend
  | exchange
  | empty
  | deleteFirst
  | printFirst
  | spell
  /-- Goes on after the command with this number if the addresses do not apply. -/
  | block (after : Nat)
  | close
  | label (name : Bytes)
  | branch (name : Bytes)
  | branchIfChanged (name : Bytes)
  | branchUnlessChanged (name : Bytes)
  | nothing

structure Step where
  first : Option Address
  second : Option Address
  isNegated : Bool
  action : Action

/-! ## Faults -/

inductive Fault where
  | unknownCommand (c : Char)
  | missingCommand
  | openAddress
  | strayComma
  | strayOffset
  | lineZero
  | manyNegations
  | openSubstitution
  | unknownFlag
  | manyFlags (c : Char)
  | manyNumbers
  | zeroNumber
  | badReference (n : Nat)
  | openRecoding
  | unevenRecoding
  | extraCharacters
  | noText
  | noLabel
  | noFileName
  | addressedLabel
  | addressedComment
  | addressedClose
  | twoAddresses
  | openBlock
  | strayClose
  | badExpression (e : Regex.Fault)

def Fault.message : Fault → Bytes
  | .unknownCommand c => "unknown command: ".toList ++ [Char.ofNat 96, c, '\'']
  | .missingCommand => "missing command".toList
  | .openAddress => "unterminated address regex".toList
  | .strayComma => "unexpected ".toList ++ named ','
  | .strayOffset => "invalid usage of +N or ~N as first address".toList
  | .lineZero => "invalid usage of line address 0".toList
  | .manyNegations => "multiple ".toList ++ named '!' ++ ['s']
  | .openSubstitution => "unterminated ".toList ++ named 's' ++ " command".toList
  | .unknownFlag => "unknown option to ".toList ++ named 's'
  | .manyFlags c => "multiple ".toList ++ named c ++ " options to ".toList ++ named 's' ++
      " command".toList
  | .manyNumbers => "multiple number options to ".toList ++ named 's' ++ " command".toList
  | .zeroNumber => "number option to ".toList ++ named 's' ++ " command may not be zero".toList
  | .badReference n => "invalid reference \\".toList ++ Bytes.ofNat n ++ " on ".toList ++
      named 's' ++ " command's RHS".toList
  | .openRecoding => "unterminated ".toList ++ named 'y' ++ " command".toList
  | .unevenRecoding => "strings for ".toList ++ named 'y' ++
      " command are different lengths".toList
  | .extraCharacters => "extra characters after command".toList
  | .noText => "expected \\ after ".toList ++ named 'a' ++ ", ".toList ++ named 'c' ++
      " or ".toList ++ named 'i'
  | .noLabel => "\":\" lacks a label".toList
  | .noFileName => "missing filename in r/R/w/W commands".toList
  | .addressedLabel => ": doesn't want any addresses".toList
  | .addressedComment => "comments don't accept any addresses".toList
  | .addressedClose => named '\x7d' ++ " doesn't want any addresses".toList
  | .twoAddresses => "command only uses one address".toList
  | .openBlock => "unmatched ".toList ++ named '\x7b'
  | .strayClose => "unexpected ".toList ++ named '\x7d'
  | .badExpression e => e.message
where
  /-- A character between a grave accent and an apostrophe. -/
  named (c : Char) : Bytes := [Char.ofNat 96, c, '\'']

/-- What is wrong, and what follows it. -/
abbrev Wrong := Fault × Bytes

/-! ## Reading scripts -/

def skipBlanks (b : Bytes) : Bytes := b.dropWhile Bytes.isBlank

/-- The text up to a delimiter that no backslash stands before, and what follows the delimiter. A
    backslash is dropped before the delimiter itself. Without a delimiter, what could not be
    read. -/
def takeDelimited (fault : Fault) (delimiter : Char) (taken : Bytes) :
    Bytes → Except Wrong (Bytes × Bytes)
  | [] => .error (fault, [])
  | '\\' :: c :: rest =>
      if c = delimiter then takeDelimited fault delimiter (c :: taken) rest
      else takeDelimited fault delimiter (c :: '\\' :: taken) rest
  | c :: rest =>
      if c = delimiter then .ok (taken.reverse, rest)
      else takeDelimited fault delimiter (c :: taken) rest

/-- The text of an expression, in which brackets protect the delimiter. -/
def takeExpression (fault : Fault) (delimiter : Char) (isInside : Bool) (taken : Bytes) :
    Bytes → Except Wrong (Bytes × Bytes)
  | [] => .error (fault, [])
  | '\\' :: c :: rest =>
      if isInside then takeExpression fault delimiter (c != ']') (c :: '\\' :: taken) rest
      else if c = delimiter then takeExpression fault delimiter false (c :: taken) rest
      else takeExpression fault delimiter false (c :: '\\' :: taken) rest
  | c :: rest =>
      if isInside then
        let isFirst := taken.head? == some '[' || ['^', '['].isPrefixOf taken
        let isClass := c == ']' && taken.head? == some ':' && 2 < taken.length &&
          (taken.drop 1).contains ':'
        takeExpression fault delimiter (c != ']' || isFirst || isClass) (c :: taken) rest
      else if c = delimiter then .ok (taken.reverse, rest)
      else takeExpression fault delimiter (c == '[' && delimiter != '[') (c :: taken) rest

/-- The pieces of a replacement. -/
def readPieces : Bytes → List Piece
  | [] => []
  | '&' :: rest => .group 0 :: readPieces rest
  | '\\' :: c :: rest =>
      let piece : Piece :=
        match c with
        | 'n' => .text ['\n']
        | 't' => .text ['\t']
        | 'r' => .text ['\x0d']
        | 'U' => .case .upper
        | 'L' => .case .lower
        | 'u' => .case .upperNext
        | 'l' => .case .lowerNext
        | 'E' => .case .asIs
        | c => if c.isDigit then .group (c.toNat - '0'.toNat) else .text [c]
      piece :: readPieces rest
  | c :: rest => .text [c] :: readPieces rest

/-- The greatest group that a replacement refers to. -/
def greatestGroup (pieces : List Piece) : Nat :=
  pieces.foldl (fun n p =>
    match p with
    | .group m => max n m
    | _ => n) 0

/-- The subject that a text spells, and how many groups it has. -/
def readSubject (isExtended ignoresCase : Bool) (text rest : Bytes) :
    Except Wrong (Subject × Nat) :=
  if text.isEmpty then .ok (⟨none, ignoresCase⟩, 9)
  else
    match Regex.read ⟨isExtended, false⟩ text with
    | .ok (r, groups) => .ok (⟨some r, ignoresCase⟩, groups)
    | .error e => .error (.badExpression e, rest)

/-- A number at the beginning of a text. -/
def takeNumber (b : Bytes) : Nat × Bytes :=
  let digits := b.takeWhile Char.isDigit
  (Bytes.digitsValue digits, b.drop digits.length)

/-- An address, if there is one here. -/
def readAddress (isExtended : Bool) (b : Bytes) : Except Wrong (Option Address × Bytes) :=
  let expression (delimiter : Char) (rest : Bytes) : Except Wrong (Option Address × Bytes) := do
    let (text, rest) ← takeExpression .openAddress delimiter false [] rest
    let flags := rest.takeWhile fun c => c == 'I' || c == 'M'
    let rest := rest.drop flags.length
    let (subject, _) ← readSubject isExtended (flags.contains 'I') text rest
    return (some (.matching subject), rest)
  match b with
  | '$' :: rest => .ok (some .last, rest)
  | '/' :: rest => expression '/' rest
  | '\\' :: c :: rest => expression c rest
  | '+' :: rest =>
      let (n, rest) := takeNumber rest
      .ok (some (.offset n), rest)
  | '~' :: rest =>
      let (n, rest) := takeNumber rest
      .ok (some (.multiple n), rest)
  | b =>
      let (n, rest) := takeNumber b
      if rest.length = b.length then .ok (none, b)
      else
        match rest with
        | '~' :: rest =>
            let (step, rest) := takeNumber rest
            .ok (some (.every n step), rest)
        | rest => .ok (some (.line n), rest)

/-- What follows a command: nothing, a separator, or the end of a block. -/
def endCommand (b : Bytes) : Except Wrong Bytes :=
  match skipBlanks b with
  | [] => .ok []
  | '\n' :: rest => .ok rest
  | ';' :: rest => .ok rest
  | '\x7d' :: rest => .ok ('\x7d' :: rest)
  | '#' :: rest => .ok ('#' :: rest)
  | _ :: rest => .error (.extraCharacters, rest)

/-- The flags of a substitution. -/
structure Flags where
  isGlobal : Bool
  prints : Bool
  ignoresCase : Bool
  number : Option Nat
  file : Option Bytes

/-- The rest of a line, as the name of a file. -/
def takeFileName (b : Bytes) : Except Wrong (Bytes × Bytes) :=
  let line := (skipBlanks b).takeWhile (· != '\n')
  let rest := (skipBlanks b).drop (line.length + 1)
  if line.isEmpty then .error (.noFileName, rest) else .ok (line, rest)

def readFlags (steps : Nat) (flags : Flags) (b : Bytes) : Except Wrong (Flags × Bytes) :=
  match steps, b with
  | 0, b => .ok (flags, b)
  | _, [] => .ok (flags, [])
  | steps + 1, c :: rest =>
      if c.isDigit then
        let (n, rest) := takeNumber b
        if flags.number.isSome then .error (.manyNumbers, rest)
        else if n = 0 then .error (.zeroNumber, rest)
        else readFlags steps { flags with number := some n } rest
      else
        match c with
        | 'g' =>
            if flags.isGlobal then .error (.manyFlags 'g', rest)
            else readFlags steps { flags with isGlobal := true } rest
        | 'p' =>
            if flags.prints then .error (.manyFlags 'p', rest)
            else readFlags steps { flags with prints := true } rest
        | 'i' => readFlags steps { flags with ignoresCase := true } rest
        | 'I' => readFlags steps { flags with ignoresCase := true } rest
        | 'm' => readFlags steps flags rest
        | 'M' => readFlags steps flags rest
        | 'w' => do
            let (name, rest) ← takeFileName rest
            return ({ flags with file := some name }, rest)
        | c =>
            if Bytes.isBlank c then readFlags steps flags rest
            else if c = '\n' ∨ c = ';' then .ok (flags, rest)
            else if c = '\x7d' ∨ c = '#' then .ok (flags, b)
            else .error (.unknownFlag, rest)

def readSubstitution (isExtended : Bool) : Bytes → Except Wrong (Action × Bytes)
  | [] => .error (.openSubstitution, [])
  | delimiter :: rest => do
      let (text, rest) ← takeExpression .openSubstitution delimiter false [] rest
      let (replacement, rest) ← takeDelimited .openSubstitution delimiter [] rest
      let (flags, rest) ← readFlags (rest.length + 1) ⟨false, false, false, none, none⟩ rest
      let (subject, groups) ← readSubject isExtended flags.ignoresCase text rest
      let pieces := readPieces replacement
      if groups < greatestGroup pieces then .error (.badReference (greatestGroup pieces), rest)
      else
        return (.substitute
          { subject := subject
            replacement := pieces
            isGlobal := flags.isGlobal
            prints := flags.prints
            number := flags.number.getD 1
            file := flags.file }, rest)

/-- Characters of a recoding, in which backslashes stand before some. -/
def unescaped : Bytes → Bytes
  | '\\' :: 'n' :: rest => '\n' :: unescaped rest
  | '\\' :: 't' :: rest => '\t' :: unescaped rest
  | '\\' :: '\\' :: rest => '\\' :: unescaped rest
  | c :: rest => c :: unescaped rest
  | [] => []

def readRecoding : Bytes → Except Wrong (Action × Bytes)
  | [] => .error (.openRecoding, [])
  | delimiter :: rest => do
      let (sources, rest) ← takeDelimited .openRecoding delimiter [] rest
      let (targets, rest) ← takeDelimited .openRecoding delimiter [] rest
      let (sources, targets) := (unescaped sources, unescaped targets)
      if sources.length ≠ targets.length then .error (.unevenRecoding, rest)
      else return (.recode sources targets, ← endCommand rest)

/-- Lines of text up to the end of a line that no backslash stands at, and what follows them. -/
def takeTextLines (taken : Bytes) : Bytes → Bytes × Bytes
  | [] => (taken.reverse ++ ['\n'], [])
  | '\n' :: rest => (taken.reverse ++ ['\n'], rest)
  | '\\' :: c :: rest => takeTextLines (c :: taken) rest
  | ['\\'] => (taken.reverse ++ ['\n'], [])
  | c :: rest => takeTextLines (c :: taken) rest

/-- The text of a command that adds lines, and what follows it. -/
def readText (b : Bytes) : Except Wrong (Bytes × Bytes) :=
  match skipBlanks b with
  | [] => .error (.noText, [])
  | '\\' :: rest =>
      match skipBlanks rest with
      | '\n' :: lines => .ok (takeTextLines [] lines)
      | [] => .ok ([], [])
      | _ => .ok (takeTextLines [] rest)
  | '\n' :: rest => .error (.noText, '\n' :: rest)
  | b => .ok (takeTextLines [] b)

/-- The name of a label, and what follows it. -/
def takeLabel (b : Bytes) : Bytes × Bytes :=
  let b := skipBlanks b
  let name := b.takeWhile fun c => !Bytes.isSpace c && c != ';' && c != '\x7d'
  (name, b.drop name.length)

/-- The action that a command names, and what follows it. -/
def readAction (isExtended : Bool) (c : Char) (rest : Bytes) : Except Wrong (Action × Bytes) :=
  let plain (a : Action) : Except Wrong (Action × Bytes) := do return (a, ← endCommand rest)
  let labelled (make : Bytes → Action) : Except Wrong (Action × Bytes) :=
    let (name, rest) := takeLabel rest
    .ok (make name, rest)
  let withCode (prints : Bool) : Except Wrong (Action × Bytes) := do
    let (n, rest) := takeNumber (skipBlanks rest)
    return (.quit n prints, ← endCommand rest)
  let withText (make : Bytes → Action) : Except Wrong (Action × Bytes) := do
    let (text, rest) ← readText rest
    return (make text, rest)
  let withFile (make : Bytes → Action) : Except Wrong (Action × Bytes) := do
    let (name, rest) ← takeFileName rest
    return (make name, rest)
  match c with
  | 's' => readSubstitution isExtended rest
  | 'y' => readRecoding rest
  | 'd' => plain .delete
  | 'D' => plain .deleteFirst
  | 'p' => plain .print
  | 'P' => plain .printFirst
  | 'l' => plain .spell
  | 'q' => withCode true
  | 'Q' => withCode false
  | 'n' => plain .next
  | 'N' => plain .append
  | '=' => plain .lineNumber
  | 'a' => withText .appendText
  | 'i' => withText .insertText
  | 'c' => withText .changeText
  | 'r' => withFile .readFile
  | 'w' => withFile .writeFile
  | 'W' => withFile .writeFirst
  | 'h' => plain .hold
  | 'H' => plain .holdAppend
  | 'g' => plain .get
  | 'G' => plain .getAppend
  | 'x' => plain .exchange
  | 'z' => plain .empty
  | ':' =>
      let (name, rest) := takeLabel rest
      if name.isEmpty then .error (.noLabel, rest) else .ok (.label name, rest)
  | 'b' => labelled .branch
  | 't' => labelled .branchIfChanged
  | 'T' => labelled .branchUnlessChanged
  | '\x7b' => .ok (.block 0, rest)
  | '\x7d' => plain .close
  | '#' => .ok (.nothing, (rest.dropWhile (· != '\n')).drop 1)
  | c => .error (.unknownCommand c, rest)

/-- What is wrong with the addresses of a command. -/
def addressFault? (first second : Option Address) (c : Char) : Option Fault :=
  match first, c with
  | some (.offset _), _ => some .strayOffset
  | some (.multiple _), _ => some .strayOffset
  | some (.line 0), _ =>
      match second with
      | some (.matching _) => none
      | _ => some .lineZero
  | some _, ':' => some .addressedLabel
  | some _, '#' => some .addressedComment
  | some _, '\x7d' => some .addressedClose
  | _, c => if second.isSome && (c == 'q' || c == 'Q') then some .twoAddresses else none

/-- A command with its addresses, inside so many blocks. -/
def readStep (isExtended : Bool) (depth : Nat) (b : Bytes) : Except Wrong (Step × Bytes) := do
  let (first, rest) ← readAddress isExtended b
  let (second, rest) ←
    match first, skipBlanks rest with
    | some _, ',' :: rest =>
        match ← readAddress isExtended (skipBlanks rest) with
        | (none, rest) => .error (.strayComma, rest.drop 1)
        | found => .ok found
    | _, rest => .ok (none, rest)
  let rest := skipBlanks rest
  let (isNegated, rest) :=
    match rest with
    | '!' :: rest => (true, skipBlanks rest)
    | rest => (false, rest)
  match rest with
  | [] => .error (.missingCommand, [])
  | c :: rest =>
      if c = '!' ∧ isNegated then .error (.manyNegations, rest)
      else if c = '\x7d' ∧ depth = 0 then .error (.strayClose, rest)
      else
        match addressFault? first second c with
        | some .strayOffset => .error (.strayOffset, c :: rest)
        | some e => .error (e, rest)
        | none =>
            let (action, rest) ← readAction isExtended c rest
            return (⟨first, second, isNegated, action⟩, rest)

/-- The commands of a script. How many blocks are open is counted. -/
def readSteps (isExtended : Bool) (steps depth : Nat) (b : Bytes) :
    Except Wrong (List Step × Nat) :=
  match steps with
  | 0 => .ok ([], depth)
  | steps + 1 =>
      match b.dropWhile fun c => Bytes.isSpace c || c == ';' with
      | [] => .ok ([], depth)
      | b => do
          let (step, rest) ← readStep isExtended depth b
          let depth :=
            match step.action with
            | .block _ => depth + 1
            | .close => depth - 1
            | _ => depth
          let (others, depth) ← readSteps isExtended steps depth rest
          return (step :: others, depth)

/-- The number of the command that closes a block, given how many blocks are open inside it. -/
def closing? (depth index : Nat) : List Step → Option Nat
  | [] => none
  | s :: rest =>
      match s.action, depth with
      | .block _, depth => closing? (depth + 1) (index + 1) rest
      | .close, 0 => some index
      | .close, depth + 1 => closing? depth (index + 1) rest
      | _, depth => closing? depth (index + 1) rest

/-- Tells each block where it ends. -/
def closeBlocks (script : List Step) : List Step :=
  (List.range script.length).zip script |>.map fun ((i : Nat), s) =>
    match s.action with
    | .block _ =>
        let after := closing? 0 (i + 1) (script.drop (i + 1))
        { s with action := .block (after.getD script.length) }
    | _ => s

/-- The names of labels that commands go on at. -/
def targets (script : List Step) : List Bytes :=
  script.filterMap fun s =>
    match s.action with
    | .branch name => some name
    | .branchIfChanged name => some name
    | .branchUnlessChanged name => some name
    | _ => none

def labels (script : List Step) : List Bytes :=
  script.filterMap fun s =>
    match s.action with
    | .label name => some name
    | _ => none

/-- A label that a command goes on at and that is not there. -/
def missingLabel? (script : List Step) : Option Bytes :=
  (targets script).find? fun name => !name.isEmpty && !(labels script).contains name

/-! ## State -/

/-- What is written, or where it comes from. -/
inductive Output where
  | text (b : Bytes)
  | toFile (name b : Bytes)
  | fromFile (name : Bytes)

/-- The ranges that are open before the first line. -/
def openRanges (script : List Step) : List (Nat × Option Nat) :=
  ((List.range script.length).zip script).filterMap fun ((i : Nat), s) =>
    match s.first with
    | some (.line 0) => some (i, none)
    | _ => none

structure Editor where
  /-- What ends a line. -/
  ending : Char
  line : Bytes
  held : Bytes
  number : Nat
  rest : List Bytes
  /-- Is there nothing after `rest`? -/
  isWhole : Bool
  /-- What has been written, last first. -/
  output : List Output
  /-- What is written after the line. -/
  appended : List Output
  /-- The commands whose ranges have begun, and where they end if that is known. -/
  ranges : List (Nat × Option Nat)
  hasChanged : Bool
  isQuiet : Bool
  lastExpression : Option Regex

/-- At the beginning of some input. -/
def Editor.start (script : List Step) (ending : Char) (isQuiet : Bool) (rest : List Bytes)
    (isWhole : Bool) : Editor :=
  { ending := ending, line := [], held := [], number := 0, rest := rest, isWhole := isWhole,
    output := [], appended := [], ranges := openRanges script, hasChanged := false,
    isQuiet := isQuiet, lastExpression := none }

def Editor.write (e : Editor) (b : Bytes) : Editor := { e with output := .text b :: e.output }

def Editor.isLast (e : Editor) : Bool := e.rest.isEmpty && e.isWhole

/-- The expression that a subject stands for now. It is the last one from here on. -/
def Editor.recall (e : Editor) (s : Subject) : Regex × Editor :=
  let r := (s.expression.or e.lastExpression).getD .nothing
  (r, { e with lastExpression := some r })

def Address.hits (e : Editor) : Address → Bool × Editor
  | .line n => (e.number == n, e)
  | .last => (e.isLast, e)
  | .matching s =>
      let (r, e) := e.recall s
      (Regex.matches? s.ignoresCase r e.line, e)
  | .every first step =>
      (if step = 0 then e.number == first
      else first ≤ e.number && (e.number - first) % step == 0, e)
  | .offset _ => (false, e)
  | .multiple _ => (false, e)

/-- The last line of a range that begins at a line, if that is known. -/
def Address.lastFrom (n : Nat) : Address → Option Nat
  | .line m => some m
  | .offset m => some (n + m)
  | .multiple m => some (if m = 0 then n else (n + m - 1) / m * m)
  | _ => none

/-- Does a command apply to the line? Its range may begin or end here. -/
def applies (e : Editor) (index : Nat) (s : Step) : Bool × Editor :=
  let leave (e : Editor) : Editor :=
    { e with ranges := e.ranges.filter fun entry => entry.1 != index }
  let (isHit, e) :=
    match s.first, s.second with
    | none, _ => (true, e)
    | some a, none => a.hits e
    | some a, some b =>
        match e.ranges.lookup index with
        | some (some last) =>
            if e.number < last then (true, e)
            else if e.number = last then (true, leave e)
            else a.hits (leave e)
        | some none =>
            let (isOver, e) := b.hits e
            (true, if isOver then leave e else e)
        | none =>
            let (isHit, e) := a.hits e
            let last := b.lastFrom e.number
            if isHit && last.all fun n => e.number < n then
              (true, { e with ranges := (index, last) :: e.ranges })
            else (isHit, e)
  (isHit != s.isNegated, e)

/-! ## Substitution -/

/-- How letters are changed: all of them, and the next one. -/
structure Casing where
  all : Case
  next : Case

def Casing.apply (c : Casing) (b : Bytes) : Bytes × Casing :=
  let change (kind : Case) (c : Char) : Char :=
    match kind with
    | .upper => c.toUpper
    | .lower => c.toLower
    | .upperNext => c.toUpper
    | .lowerNext => c.toLower
    | .asIs => c
  match b, c.next with
  | [], _ => ([], c)
  | b, .asIs => (b.map (change c.all), c)
  | first :: rest, next => (change next first :: rest.map (change c.all), { c with next := .asIs })

/-- What a replacement becomes for a match. -/
def fill (m : Regex.Match) (casing : Casing) : List Piece → Bytes
  | [] => []
  | .case c :: pieces =>
      let casing : Casing :=
        match c with
        | .upperNext => { casing with next := c }
        | .lowerNext => { casing with next := c }
        | c => ⟨c, .asIs⟩
      fill m casing pieces
  | .text b :: pieces =>
      let (b, casing) := casing.apply b
      b ++ fill m casing pieces
  | .group n :: pieces =>
      let (b, casing) := casing.apply (if n = 0 then m.text else (m.groups.lookup n).getD [])
      b ++ fill m casing pieces

/-- The text after the replacement of matches, and whether there were any. An empty match right
    after another match does not count. -/
def replace (s : Substitution) (r : Regex) (steps number : Nat) (isAfterMatch : Bool)
    (previous : Option Char) (b : Bytes) : Bytes × Bool :=
  match steps with
  | 0 => (b, false)
  | steps + 1 =>
      match Regex.find? s.subject.ignoresCase r previous b with
      | none => (b, false)
      | some m =>
          let isCounted := !(isAfterMatch && m.before.isEmpty && m.text.isEmpty)
          let isWanted := isCounted && s.number ≤ number
          let new := if isWanted then fill m ⟨.asIs, .asIs⟩ s.replacement else m.text
          if isWanted && !s.isGlobal then (m.before ++ new ++ m.after, true)
          else
            let number := if isCounted then number + 1 else number
            match m.text, m.after with
            | [], [] => (m.before ++ new, isWanted)
            | [], c :: after =>
                let (rest, isMore) := replace s r steps number false (some c) after
                (m.before ++ new ++ c :: rest, isWanted || isMore)
            | text, after =>
                let (rest, isMore) := replace s r steps number true text.getLast? after
                (m.before ++ new ++ rest, isWanted || isMore)

/-! ## Spelling out -/

/-- A character so that it can be seen. -/
def spelled (c : Char) : Bytes :=
  match c.toNat with
  | 7 => ['\\', 'a']
  | 8 => ['\\', 'b']
  | 9 => ['\\', 't']
  | 10 => ['\\', 'n']
  | 11 => ['\\', 'v']
  | 12 => ['\\', 'f']
  | 13 => ['\\', 'r']
  | 92 => ['\\', '\\']
  | n =>
      if 32 ≤ n ∧ n < 127 then [c]
      else
        let digits := Nat.toDigits 8 n
        '\\' :: List.replicate (3 - digits.length) '0' ++ digits

/-- A line spelled out, broken so that no piece is longer than 69 characters. -/
def spelledLine (line : Bytes) : Bytes :=
  let (done, current) := line.foldl (fun ((done : Bytes), (current : Bytes)) c =>
    let piece := spelled c
    if 69 < current.length + piece.length then (done ++ current ++ ['\\', '\n'], piece)
    else (done, current ++ piece)) ([], [])
  done ++ current ++ ['$', '\n']

/-! ## Execution -/

/-- How a script goes on. -/
inductive Outcome where
  | cycle (e : Editor)
  /-- Without the line being written. -/
  | silent (e : Editor)
  | stop (e : Editor) (code : Nat)

def labelIndex (script : List Step) (name : Bytes) : Nat :=
  (script.findIdx? fun s =>
    match s.action with
    | .label other => other == name
    | _ => false).getD script.length

/-- Writes the line and what comes after it. -/
def Editor.finish (e : Editor) (prints : Bool) : Editor :=
  let e := if prints then e.write (e.line ++ [e.ending]) else e
  { e with output := e.appended.reverse ++ e.output, appended := [] }

/-- The next line of the input. -/
def Editor.advance (e : Editor) : Option Editor :=
  match e.rest with
  | line :: rest => some { e with line := line, rest := rest, number := e.number + 1 }
  | [] => none

def firstLine (b : Bytes) : Bytes := b.takeWhile (· != '\n')

/-- Carries the commands out from one on. -/
def carryOut (script : List Step) (steps index : Nat) (e : Editor) : Outcome :=
  match steps with
  | 0 => .cycle e
  | steps + 1 =>
      match script[index]? with
      | none => .cycle e
      | some s =>
          let (isHit, e) := applies e index s
          let goOn (e : Editor) : Outcome := carryOut script steps (index + 1) e
          let goTo (name : Bytes) (e : Editor) : Outcome :=
            carryOut script steps (labelIndex script name) e
          let goOnWith (output : Output) (e : Editor) : Outcome :=
            goOn { e with output := output :: e.output }
          if isHit = false then
            match s.action with
            | .block after => carryOut script steps after e
            | _ => goOn e
          else
            match s.action with
            | .substitute sub =>
                let (r, e) := e.recall sub.subject
                let (line, hasChanged) := replace sub r (e.line.length + 2) 1 false none e.line
                let e := { e with line := line, hasChanged := e.hasChanged || hasChanged }
                let e := if hasChanged && sub.prints then e.write (line ++ [e.ending]) else e
                match sub.file, hasChanged with
                | some name, true => goOnWith (.toFile name (line ++ [e.ending])) e
                | _, _ => goOn e
            | .recode sources targets =>
                let change (c : Char) : Char :=
                  match sources.findIdx? (· == c) with
                  | some i => targets.getD i c
                  | none => c
                goOn { e with line := e.line.map change }
            | .delete => .silent e
            | .print => goOn (e.write (e.line ++ [e.ending]))
            | .quit code prints => .stop (e.finish (prints && !e.isQuiet)) code
            | .next =>
                match e.advance with
                | none => .stop (e.finish (!e.isQuiet)) 0
                | some _ =>
                    let e := e.finish (!e.isQuiet)
                    goOn (e.advance.getD e)
            | .append =>
                match e.advance with
                | none => .stop (e.finish (!e.isQuiet)) 0
                | some more => goOn { more with line := e.line ++ '\n' :: more.line }
            | .lineNumber => goOn (e.write (Bytes.ofNat e.number ++ ['\n']))
            | .appendText b => goOn { e with appended := e.appended ++ [.text b] }
            | .readFile name => goOn { e with appended := e.appended ++ [.fromFile name] }
            | .insertText b => goOn (e.write b)
            | .changeText b =>
                if (e.ranges.lookup index).isSome then .silent e else .silent (e.write b)
            | .writeFile name => goOnWith (.toFile name (e.line ++ [e.ending])) e
            | .writeFirst name => goOnWith (.toFile name (firstLine e.line ++ [e.ending])) e
            | .hold => goOn { e with held := e.line }
            | .holdAppend => goOn { e with held := e.held ++ '\n' :: e.line }
            | .get => goOn { e with line := e.held }
            | .getAppend => goOn { e with line := e.line ++ '\n' :: e.held }
            | .exchange => goOn { e with line := e.held, held := e.line }
            | .empty => goOn { e with line := [] }
            | .printFirst => goOn (e.write (firstLine e.line ++ [e.ending]))
            | .deleteFirst =>
                let first := firstLine e.line
                if first.length = e.line.length then .silent e
                else carryOut script steps 0 { e with line := e.line.drop (first.length + 1) }
            | .spell => goOn (e.write (spelledLine e.line))
            | .branch name => goTo name e
            | .branchIfChanged name =>
                if e.hasChanged then goTo name { e with hasChanged := false } else goOn e
            | .branchUnlessChanged name =>
                if e.hasChanged then goOn { e with hasChanged := false } else goTo name e
            | .block _ => goOn e
            | .close => goOn e
            | .label _ => goOn e
            | .nothing => goOn e

/-- Carries a script out for lines while it is known what follows them. Returns the exit code if the
    script has come to its end. -/
def run (script : List Step) (steps : Nat) (e : Editor) : Editor × Option Nat :=
  match steps with
  | 0 => (e, some 0)
  | steps + 1 =>
      match e.advance with
      | none => (e, if e.isWhole then some 0 else none)
      | some next =>
          let isKnown (after : Editor) : Bool := e.isWhole || !after.rest.isEmpty
          match carryOut script (1 <<< 40) 0 { next with hasChanged := false } with
          | .cycle after =>
              if isKnown after then run script steps (after.finish (!after.isQuiet)) else (e, none)
          | .silent after =>
              if isKnown after then run script steps (after.finish false) else (e, none)
          | .stop after code => if isKnown after then (after, some code) else (e, none)

end Edit

end Playground.Tool
