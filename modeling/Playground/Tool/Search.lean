import Playground.Tool.Files
import Playground.Tool.Lines
import Playground.Tool.Regex

set_option autoImplicit false

/-! # Searching

The lines of files that match one of several expressions, and lines around them if those are wanted
as well. -/

namespace Playground.Tool

open Machine (Bytes Options Program Script Start Grammar)

namespace Search

/-! ## Queries -/

/-- What is looked for. -/
structure Query where
  expressions : List Regex
  options : Options
  /-- How many lines are looked for at most. -/
  most : Option Nat
  /-- How many lines before and after a line are shown with it. -/
  before : Nat
  after : Nat

def Query.has (q : Query) (letter : Char) : Bool := q.options.has letter

/-- The first match of one of the expressions, the longest of those. -/
def Query.find? (q : Query) (previous : Option Char) (line : Bytes) : Option Regex.Match :=
  (q.expressions.filterMap fun r => Regex.find? (q.has 'i' || q.has 'y') r previous line).foldl
    (fun best m =>
      match best with
      | none => some m
      | some b =>
          if m.before.length < b.before.length then some m
          else if m.before.length = b.before.length ∧ b.text.length < m.text.length then some m
          else some b) none

/-- Is the line one of those that are looked for? -/
def Query.selects (q : Query) (line : Bytes) : Bool := (q.find? none line).isSome != q.has 'v'

/-- All matches in a line that are not empty. -/
def Query.matchesIn (q : Query) (steps : Nat) (previous : Option Char) (line : Bytes) :
    List Bytes :=
  match steps with
  | 0 => []
  | steps + 1 =>
      match q.find? previous line with
      | none => []
      | some m =>
          match m.text, m.after with
          | [], [] => []
          | [], c :: after => q.matchesIn steps (some c) after
          | text, after => text :: q.matchesIn steps text.getLast? after

/-- Adds to an expression that it has to match a whole line or a whole word. -/
def bounded (options : Options) (r : Regex) : Regex :=
  if options.has 'x' then .sequence .lineStart (.sequence r .lineEnd)
  else if options.has 'w' then .sequence .wordStart (.sequence r .wordEnd)
  else r

/-! ## Lines -/

/-- How far a search has come. -/
structure Progress where
  /-- The number of lines that have been read. -/
  number : Nat
  /-- How many of them were looked for. -/
  found : Nat
  /-- Lines that may have to be shown before the next one that is found, last first. -/
  waiting : List (Nat × Bytes)
  /-- How many lines are still to be shown after the last one that was found. -/
  owed : Nat
  /-- The number of the last line that was shown, or a negative one if that was in another file. -/
  lastShown : Option Int
  /-- Is what is searched no text? -/
  isBinary : Bool

def Progress.start : Progress := ⟨0, 0, [], 0, none, false⟩

/-- At the beginning of another file. -/
def Progress.another (p : Progress) : Progress :=
  { Progress.start with lastShown := p.lastShown.map fun _ => -1 }

/-- Is nothing shown but names or counts? -/
def Query.isSilent (q : Query) : Bool := ['q', 'c', 'l', 'L'].any q.has

/-- What stands before a line, with a mark that tells why it is shown. -/
def Query.start (q : Query) (name : Bytes) (number : Nat) (mark : Char) : Bytes :=
  (if name.isEmpty then [] else name ++ [mark]) ++
    (if q.has 'n' then Bytes.ofNat number ++ [mark] else [])

/-- Lines that are shown, and what separates them from those before. -/
def Query.shown (q : Query) (name : Bytes) (p : Progress) (lines : List (Nat × Char × Bytes)) :
    Bytes × Progress :=
  match lines.head?, lines.getLast? with
  | some (first, _, _), some (last, _, _) =>
      let hasGap := (0 < q.before || 0 < q.after) && p.lastShown.any fun n => n + 1 < (first : Int)
      ((if hasGap then "--\n".toList else []) ++
        (lines.flatMap fun (number, mark, line) => q.start name number mark ++ line ++ ['\n']),
        { p with lastShown := some (last : Int) })
  | _, _ => ([], p)

/-- What is shown for the next line. -/
def Query.step (q : Query) (name : Bytes) (p : Progress) (line : Bytes) : Bytes × Progress :=
  let number := p.number + 1
  let p := { p with
    number := number
    isBinary := p.isBinary || (!q.has 'a' && line.contains (Char.ofNat 0)) }
  if (q.most.all fun n => p.found < n) && q.selects line then
    let p := { p with found := p.found + 1 }
    if q.isSilent || p.isBinary then ([], p)
    else if q.has 'o' then
      let parts := if q.has 'v' then [] else q.matchesIn (line.length + 1) none line
      (parts.flatMap fun text => q.start name number ':' ++ text ++ ['\n'], p)
    else
      let lines := p.waiting.reverse.map fun (n, line) => (n, '-', line)
      q.shown name { p with waiting := [], owed := q.after } (lines ++ [(number, ':', line)])
  else if 0 < p.owed then q.shown name { p with owed := p.owed - 1 } [(number, '-', line)]
  else ([], { p with waiting := ((number, line) :: p.waiting).take q.before })

/-- Is nothing more to be read? -/
def Query.isOver (q : Query) (p : Progress) : Bool :=
  (0 < p.found && (['q', 'l', 'L'].any q.has || (p.isBinary && !q.isSilent))) ||
    (q.most.any fun n => n ≤ p.found && p.owed == 0)

/-! ## Files -/

/-- How a search has gone so far. -/
structure Result where
  progress : Progress
  isFound : Bool
  isWhole : Bool

/-- Searches what a descriptor leads to. -/
def Query.search (q : Query) (s : Start) (hasNames : Bool) (label : Bytes) (descriptor : Nat)
    (r : Result) : Script Result := do
  let name := if hasNames then label else []
  let filter : Stream.Filter Progress :=
    { step := fun p line _ => q.step name p line
      isOver := q.isOver }
  let (ending, p) ← filter.copy Script.endless [] r.progress.another descriptor
  let isFound := 0 < p.found
  let r := { r with progress := p, isFound := r.isFound || isFound }
  match ending with
  | .unreadable e =>
      if q.has 's' then pure () else Script.complainOf s "" label e
      return { r with isWhole := false }
  | _ =>
      if q.has 'q' then pure ()
      else if q.has 'l' || q.has 'L' then
        if isFound == q.has 'l' then Script.printLine label else pure ()
      else if q.has 'c' then
        Script.printLine (q.start name 0 ':' ++ Bytes.ofNat p.found)
      else if p.isBinary && isFound then
        Script.complain s (label ++ ": binary file matches".toList)
      else pure ()
      return r

/-- Searches a file, or all files in a directory if that is wanted. -/
def Query.searchAt (q : Query) (s : Start) (hasNames : Bool) (steps : Nat) (name : Bytes)
    (r : Result) : Script Result :=
  match steps with
  | 0 => return r
  | steps + 1 => do
      let isRecursive := q.has 'r' || q.has 'R'
      if q.has 'q' && r.isFound then return r
      else if name = ['-'] then
        q.search s hasNames ((q.options.value? '=').getD "(standard input)".toList) Script.stdin r
      else if isRecursive && (← Files.isDirectoryAt name true) then
        match ← Script.ask (.list (Bytes.toText name)) with
        | .error e =>
            Script.complainOf s "" name e
            return { r with isWhole := false }
        | .ok entries =>
            let mut r := r
            for entry in entries do
              r ← q.searchAt s hasNames steps (Files.within name (Bytes.ofString entry)) r
            return r
      else
        match ← Stream.openOperand name with
        | .error e =>
            if q.has 's' then pure () else Script.complainOf s "" name e
            return { r with isWhole := false }
        | .ok descriptor =>
            let r ← q.search s hasNames name descriptor r
            let _ ← Script.ask (.close descriptor)
            return r

/-! ## Options -/

def grammar : Grammar where
  flags := "aEFGPHILTUVZbchilnoqrRsvwxyz~^"
  valued := "ABCDXdefm+!@=%"
  names := [("extended-regexp", 'E'), ("fixed-strings", 'F'), ("basic-regexp", 'G'),
    ("perl-regexp", 'P'), ("regexp", 'e'), ("file", 'f'), ("ignore-case", 'i'),
    ("no-ignore-case", '^'), ("word-regexp", 'w'), ("line-regexp", 'x'), ("null-data", 'z'),
    ("no-messages", 's'), ("invert-match", 'v'), ("max-count", 'm'), ("byte-offset", 'b'),
    ("line-number", 'n'), ("line-buffered", '^'), ("with-filename", 'H'), ("no-filename", 'h'),
    ("label", '='), ("only-matching", 'o'), ("quiet", 'q'), ("silent", 'q'),
    ("binary-files", '%'), ("text", 'a'), ("directories", 'd'), ("devices", 'D'),
    ("recursive", 'r'), ("dereference-recursive", 'R'), ("include", '+'), ("exclude", '!'),
    ("exclude-dir", '@'), ("files-without-match", 'L'), ("files-with-matches", 'l'),
    ("count", 'c'), ("initial-tab", 'T'), ("null", 'Z'), ("before-context", 'B'),
    ("after-context", 'A'), ("context", 'C'), ("color", '~'), ("colour", '~'), ("binary", 'U')]
  relaxed := "~"

/-- How the program is called. -/
def usage : Bytes :=
  ("Usage: grep [OPTION]... PATTERNS [FILE]...\n" ++
    "Try 'grep --help' for more information.").toList

/-- Why there is nothing to look for. -/
inductive Fault where
  | option (e : Grammar.Fault)
  | noExpression
  | expression (e : Regex.Fault)
  | context (value : Bytes)
  | count

def Fault.message (s : Start) : Fault → Bytes
  | .option e => s.name ++ ": ".toList ++ e.message ++ '\n' :: usage
  | .noExpression => usage
  | .expression e => s.name ++ ": ".toList ++ e.message
  | .context value => s.name ++ ": ".toList ++ value ++ ": invalid context length argument".toList
  | .count => s.name ++ ": invalid max count".toList

/-- How many lines an option asks for. -/
def contextOf (options : Options) (letter : Char) : Except Fault Nat :=
  match (options.value? letter).or (options.value? 'C') with
  | none => .ok 0
  | some value =>
      match Bytes.toNat? value with
      | some n => .ok n
      | none => .error (.context value)

/-- The query that options and texts ask for. -/
def queryOf (options : Options) (texts : List Bytes) : Except Fault Query := do
  let before ← contextOf options 'B'
  let after ← contextOf options 'A'
  let most ←
    match options.value? 'm' with
    | none => .ok none
    | some value =>
        match Bytes.toInt? value with
        | some n => .ok (if n < 0 then none else some n.toNat)
        | none => .error .count
  let isExtended := (options.has 'E' || options.has 'P') && !options.has 'G'
  let read (b : Bytes) : Except Fault Regex :=
    if options.has 'F' then .ok (Regex.literal b)
    else
      match Regex.read ⟨isExtended, true⟩ b with
      | .ok (r, _) => .ok r
      | .error e => .error (.expression e)
  let expressions ← (texts.flatMap (Bytes.splitOn '\n')).mapM read
  return ⟨expressions.map (bounded options), options, most, before, after⟩

/-- The texts of expressions that are kept in files. -/
def textsIn (s : Start) : List Bytes → Script (Except Unit (List Bytes))
  | [] => return .ok []
  | name :: names => do
      match ← Script.readFile name with
      | .error e =>
          Script.complainOf s "" name e
          return .error ()
      | .ok contents =>
          match ← textsIn s names with
          | .ok texts => return .ok (Bytes.lines contents ++ texts)
          | .error () => return .error ()

def grep : Program := fun s => do
  let refuse (e : Fault) : Script Nat := do
    Script.put Script.stderr (e.message s ++ ['\n'])
    return 2
  match grammar.read s.arguments with
  | .error e => refuse (.option e)
  | .ok (options, operands) =>
      let isGiven := options.has 'e' || options.has 'f'
      let names := if isGiven then operands else operands.drop 1
      if !isGiven && operands.isEmpty then refuse .noExpression
      else
        match ← textsIn s (options.values 'f') with
        | .error () => return 2
        | .ok kept =>
            let texts := if isGiven then options.values 'e' ++ kept else operands.take 1
            match queryOf options texts with
            | .error e => refuse e
            | .ok q =>
                let isRecursive := q.has 'r' || q.has 'R'
                let hasNames := (1 < names.length || isRecursive || q.has 'H') && !q.has 'h'
                let mut r : Result := ⟨Progress.start, false, true⟩
                let names := if names.isEmpty then [[if isRecursive then '.' else '-']] else names
                for name in names do
                  r ← q.searchAt s hasNames Script.endless name r
                return if r.isFound && (q.has 'q' || r.isWhole) then 0
                  else if !r.isWhole then 2 else 1

/-- Searches with an option in front of the others. -/
def grepWith (option : String) : Program := fun s =>
  grep { s with name := "grep".toList, arguments := option.toList :: s.arguments }

end Search

end Playground.Tool
