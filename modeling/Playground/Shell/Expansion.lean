import Playground.Shell.Arithmetic
import Playground.Shell.Pattern
import Playground.Shell.State

set_option autoImplicit false

/-! # Expansion

A word is expanded in three steps. First its parts become characters, each of which knows whether it
was quoted and whether a word may be split there. Then the word is split into fields, and at last a
field that is a pattern becomes the names of the files that it stands for. How a command is
substituted by its output is a parameter, because executing commands needs expansion itself. -/

namespace Playground.Shell

open Machine (Bytes Script)

/-- A piece of a word after the first step. -/
inductive Item where
  | glyph (g : Glyph) (isSplittable : Bool)
  /-- There is a field here, even if it has no characters. -/
  | presence
  /-- The border between two arguments. -/
  | border
  deriving DecidableEq, Repr

namespace Expansion

/-! ## Fields -/

/-- The fields so far, last first, and what is known of the one that may have begun. -/
structure Splitting where
  fields : List Glyphs
  current : Option Glyphs
  /-- Was the last field ended by a blank separator? -/
  isAfterBlank : Bool

def Splitting.close (s : Splitting) : Splitting :=
  match s.current with
  | some g => { s with fields := g.reverse :: s.fields, current := none }
  | none => s

def Splitting.step (separators : Bytes) (s : Splitting) (i : Item) : Splitting :=
  match i with
  | .presence => { s with current := some (s.current.getD []), isAfterBlank := false }
  | .border => { s.close with isAfterBlank := false }
  | .glyph g isSplittable =>
      if isSplittable && separators.contains g.char then
        if Bytes.isSpace g.char then
          { s.close with isAfterBlank := s.isAfterBlank || s.current.isSome }
        else if s.isAfterBlank && s.current.isNone then { s with isAfterBlank := false }
        else { Splitting.close { s with current := some (s.current.getD []) } with
          isAfterBlank := false }
      else { s with current := some (g :: s.current.getD []), isAfterBlank := false }

/-- The fields of a word. -/
def split (separators : Bytes) (items : List Item) : List Glyphs :=
  ((items.foldl (Splitting.step separators) ⟨[], none, false⟩).close).fields.reverse

/-- A word as one field. -/
def join (items : List Item) : Glyphs :=
  items.filterMap fun i =>
    match i with
    | .glyph g _ => some g
    | .presence => none
    | .border => some ⟨' ', true⟩

/-! ## Parameters -/

def glyphs (b : Bytes) (isQuoted : Bool) : List Item :=
  b.map fun c => .glyph ⟨c, isQuoted⟩ (!isQuoted)

/-- The characters of a value. Between quotes there is a field even if the value is empty. -/
def ofValue (b : Bytes) (isQuoted : Bool) : List Item :=
  if isQuoted then .presence :: glyphs b true else glyphs b false

/-- The arguments, as fields or as one text. -/
def ofArguments (s : State) (isStar isQuoted : Bool) : List Item :=
  if isStar && isQuoted then
    let separator : Bytes :=
      match s.separators with
      | c :: _ => [c]
      | [] => []
    ofValue (Bytes.joinWith separator s.arguments) true
  else List.intercalate [.border] (s.arguments.map fun a => ofValue a isQuoted)

def optionLetters (s : State) : Bytes := s.options

/-- The value of a parameter that is not one of the two that stand for all arguments. -/
def parameterValue? (s : State) (name : Bytes) : Option Bytes :=
  match name with
  | ['#'] => some (Bytes.ofNat s.arguments.length)
  | ['?'] => some (Bytes.ofNat s.status)
  | ['-'] => some (optionLetters s)
  | ['$'] => some (Bytes.ofNat s.process)
  | ['!'] => s.lastBackground.map Bytes.ofNat
  | ['0'] => some s.name
  | name =>
      match Bytes.toNat? name with
      | some n => s.arguments[n - 1]?
      | none => s.value? name

def isAllArguments (name : Bytes) : Bool := name == ['@'] || name == ['*']

/-- Is the parameter set, and if wanted, not empty? -/
def isSet (s : State) (name : Bytes) (countsEmpty : Bool) : Bool :=
  if isAllArguments name then
    if countsEmpty then s.arguments.any fun a => !a.isEmpty else !s.arguments.isEmpty
  else
    match parameterValue? s name with
    | some value => !countsEmpty || !value.isEmpty
    | none => false

/-- What a parameter expands to if nothing is done with its value. -/
def plainItems (name : Bytes) (isQuoted : Bool) : Run (List Item) := do
  let s ← get
  if isAllArguments name then return ofArguments s (name == ['*']) isQuoted
  else
    match parameterValue? s name with
    | some value => return ofValue value isQuoted
    | none =>
        if s.options.contains 'u' && name != ['!'] then failOf name "parameter not set"
        else return ofValue [] isQuoted

/-- The number that an expression stands for. -/
def arithmetic (text : Bytes) : Run Bytes := do
  let s ← get
  let values := s.held.filterMap fun (name, v) => v.value.map fun value => (name, value)
  match Arithmetic.evaluate values text with
  | .error e => fail (Arithmetic.Fault.message text e)
  | .ok (n, assigned) =>
      for (name, value) in assigned.reverse do
        assign name value
      return Bytes.ofInt n

/-- The home directory that a tilde stands for, and the text after it. -/
def tilde? (s : State) (b : Bytes) (isWhole : Bool) : Option (Bytes × Bytes) :=
  match b with
  | '~' :: rest =>
      if rest.isEmpty && isWhole || rest.head? == some '/' then
        (s.value? "HOME".toList).map fun home => (home, rest)
      else none
  | _ => none

/-! ## The first step -/

section

variable (substitute : Command → Run Bytes)

mutual

/-- The pieces of the parts of a word. Text that stands inside an expansion may be split. -/
def items (steps : Nat) (isInside : Bool) (parts : Word) : Run (List Item) :=
  match steps, parts with
  | 0, _ => return []
  | _, [] => return []
  | steps + 1, p :: rest => do
      let first ←
        match p with
        | .text b true => pure (.presence :: glyphs b true)
        | .text b false => pure (b.map fun c => .glyph ⟨c, false⟩ isInside)
        | .parameter name operation isQuoted => parameter steps name operation isQuoted
        | .substitution body isQuoted =>
            let output ← substitute body
            pure (ofValue output isQuoted)
        | .arithmetic expression isQuoted =>
            let text := Glyphs.toBytes (join (← items steps true expression))
            let value ← arithmetic text
            pure (ofValue value isQuoted)
      return first ++ (← items steps isInside rest)
  termination_by structural steps

def parameter (steps : Nat) (name : Bytes) (operation : Operation) (isQuoted : Bool) :
    Run (List Item) :=
  match steps with
  | 0 => return []
  | steps + 1 => do
      let s ← get
      match operation with
      | .plain => plainItems name isQuoted
      | .length =>
          let value := Glyphs.toBytes (join (← plainItems name true))
          return ofValue (Bytes.ofNat value.length) isQuoted
      | .orDefault countsEmpty word =>
          if isSet s name countsEmpty then plainItems name isQuoted
          else inner steps isQuoted word
      | .ifSet countsEmpty word =>
          if isSet s name countsEmpty then inner steps isQuoted word
          else return if isQuoted then [.presence] else []
      | .orAssign countsEmpty word =>
          if isSet s name countsEmpty then plainItems name isQuoted
          else
            let value := Glyphs.toBytes (join (← items steps true word))
            if Bytes.isName name then assign name value
            else failOf name "bad variable name"
            return ofValue value isQuoted
      | .orFail countsEmpty word =>
          if isSet s name countsEmpty then plainItems name isQuoted
          else if word.isEmpty then
            failOf name (if countsEmpty then "parameter not set or null" else "parameter not set")
          else
            let message := Glyphs.toBytes (join (← items steps true word))
            failOf name (String.ofList message)
      | .trimStart longest pattern =>
          let value := Glyphs.toBytes (join (← plainItems name true))
          let pattern := Pattern.read (join (← items steps true pattern))
          return ofValue (Pattern.trimStart pattern longest value) isQuoted
      | .trimEnd longest pattern =>
          let value := Glyphs.toBytes (join (← plainItems name true))
          let pattern := Pattern.read (join (← items steps true pattern))
          return ofValue (Pattern.trimEnd pattern longest value) isQuoted
      | .bad => fail "Bad substitution".toList
  termination_by structural steps

/-- The word of an operation, in the place of the parameter. -/
def inner (steps : Nat) (isQuoted : Bool) (word : Word) : Run (List Item) :=
  match steps with
  | 0 => return []
  | steps + 1 => do
      let inside ← items steps true word
      return if isQuoted then .presence :: inside else inside
  termination_by structural steps

end

/-- The pieces of a word. -/
def wordItems (word : Word) : Run (List Item) := do
  match word with
  | .text b false :: rest =>
      match tilde? (← get) b rest.isEmpty with
      | some (home, after) =>
          let others ← items substitute Script.endless false (.text after false :: rest)
          return .presence :: (home.map fun c => .glyph ⟨c, true⟩ false) ++ others
      | none => items substitute Script.endless false word
  | word => items substitute Script.endless false word

/-! ## Names of files -/

/-- The components of a path, between its slashes. -/
def components (g : Glyphs) : List Glyphs :=
  g.foldr (fun x pieces =>
    match pieces with
    | [] => [[x]]
    | piece :: rest => if x.char = '/' then [] :: piece :: rest else (x :: piece) :: rest) [[]]

def exists? (path : Bytes) : Run Bool := do
  match ← ask (.status (Bytes.toText path) false) with
  | .ok _ => return true
  | .error _ => return false

/-- The names in a directory that a pattern stands for. Those that begin with a dot have to be asked
    for. -/
def matching (directory : Bytes) (pattern : Glyphs) : Run (List Bytes) := do
  let path := if directory.isEmpty then "." else Bytes.toText directory
  let items := Pattern.read pattern
  let showsHidden := (pattern.head?).map Glyph.char == some '.'
  match ← ask (.list path) with
  | .error _ => return []
  | .ok names =>
      let hidden := if showsHidden then [['.'], ['.', '.']] else []
      return (hidden ++ names.map Bytes.ofString).filter fun name =>
        (showsHidden || name.head? != some '.') && Pattern.hits items name

/-- The paths that begin in one way and go on as components say. -/
def paths (start : Bytes) : List Glyphs → Run (List Bytes)
  | [] => return [start]
  | c :: rest => do
      let ending (name : Bytes) : Bytes :=
        start ++ name ++ if rest.isEmpty then [] else ['/']
      if Pattern.isMagic c then
        let names ← matching start c
        let mut found := []
        for name in names do
          found := found ++ (← paths (ending name) rest)
        return found
      else
        let path := ending (Glyphs.toBytes c)
        if rest.isEmpty then
          return if ← exists? path then [path] else []
        else paths path rest

/-- The files that a field stands for, or the field itself. -/
def files (g : Glyphs) : Run (List Bytes) := do
  if (← hasOption 'f') || !Pattern.isMagic g then return [Glyphs.toBytes g]
  else
    match ← paths [] (components g) with
    | [] => return [Glyphs.toBytes g]
    | found => return found.mergeSort fun a b => Bytes.before a b

/-! ## Whole words -/

/-- The fields that words expand to. -/
def fields (words : List Word) : Run (List Bytes) := do
  let mut found : List (List Bytes) := []
  for word in words do
    let pieces ← wordItems substitute word
    for g in split (← get).separators pieces do
      found := (← files g) :: found
  return found.reverse.flatten

/-- The glyphs that a word expands to without being split. -/
def glyphsOf (word : Word) : Run Glyphs := do return join (← wordItems substitute word)

/-- The parts of a value that is assigned. A tilde after a colon stands for the home directory
    too. -/
def assignedParts (s : State) (word : Word) : Word :=
  word.flatMap fun p =>
    match p with
    | .text b false =>
        let pieces := Bytes.splitOn ':' b
        let isLast (i : Nat) : Bool := i + 1 == pieces.length
        ((List.range pieces.length).zip pieces).flatMap fun ((i : Nat), piece) =>
          let colon : Word := if isLast i then [] else [.text [':'] false]
          if i = 0 then [.text piece false] ++ colon
          else
            match tilde? s piece true with
            | some (home, after) => [.text home true, .text after false] ++ colon
            | none => [.text piece false] ++ colon
    | p => [p]

/-- The text that a word expands to without being split. -/
def text (word : Word) : Run Bytes := do return Glyphs.toBytes (← glyphsOf substitute word)

end

end Expansion

end Playground.Shell
