import Playground.Tool.Stream

set_option autoImplicit false

/-! # Blanks and tabs

A tab stands for as many blanks as there are up to the next stop. Stops are at all multiples of a
width, or at places of their own. -/

namespace Playground.Tool

open Machine (Bytes Options Program Script Start Grammar withOptions seeHelp)

namespace Spacing

/-- Where the stops are: at these places, and after them at the multiples of a width. -/
structure Stops where
  places : List Nat
  width : Option Nat

/-- The next stop after a column, if there is one. -/
def Stops.next? (s : Stops) (column : Nat) : Option Nat :=
  match s.places.find? (column < ·) with
  | some place => some place
  | none => s.width.map fun w => column + w - column % w

/-- The stops that a text lists, or what is wrong with it. -/
def readStops (b : Bytes) : Except Bytes Stops :=
  let b := b.map fun c => if Bytes.isBlank c then ',' else c
  let words := (Bytes.splitOn ',' b).filter fun word => !word.isEmpty
  match words.find? fun word => !Bytes.isDigits word with
  | some word =>
      let strange := (word.dropWhile Char.isDigit)
      .error ("tab size contains invalid character(s): ".toList ++ Script.quoted strange)
  | none =>
      let places := words.map Bytes.digitsValue
      if places.contains 0 then .error "tab size cannot be 0".toList
      else if (places.zip (places.drop 1)).any fun (a, b) => b ≤ a then
        .error "tab sizes must be ascending".toList
      else
        match places with
        | [] => .ok ⟨[], some 8⟩
        | [width] => .ok ⟨[], some width⟩
        | places => .ok ⟨places, none⟩

/-- Options in which a dash is followed by digits become options of stops. -/
def withStops (arguments : List Bytes) : List Bytes :=
  arguments.map fun a =>
    match a with
    | '-' :: c :: cs => if c.isDigit then '-' :: 't' :: c :: cs else a
    | a => a

/-- Goes on with the stops of options, or complains. -/
def withStopsOf (s : Start) (options : Options) (body : Stops → Script Nat) : Script Nat := do
  match readStops (Bytes.joinWith [','] (options.values 't')) with
  | .ok stops => body stops
  | .error e =>
      Script.complain s e
      return 1

/-! ## Tabs to blanks -/

/-- Where an expansion is in a line, and whether tabs are still replaced. -/
structure Cursor where
  column : Nat
  converts : Bool

/-- What a character becomes, and the place after it. -/
def Stops.expandChar (stops : Stops) (isInitial : Bool) (k : Cursor) (c : Char) : Bytes × Cursor :=
  let converts := k.converts && (!isInitial || Bytes.isBlank c)
  if !k.converts then ([c], k)
  else if c = '\t' then
    let column := (stops.next? k.column).getD (k.column + 1)
    (List.replicate (column - k.column) ' ', ⟨column, converts⟩)
  else if c = Char.ofNat 8 then ([c], ⟨k.column - 1, converts⟩)
  else ([c], ⟨k.column + 1, converts⟩)

def Stops.expandLine (stops : Stops) (isInitial : Bool) (line : Bytes) : Bytes :=
  let (pieces, _) := line.foldl (fun ((pieces : List Bytes), k) c =>
    let (text, k) := stops.expandChar isInitial k c
    (text :: pieces, k)) ([], (⟨0, true⟩ : Cursor))
  pieces.reverse.flatten

/-- A filter that changes each line by itself. -/
def eachLine (change : Bytes → Bytes) : Stream.Filter Unit where
  step := fun _ line isEnded => (change line ++ (if isEnded then ['\n'] else []), ())

def expand : Program := fun s =>
  withOptions { s with arguments := withStops s.arguments }
      { flags := "i", valued := "t", names := [("initial", 'i'), ("tabs", 't')] } 1
      fun options names => withStopsOf s options fun stops =>
    Stream.filterFiles s names () (eachLine (stops.expandLine (options.has 'i')))

/-! ## Blanks to tabs -/

/-- What has been seen of a line. -/
structure Run where
  column : Nat
  converts : Bool
  /-- Was the last character a blank, or is this the start of the line? -/
  isAfterBlank : Bool
  /-- Blanks that may yet become a tab, in reverse. -/
  pending : Bytes
  /-- Is the only one of them the one right before a stop? -/
  isAtStop : Bool

/-- The blanks that have been waiting, once it is known that they are not replaced. -/
def Run.released (r : Run) : Bytes :=
  if 1 < r.pending.length ∧ r.isAtStop then '\t' :: r.pending.reverse.drop 1
  else r.pending.reverse

/-- The place after a character that is written. -/
def Run.after (r : Run) (convertsAll : Bool) (c : Char) (column : Nat) (isBlank : Bool) :
    Bytes × Run :=
  (r.released ++ [c], ⟨column, r.converts && (convertsAll || isBlank), isBlank, [], false⟩)

/-- What is written for a character, and the place after it. -/
def Stops.unexpandChar (stops : Stops) (convertsAll : Bool) (r : Run) (c : Char) : Bytes × Run :=
  if !r.converts then ([c], r)
  else if Bytes.isBlank c then
    match stops.next? r.column with
    | none => { r with converts := false }.after convertsAll c r.column true
    | some stop =>
        let kept (pending : Bytes) : Bytes := if r.isAtStop then pending.drop (pending.length - 1)
          else []
        if c = '\t' then
          let pending := r.pending.map fun _ => '\t'
          { r with pending := kept pending }.after convertsAll c stop true
        else if r.isAfterBlank && r.column + 1 == stop then
          let pending := r.pending.map fun _ => '\t'
          { r with pending := kept pending }.after convertsAll '\t' stop true
        else
          ([], { r with
            column := r.column + 1
            isAfterBlank := true
            pending := c :: r.pending
            isAtStop := r.isAtStop || r.column + 1 == stop })
  else if c = Char.ofNat 8 then r.after convertsAll c (r.column - 1) false
  else r.after convertsAll c (r.column + 1) false

def Stops.unexpandLine (stops : Stops) (convertsAll : Bool) (line : Bytes) : Bytes :=
  let (pieces, r) := line.foldl (fun ((pieces : List Bytes), r) c =>
    let (text, r) := stops.unexpandChar convertsAll r c
    (text :: pieces, r)) ([], (⟨0, true, true, [], false⟩ : Run))
  pieces.reverse.flatten ++ r.released

def unexpand : Program := fun s =>
  withOptions { s with arguments := withStops s.arguments }
      { flags := "a", valued := "t",
        names := [("all", 'a'), ("first-only", 'f'), ("tabs", 't')] } 1
      fun options names => withStopsOf s options fun stops =>
    let convertsAll := (options.has 'a' || options.has 't') && !options.has 'f'
    Stream.filterFiles s names () (eachLine (stops.unexpandLine convertsAll))

end Spacing

end Playground.Tool
