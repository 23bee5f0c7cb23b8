set_option autoImplicit false

/-! # Socket addresses

An IP address of either version with a port. An address of version 4 is four numbers with points
between them; one of version 6 stands in brackets, is eight groups of hexadecimal digits with colons
between them, may leave out one run of zero groups, may end in the four numbers of version 4, and
may have a number for its scope. -/

namespace Playground

inductive Address where
  | v4 (octets : List Nat) (port : Nat)
  | v6 (groups : List Nat) (scope port : Nat)
  deriving DecidableEq, Repr

namespace Address

/-! ## Reading -/

def digit? (radix : Nat) (c : Char) : Option Nat :=
  let n :=
    if c.isDigit then c.toNat - '0'.toNat
    else if 'a' ≤ c ∧ c ≤ 'f' then c.toNat - 'a'.toNat + 10
    else if 'A' ≤ c ∧ c ≤ 'F' then c.toNat - 'A'.toNat + 10
    else radix
  if n < radix then some n else none

/-- A number below `bound`: all the digits there are, at least one and no more than `most` if that
    is given. -/
def takeNumber (radix bound : Nat) (most : Option Nat) (leadingZero : Bool) (cs : List Char) :
    Option (Nat × List Char) :=
  let ds := (cs.takeWhile fun c => (digit? radix c).isSome)
  let n := ds.foldl (fun n d => n * radix + (digit? radix d).getD 0) 0
  if ds.isEmpty ∨ most.any (· < ds.length) ∨ bound ≤ n then none
  else if ¬leadingZero ∧ ds.head? = some '0' ∧ 1 < ds.length then none
  else some (n, cs.drop ds.length)

def after? (c : Char) : List Char → Option (List Char)
  | d :: cs => if d = c then some cs else none
  | [] => none

/-- One of the four numbers of version 4. -/
def takeOctet (cs : List Char) : Option (Nat × List Char) := takeNumber 10 256 (some 3) false cs

/-- The four numbers of version 4. -/
def takeV4 (cs : List Char) : Option (List Nat × List Char) := do
  let (a, cs) ← takeOctet cs
  let (b, cs) ← (after? '.' cs).bind takeOctet
  let (c, cs) ← (after? '.' cs).bind takeOctet
  let (d, cs) ← (after? '.' cs).bind takeOctet
  return ([a, b, c, d], cs)

/-- The two groups that the four numbers of version 4 make. -/
def pairUp : List Nat → List Nat
  | a :: b :: rest => (a * 256 + b) :: pairUp rest
  | _ => []

/-- The text of the next group: after a colon, unless it is the first. -/
def separated (isFirst : Bool) (cs : List Char) : Option (List Char) :=
  if isFirst then some cs else after? ':' cs

/-- Up to `room` groups, and whether the last two came from an address of version 4. -/
def takeGroups (isFirst : Bool) (room : Nat) (cs : List Char) : List Nat × Bool × List Char :=
  match room with
  | 0 => ([], false, cs)
  | room + 1 =>
      let embedded := if room = 0 then none else (separated isFirst cs).bind takeV4
      match embedded with
      | some (octets, rest) => (pairUp octets, true, rest)
      | none =>
          match (separated isFirst cs).bind (takeNumber 16 0x10000 (some 4) true) with
          | some (g, rest) =>
              let (gs, isV4, rest) := takeGroups false room rest
              (g :: gs, isV4, rest)
          | none => ([], false, cs)

/-- The eight groups of version 6. -/
def takeV6 (cs : List Char) : Option (List Nat × List Char) :=
  let (head, isV4, rest) := takeGroups true 8 cs
  if head.length = 8 then some (head, rest)
  else if isV4 then none
  else
    (after? ':' rest).bind fun rest =>
      (after? ':' rest).map fun rest =>
        let (tail, _, rest) := takeGroups true (7 - head.length) rest
        (head ++ List.replicate (8 - head.length - tail.length) 0 ++ tail, rest)

def takePort (cs : List Char) : Option (Nat × List Char) :=
  (after? ':' cs).bind (takeNumber 10 65536 none true)

/-- The number of the scope, which is zero if it is not given. -/
def takeScope (cs : List Char) : Nat × List Char :=
  match (after? '%' cs).bind (takeNumber 10 (1 <<< 32) none true) with
  | some r => r
  | none => (0, cs)

def read? (s : String) : Option Address :=
  let cs := s.toList
  let v4 := do
    let (octets, rest) ← takeV4 cs
    let (port, rest) ← takePort rest
    if rest.isEmpty then some (Address.v4 octets port) else none
  let v6 := do
    let (groups, rest) ← (after? '[' cs).bind takeV6
    let (scope, rest) := takeScope rest
    let (port, rest) ← (after? ']' rest).bind takePort
    if rest.isEmpty then some (Address.v6 groups scope port) else none
  v4.or v6

/-! ## Writing -/

def hex (n : Nat) : String := String.ofList (Nat.toDigits 16 n)

/-- How many zero groups stand at the front. -/
def leadingZeros (groups : List Nat) : Nat := (groups.takeWhile (· == 0)).length

/-- Where the longest run of zero groups begins and how long it is; of equal ones, the first. -/
def longestZeros (start : Nat) : List Nat → Nat × Nat
  | [] => (start, 0)
  | g :: gs =>
      let here := leadingZeros (g :: gs)
      let later := longestZeros (start + 1) gs
      if later.2 ≤ here then (start, here) else later

/-- The groups of version 6. One run of zero groups is left out if it is longer than one group. -/
def renderGroups (groups : List Nat) : String :=
  match groups with
  | [0, 0, 0, 0, 0, 0xFFFF, g, h] =>
      "::ffff:" ++ ".".intercalate ([g / 256, g % 256, h / 256, h % 256].map toString)
  | groups =>
      let (start, length) := longestZeros 0 groups
      if 1 < length then
        ":".intercalate ((groups.take start).map hex) ++ "::" ++
          ":".intercalate ((groups.drop (start + length)).map hex)
      else ":".intercalate (groups.map hex)

def render : Address → String
  | .v4 octets port => ".".intercalate (octets.map toString) ++ ":" ++ toString port
  | .v6 groups scope port =>
      "[" ++ renderGroups groups ++ (if scope = 0 then "" else "%" ++ toString scope) ++ "]:" ++
        toString port

end Address

end Playground
