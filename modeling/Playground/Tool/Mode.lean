import Playground.Machine.Bytes

set_option autoImplicit false

/-! # Modes

A mode says what the owner of a file, the owner's group, and all others may do with it. It is
changed by a number, or by clauses that name users, an operator and permissions. -/

namespace Playground.Tool

open Machine (Bytes)

namespace Mode

/-- The bits of a class of users in a mode. -/
def classBits (who : List Char) (bits : Nat) : Nat :=
  (if who.contains 'u' then bits * 64 else 0) ||| (if who.contains 'g' then bits * 8 else 0) |||
    (if who.contains 'o' then bits else 0)

/-- The bits that letters stand for, given the mode before. One letter may also be a class of users,
    for the bits that they have. -/
def namedBits (isDirectory : Bool) (mode : Nat) (users letters : List Char) : Nat :=
  match letters with
  | ['u'] => classBits users (mode / 64 % 8)
  | ['g'] => classBits users (mode / 8 % 8)
  | ['o'] => classBits users (mode % 8)
  | letters =>
      let has (c : Char) : Bool := letters.contains c
      let runs := has 'x' || (has 'X' && (isDirectory || mode &&& 0o111 != 0))
      classBits users ((if has 'r' then 4 else 0) + (if has 'w' then 2 else 0) +
          (if runs then 1 else 0)) |||
        (if has 's' && users.contains 'u' then 0o4000 else 0) |||
        (if has 's' && users.contains 'g' then 0o2000 else 0) |||
        (if has 't' && users.contains 'o' then 0o1000 else 0)

/-- All bits that an assignment to classes of users may change. Those of a directory that are not
    about permissions stay unless they are named. -/
def assignedBits (isDirectory : Bool) (users letters : List Char) : Nat :=
  let special := classBits users 7 ||| (if users.contains 'u' then 0o4000 else 0) |||
    (if users.contains 'g' then 0o2000 else 0) ||| (if users.contains 'o' then 0o1000 else 0)
  if isDirectory && !letters.contains 's' then special &&& 0o1777 else special

/-- A mode after one clause such as "u+x". -/
def applyClause (isDirectory : Bool) (mask mode : Nat) (clause : Bytes) : Option Nat :=
  let who := clause.takeWhile fun c => "ugoa".toList.contains c
  let isAll := who.isEmpty || who.contains 'a'
  let users := if isAll then ['u', 'g', 'o'] else who
  let rec go (steps : Nat) (mode : Nat) (b : Bytes) : Option Nat :=
    match steps, b with
    | 0, _ => none
    | _, [] => some mode
    | steps + 1, operator :: rest =>
        let letters := rest.takeWhile fun c => "rwxXstugo".toList.contains c
        let named := namedBits isDirectory mode users letters
        let named := if who.isEmpty then named &&& (0o7777 ^^^ mask) else named
        let after := rest.drop letters.length
        match operator with
        | '+' => go steps (mode ||| named) after
        | '-' => go steps (mode &&& (0o7777 ^^^ named)) after
        | '=' =>
            let kept := mode &&& (0o7777 ^^^ assignedBits isDirectory users letters)
            go steps (kept ||| named) after
        | _ => none
  match clause.drop who.length with
  | [] => none
  | rest => go (rest.length + 1) mode rest

/-- The mode that a text asks for. -/
def changed (isDirectory : Bool) (mask mode : Nat) (text : Bytes) : Option Nat :=
  if !text.isEmpty && text.all Bytes.isOctalDigit then
    let kept := if isDirectory && text.length < 5 then mode &&& 0o6000 else 0
    if 0o7777 < Bytes.octalValue text then none else some (Bytes.octalValue text ||| kept)
  else
    (Bytes.splitOn ',' text).foldl (fun mode clause =>
      mode.bind fun m => applyClause isDirectory mask m clause) (some mode)

/-- The three letters for what a class of users may do. The last bit of the mode that is not about
    anybody changes the third one. -/
def classLetters (bits : Nat) (isSpecial : Bool) (special : Char) : Bytes :=
  [if bits / 4 % 2 = 1 then 'r' else '-', if bits / 2 % 2 = 1 then 'w' else '-',
    match isSpecial, bits % 2 == 1 with
    | true, true => special
    | true, false => special.toUpper
    | false, true => 'x'
    | false, false => '-']

/-- A mode as nine letters. -/
def letters (mode : Nat) : Bytes :=
  classLetters (mode / 64 % 8) (mode / 2048 % 2 == 1) 's' ++
    classLetters (mode / 8 % 8) (mode / 1024 % 2 == 1) 's' ++
    classLetters (mode % 8) (mode / 512 % 2 == 1) 't'

/-- A mode as at least four digits. -/
def digits (mode : Nat) : Bytes :=
  let octal := Nat.toDigits 8 mode
  List.replicate (4 - octal.length) '0' ++ octal

end Mode

end Playground.Tool
