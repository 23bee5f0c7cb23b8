import Playground.Machine.Bytes
import Playground.Machine.Call

set_option autoImplicit false

/-! # Commands of the shell

A command as it has been read, before anything in it is expanded. A word is a sequence of parts;
each part knows whether it stood between quotes, because that decides what is done with what it
expands to. -/

namespace Playground.Shell

open Machine (Bytes Access)

mutual

inductive Part where
  | text (b : Bytes) (isQuoted : Bool)
  | parameter (name : Bytes) (operation : Operation) (isQuoted : Bool)
  /-- The output of a command. -/
  | substitution (body : Command) (isQuoted : Bool)
  | arithmetic (expression : List Part) (isQuoted : Bool)

/-- What is done with the value of a parameter. The flag of the first four says whether an empty
    value counts as none. -/
inductive Operation where
  | plain
  | length
  | orDefault (countsEmpty : Bool) (word : List Part)
  | orAssign (countsEmpty : Bool) (word : List Part)
  | orFail (countsEmpty : Bool) (word : List Part)
  | ifSet (countsEmpty : Bool) (word : List Part)
  | trimStart (longest : Bool) (pattern : List Part)
  | trimEnd (longest : Bool) (pattern : List Part)
  | bad

inductive Redirect where
  | file (descriptor : Nat) (access : Access) (isForced : Bool) (name : List Part)
  /-- The source is a descriptor, or a dash to close this one. -/
  | duplicate (descriptor : Nat) (source : List Part)
  /-- The text of a document that follows the command, by its number. -/
  | document (descriptor : Nat) (number : Nat)

inductive Command where
  | skip
  | simple (line : Nat) (assignments : List (Bytes × List Part)) (words : List (List Part))
      (redirects : List Redirect)
  | pipeline (isNegated : Bool) (commands : List Command)
  | both (first second : Command)
  | either (first second : Command)
  | sequence (first second : Command)
  | background (line : Nat) (body : Command)
  | subshell (line : Nat) (body : Command) (redirects : List Redirect)
  | redirected (line : Nat) (body : Command) (redirects : List Redirect)
  | branch (test ifTrue ifFalse : Command)
  | loop (isUntil : Bool) (test body : Command)
  | each (line : Nat) (name : Bytes) (words : Option (List (List Part))) (body : Command)
  | choose (line : Nat) (word : List Part) (cases : List (List (List Part) × Command))
  | define (name : Bytes) (body : Command)

end

abbrev Word := List Part

namespace Word

/-- The text of a word without quotes and expansions. -/
def plain? : Word → Option Bytes
  | [.text b false] => some b
  | _ => none

/-- The text of a word after the removal of quotes, if there is nothing to expand in it. -/
def literal? (w : Word) : Option Bytes :=
  w.foldr (fun p rest =>
    match p, rest with
    | .text b _, some rest => some (b ++ rest)
    | _, _ => none) (some [])

def isQuoted (w : Word) : Bool :=
  w.any fun p =>
    match p with
    | .text _ q => q
    | _ => false

/-- The name and the value of a word that is an assignment. -/
def assignment? : Word → Option (Bytes × Word)
  | .text b false :: rest =>
      let name := b.takeWhile (· != '=')
      match b.drop name.length with
      | _ :: value =>
          if Machine.Bytes.isName name then
            some (name, if value.isEmpty then rest else .text value false :: rest)
          else none
      | [] => none
  | _ => none

end Word

/-- Words that have a meaning of their own where a command begins. -/
def reserved : List String :=
  ["!", "case", "do", "done", "elif", "else", "esac", "fi", "for", "if", "in", "then", "until",
    "while", "\x7b", "\x7d"]

end Playground.Shell
