import Playground.Shell.Syntax

set_option autoImplicit false

/-! # Reading commands

Commands are read one complete command at a time, so that those before a fault have been executed
when the fault is met. Reading is recursive: a word may hold commands, and those words. It is
bounded by a number of steps that grows with the text. -/

namespace Playground.Shell

open Machine (Bytes)

/-! ## Tokens -/

inductive Token where
  | endOfText
  | newline
  | operator (name : String)
  | word (w : Word) (line : Nat)
  /-- A redirection, before its operand. -/
  | redirect (descriptor : Option Nat) (operator : String)

/-- How a token is called in a complaint. Reserved words are called what they are where they are
    recognised. -/
def Token.describe (t : Token) (recognises : Bool) : String :=
  let inQuotes (s : String) : String := "\"" ++ s ++ "\""
  match t with
  | .endOfText => "end of file"
  | .newline => "newline"
  | .operator name => inQuotes name
  | .redirect _ _ => "redirection"
  | .word w _ =>
      match w.plain? with
      | some b =>
          let s := String.ofList b
          if recognises && reserved.contains s then inQuotes s else "word"
      | none => "word"

/-- Is the token this reserved word? -/
def Token.isReserved (t : Token) (s : String) : Bool :=
  match t with
  | .word w _ => (w.plain?).map String.ofList == some s
  | _ => false

/-- A fault of the text, and the line in which it was met. -/
structure SyntaxFault where
  line : Nat
  message : String

/-- A document whose text is still to come. -/
structure PendingDocument where
  number : Nat
  delimiter : Bytes
  stripsTabs : Bool
  isQuoted : Bool

structure ReaderState where
  rest : Bytes
  line : Nat
  /-- A token that has been looked at and not been taken. -/
  peeked : Option Token
  pending : List PendingDocument
  documents : List (Nat × Word)
  nextDocument : Nat

abbrev Reader := StateT ReaderState (Except SyntaxFault)

namespace Reader

def fault {α : Type} (message : String) : Reader α := do
  throw ⟨(← get).line, "Syntax error: " ++ message⟩

def unexpected {α : Type} (t : Token) (recognises : Bool) (wanted : Option String) : Reader α :=
  fault (t.describe recognises ++ " unexpected" ++
    match wanted with
    | some s => " (expecting " ++ s ++ ")"
    | none => "")

def dropChar : Reader Unit :=
  modify fun s =>
    match s.rest with
    | '\n' :: rest => { s with rest := rest, line := s.line + 1 }
    | _ :: rest => { s with rest := rest }
    | [] => s

/-- Takes characters as long as they are wanted. -/
def takeWhile (p : Char → Bool) : Reader Bytes :=
  modifyGet fun s =>
    let taken := s.rest.takeWhile p
    (taken, { s with rest := s.rest.drop taken.length, line := s.line + taken.count '\n' })

/-- Drops joined lines in front. -/
def joinLines : Nat → Reader Unit
  | 0 => pure ()
  | steps + 1 => do
      match (← get).rest with
      | '\\' :: '\n' :: rest =>
          modify fun s => { s with rest := rest, line := s.line + 1 }
          joinLines steps
      | _ => pure ()

/-! ## Parts -/

/-- Where a word is being read, which decides where it ends and what is special in it. -/
inductive Place where
  | bare
  | double
  | brace (inDouble : Bool)
  | arithmetic (depth : Nat)
  | document
  deriving DecidableEq, Repr

/-- Are expansions here quoted? -/
def Place.isQuoted : Place → Bool
  | .bare => false
  | .double => true
  | .brace inDouble => inDouble
  | .arithmetic _ => true
  | .document => true

/-- Adds a character to parts whose last one comes first, with its text reversed. -/
def addChar (parts : List Part) (c : Char) (isQuoted : Bool) : List Part :=
  match parts with
  | .text b q :: rest => if q = isQuoted then .text (c :: b) q :: rest
      else .text [c] isQuoted :: parts
  | parts => .text [c] isQuoted :: parts

/-- Adds quoted text, which counts even if it is empty. -/
def addQuoted (parts : List Part) (cs : Bytes) : List Part :=
  match parts with
  | .text b true :: rest => .text (cs.reverse ++ b) true :: rest
  | parts => .text cs.reverse true :: parts

def finishParts (parts : List Part) : Word :=
  parts.reverse.map fun p =>
    match p with
    | .text b q => .text b.reverse q
    | p => p

def isSpecialParameter (c : Char) : Bool := "@*#?-$!".toList.contains c

/-- Does a character end a bare word? -/
def endsWord (c : Char) : Bool := " \t\n;&|<>()".toList.contains c

/-- The text up to a closing backquote, in which a backslash before some characters is dropped. -/
def takeBackquoted (inDouble : Bool) : Bytes → Bytes → Option (Bytes × Bytes)
  | _, [] => none
  | taken, '\\' :: c :: rest =>
      if c = '\\' ∨ c = '$' ∨ c.toNat = 0x60 ∨ (c = '"' ∧ inDouble = true) then
        takeBackquoted inDouble (c :: taken) rest
      else takeBackquoted inDouble (c :: '\\' :: taken) rest
  | taken, c :: rest =>
      if c.toNat = 0x60 then some (taken.reverse, rest)
      else takeBackquoted inDouble (c :: taken) rest

/-- Runs a reader on a text of its own. -/
def onText {α : Type} (text : Bytes) (line : Nat) (r : Reader α) : Reader α := do
  let s ← get
  set { s with rest := text, line := line, peeked := none, pending := [] }
  let a ← r
  modify fun t =>
    { t with rest := s.rest, line := s.line, peeked := s.peeked, pending := s.pending }
  return a

/-! ## Documents -/

/-- The lines of a document, and what follows it. -/
def takeDocument (d : PendingDocument) : Nat → List Bytes → Bytes → List Bytes × Bytes
  | 0, taken, rest => (taken.reverse, rest)
  | steps + 1, taken, rest =>
      if rest.isEmpty then (taken.reverse, [])
      else
        let line := rest.takeWhile (· != '\n')
        let after := (rest.drop line.length).drop 1
        let line := if d.stripsTabs then line.dropWhile (· == '\t') else line
        if line = d.delimiter then (taken.reverse, after)
        else takeDocument d steps ((line ++ ['\n']) :: taken) after

/-! ## Words and commands -/

/-- The operator at the front of a text, the longest first. -/
def operators : List String := ["&&", "||", ";;", ";", "&", "|", "(", ")"]

def redirectOperators : List String := ["<<-", "<<", "<&", "<>", "<", ">>", ">&", ">|", ">"]

def leadingOperator? (names : List String) (rest : Bytes) : Option String :=
  names.find? fun name => name.toList.isPrefixOf rest

/-- The name, and the operator after it, of a parameter in braces. -/
def takeParameterName : Reader Bytes := do
  match (← get).rest with
  | c :: _ =>
      if Bytes.isNameStart c then takeWhile Bytes.isNameChar
      else if c.isDigit then takeWhile Char.isDigit
      else if isSpecialParameter c then
        dropChar
        return [c]
      else return []
  | [] => return []

/-- Drops an expected character if it is next, and tells whether it was. -/
def acceptChar (c : Char) : Reader Bool := do
  match (← get).rest with
  | d :: _ =>
      if c = d then
        dropChar
        return true
      else return false
  | [] => return false

mutual

/-- Reads the parts of a word up to the end of the place it is in. -/
def readParts (steps : Nat) (place : Place) (parts : List Part) : Reader Word :=
  match steps with
  | 0 => fault "too deep"
  | steps + 1 => do
      match (← get).rest, place with
      | [], .bare => return finishParts parts
      | [], .document => return finishParts parts
      | [], .double => fault "Unterminated quoted string"
      | [], .brace _ => fault "Missing '\x7d'"
      | [], .arithmetic _ => fault "Missing '))'"
      | '\\' :: '\n' :: _, _ =>
          dropChar
          dropChar
          readParts steps place parts
      | '\\' :: c :: _, place =>
          dropChar
          match place with
          | .bare =>
              dropChar
              readParts steps place (addQuoted parts [c])
          | .brace false =>
              dropChar
              readParts steps place (addQuoted parts [c])
          | place =>
              let special :=
                if place = .document then c = '$' ∨ c = '\\' ∨ c.toNat = 0x60
                else c = '$' ∨ c = '\\' ∨ c = '"' ∨ c.toNat = 0x60 ∨
                  (c = '\x7d' ∧ place = .brace true)
              if special then
                dropChar
                readParts steps place (addQuoted parts [c])
              else readParts steps place (addQuoted parts ['\\'])
      | ['\\'], place =>
          dropChar
          readParts steps place (addQuoted parts ['\\'])
      | '$' :: _, place =>
          dropChar
          let parts ← readDollar steps place parts
          readParts steps place parts
      | c :: rest, place =>
          if c.toNat = 0x60 then
            dropChar
            let p ← readBackquoted steps place
            readParts steps place (p :: parts)
          else
            match place with
            | .bare =>
                if endsWord c then return finishParts parts
                else if c = '\'' then
                  dropChar
                  let quoted ← readSingle
                  readParts steps place (addQuoted parts quoted)
                else if c = '"' then
                  dropChar
                  let inner ← readParts steps .double []
                  readParts steps place (inner.reverse.map reverseText ++ markQuoted inner parts)
                else
                  dropChar
                  readParts steps place (addChar parts c false)
            | .double =>
                dropChar
                if c = '"' then return finishParts parts
                else readParts steps place (addChar parts c true)
            | .document =>
                dropChar
                readParts steps place (addChar parts c true)
            | .brace inDouble =>
                dropChar
                if c = '\x7d' then return finishParts parts
                else if c = '"' then
                  let inner ← readParts steps .double []
                  readParts steps place (inner.reverse.map reverseText ++ markQuoted inner parts)
                else if c = '\'' ∧ inDouble = false then
                  let quoted ← readSingle
                  readParts steps place (addQuoted parts quoted)
                else readParts steps place (addChar parts c inDouble)
            | .arithmetic depth =>
                dropChar
                if c = '(' then readParts steps (.arithmetic (depth + 1)) (addChar parts c true)
                else if c = ')' then
                  match depth, rest with
                  | depth + 1, _ => readParts steps (.arithmetic depth) (addChar parts c true)
                  | 0, ')' :: _ =>
                      dropChar
                      return finishParts parts
                  | 0, _ => readParts steps place (addChar parts c true)
                else readParts steps place (addChar parts c true)
  termination_by structural steps
where
  readSingle : Reader Bytes := do
    let quoted ← takeWhile (· != '\'')
    if ← acceptChar '\'' then return quoted else fault "Unterminated quoted string"
  reverseText (p : Part) : Part :=
    match p with
    | .text b q => .text b.reverse q
    | p => p
  markQuoted (inner : Word) (parts : List Part) : List Part :=
    if inner.isEmpty then .text [] true :: parts else parts

/-- Reads what follows a dollar sign. -/
def readDollar (steps : Nat) (place : Place) (parts : List Part) : Reader (List Part) :=
  match steps with
  | 0 => fault "too deep"
  | steps + 1 => do
      let q := place.isQuoted
      joinLines steps
      match (← get).rest with
      | '(' :: '(' :: _ =>
          dropChar
          dropChar
          let expression ← readParts steps (.arithmetic 0) []
          return .arithmetic expression q :: parts
      | '(' :: _ =>
          dropChar
          let body ← readList steps false true
          let t ← next steps true false
          match t with
          | .operator ")" => return .substitution body q :: parts
          | t => unexpected t true (some "\")\"")
      | '\x7b' :: _ =>
          dropChar
          let p ← readBrace steps place
          return p :: parts
      | c :: _ =>
          if Bytes.isNameStart c then
            let name ← takeWhile Bytes.isNameChar
            return .parameter name .plain q :: parts
          else if c.isDigit ∨ isSpecialParameter c then
            dropChar
            return .parameter [c] .plain q :: parts
          else return addChar parts '$' q
      | [] => return addChar parts '$' q
  termination_by structural steps

/-- Reads a parameter between braces, after the opening one. -/
def readBrace (steps : Nat) (place : Place) : Reader Part :=
  match steps with
  | 0 => fault "too deep"
  | steps + 1 => do
      let q := place.isQuoted
      let inner : Place := .brace q
      match (← get).rest with
      | '#' :: '\x7d' :: _ =>
          dropChar
          dropChar
          return .parameter ['#'] .plain q
      | '#' :: _ =>
          dropChar
          let name ← takeParameterName
          if ← acceptChar '\x7d' then
            return .parameter name (if name.isEmpty then .bad else .length) q
          else
            let _ ← readParts steps inner []
            return .parameter name .bad q
      | _ =>
          let name ← takeParameterName
          if name.isEmpty then
            let _ ← readParts steps inner []
            return .parameter name .bad q
          else
            joinLines steps
            let countsEmpty ← acceptChar ':'
            match (← get).rest with
            | '\x7d' :: _ =>
                dropChar
                return .parameter name (if countsEmpty then .bad else .plain) q
            | '-' :: _ =>
                dropChar
                return .parameter name (.orDefault countsEmpty (← readParts steps inner [])) q
            | '=' :: _ =>
                dropChar
                return .parameter name (.orAssign countsEmpty (← readParts steps inner [])) q
            | '?' :: _ =>
                dropChar
                return .parameter name (.orFail countsEmpty (← readParts steps inner [])) q
            | '+' :: _ =>
                dropChar
                return .parameter name (.ifSet countsEmpty (← readParts steps inner [])) q
            | '%' :: _ =>
                dropChar
                let longest ← acceptChar '%'
                let pattern ← readParts steps (.brace false) []
                return .parameter name (if countsEmpty then .bad else .trimEnd longest pattern) q
            | '#' :: _ =>
                dropChar
                let longest ← acceptChar '#'
                let pattern ← readParts steps (.brace false) []
                return .parameter name (if countsEmpty then .bad else .trimStart longest pattern) q
            | _ =>
                let _ ← readParts steps inner []
                return .parameter name .bad q
  termination_by structural steps

/-- Reads a command between backquotes, after the opening one. -/
def readBackquoted (steps : Nat) (place : Place) : Reader Part :=
  match steps with
  | 0 => fault "too deep"
  | steps + 1 => do
      let s ← get
      match takeBackquoted (place = .double) [] s.rest with
      | none =>
          set { s with rest := [] }
          fault "EOF in backquote substitution"
      | some (text, rest) =>
          let body ← onText text s.line (readList steps false true)
          modify fun t => { t with rest := rest, line := s.line + text.count '\n' }
          return .substitution body place.isQuoted
  termination_by structural steps

/-- Reads the texts of all documents that were announced in the line that has just ended. -/
def readDocuments (steps : Nat) : Reader Unit :=
  match steps with
  | 0 => fault "too deep"
  | steps + 1 => do
      let s ← get
      match s.pending with
      | [] => pure ()
      | d :: pending =>
          let (lines, rest) := takeDocument d (s.rest.length + 1) [] s.rest
          let text := lines.flatten
          set { s with
            rest := rest
            pending := pending
            line := s.line + (s.rest.length - rest.length |> s.rest.take).count '\n' }
          let word ←
            if d.isQuoted then pure [.text text true]
            else onText text s.line (readParts steps .document [])
          modify fun t => { t with documents := (d.number, word) :: t.documents }
          readDocuments steps
  termination_by structural steps

/-- Reads the next token of the text. -/
def readToken (steps : Nat) : Reader Token :=
  match steps with
  | 0 => fault "too deep"
  | steps + 1 => do
      joinLines steps
      let _ ← takeWhile Bytes.isBlank
      joinLines steps
      let s ← get
      match s.rest with
      | [] => return .endOfText
      | '\n' :: _ =>
          dropChar
          readDocuments steps
          return .newline
      | '#' :: _ =>
          let _ ← takeWhile (· != '\n')
          readToken steps
      | ' ' :: _ => readToken steps
      | '\t' :: _ => readToken steps
      | rest =>
          match leadingOperator? operators rest, leadingOperator? redirectOperators rest with
          | some name, _ =>
              modify fun s => { s with rest := rest.drop name.length }
              return .operator name
          | none, some name =>
              modify fun s => { s with rest := rest.drop name.length }
              return .redirect none name
          | none, none =>
              let word ← readParts steps .bare []
              match word.plain?, (← get).rest with
              | some digits, c :: after =>
                  if Bytes.isDigits digits ∧ digits.length = 1 ∧ (c = '<' ∨ c = '>') then
                    let name := (leadingOperator? redirectOperators (c :: after)).getD ""
                    modify fun s => { s with rest := s.rest.drop name.length }
                    return .redirect (some (Bytes.digitsValue digits)) name
                  else return .word word s.line
              | _, _ => return .word word s.line
  termination_by structural steps

/-- Takes the next token, after the ends of lines if those do not matter here. -/
def next (steps : Nat) (skipsLines looksOnly : Bool) : Reader Token :=
  match steps with
  | 0 => fault "too deep"
  | steps + 1 => do
      let t ←
        match (← get).peeked with
        | some t => pure t
        | none => readToken steps
      match t, skipsLines with
      | .newline, true =>
          modify fun s => { s with peeked := none }
          next steps skipsLines looksOnly
      | t, _ =>
          modify fun s => { s with peeked := if looksOnly then some t else none }
          return t
  termination_by structural steps

/-- Reads the operand of a redirection. -/
def readRedirect (steps : Nat) (descriptor : Option Nat) (name : String) : Reader Redirect :=
  match steps with
  | 0 => fault "too deep"
  | steps + 1 => do
      match ← next steps false false with
      | .word w _ =>
          match name with
          | "<" => return .file (descriptor.getD 0) .read false w
          | "<>" => return .file (descriptor.getD 0) .update false w
          | ">" => return .file (descriptor.getD 1) .overwrite false w
          | ">|" => return .file (descriptor.getD 1) .overwrite true w
          | ">>" => return .file (descriptor.getD 1) .append false w
          | "<&" => return .duplicate (descriptor.getD 0) w
          | ">&" => return .duplicate (descriptor.getD 1) w
          | name =>
              let s ← get
              let d : PendingDocument :=
                ⟨s.nextDocument, (w.literal?).getD [], name = "<<-", w.isQuoted⟩
              set { s with pending := s.pending ++ [d], nextDocument := s.nextDocument + 1 }
              return .document (descriptor.getD 0) d.number
      | t => unexpected t false none
  termination_by structural steps

/-- Reads redirections that follow a compound command. -/
def readRedirects (steps : Nat) : Reader (List Redirect) :=
  match steps with
  | 0 => fault "too deep"
  | steps + 1 => do
      match ← next steps false true with
      | .redirect d name =>
          let _ ← next steps false false
          let r ← readRedirect steps d name
          return r :: (← readRedirects steps)
      | _ => return []
  termination_by structural steps

/-- Reads a list of commands: up to the end of the line if that ends it, else up to a token that
    cannot begin a command. It may be empty where that is allowed. -/
def readList (steps : Nat) (endsWithLine mayBeEmpty : Bool) : Reader Command :=
  match steps with
  | 0 => fault "too deep"
  | steps + 1 => do
      let t ← next steps (!endsWithLine) true
      match t with
      | .newline =>
          let _ ← next steps false false
          return .skip
      | .endOfText => return .skip
      | t =>
          if mayBeEmpty ∧ endsWithLine = false ∧ endsList t then return .skip
          else
            let first ← readAndOr steps
            let line := (← get).line
            match ← next steps false true with
            | .operator "&" =>
                let _ ← next steps false false
                readRest steps endsWithLine (.background line first)
            | .operator ";" =>
                let _ ← next steps false false
                readRest steps endsWithLine first
            | .newline =>
                if endsWithLine then
                  let _ ← next steps false false
                  return first
                else readRest steps endsWithLine first
            | .endOfText => return first
            | t => if endsWithLine then unexpected t true none else return first
  termination_by structural steps
where
  endsList (t : Token) : Bool :=
    match t with
    | .endOfText => true
    | .operator name => name == ")" || name == ";;"
    | t => ["do", "done", "elif", "else", "esac", "fi", "then", "\x7d"].any t.isReserved

/-- Reads the commands after the first one of a list. -/
def readRest (steps : Nat) (endsWithLine : Bool) (first : Command) : Reader Command :=
  match steps with
  | 0 => fault "too deep"
  | steps + 1 => do
      match ← readList steps endsWithLine true with
      | .skip => return first
      | second => return .sequence first second
  termination_by structural steps

/-- Reads pipelines joined by the two operators that look at success. -/
def readAndOr (steps : Nat) : Reader Command :=
  match steps with
  | 0 => fault "too deep"
  | steps + 1 => do
      let first ← readPipeline steps
      readAndOrRest steps first
  termination_by structural steps

def readAndOrRest (steps : Nat) (first : Command) : Reader Command :=
  match steps with
  | 0 => fault "too deep"
  | steps + 1 => do
      match ← next steps false true with
      | .operator "&&" =>
          let _ ← next steps false false
          let _ ← next steps true true
          readAndOrRest steps (.both first (← readPipeline steps))
      | .operator "||" =>
          let _ ← next steps false false
          let _ ← next steps true true
          readAndOrRest steps (.either first (← readPipeline steps))
      | _ => return first
  termination_by structural steps

def readPipeline (steps : Nat) : Reader Command :=
  match steps with
  | 0 => fault "too deep"
  | steps + 1 => do
      let t ← next steps false true
      if t.isReserved "!" then
        let _ ← next steps false false
        match ← readPipeline steps with
        | .pipeline isNegated commands => return .pipeline (!isNegated) commands
        | command => return .pipeline true [command]
      else
        let first ← readCommand steps
        match ← readPipes steps with
        | [] => return first
        | others => return .pipeline false (first :: others)
  termination_by structural steps

/-- Reads the commands after the first one of a pipeline. -/
def readPipes (steps : Nat) : Reader (List Command) :=
  match steps with
  | 0 => fault "too deep"
  | steps + 1 => do
      match ← next steps false true with
      | .operator "|" =>
          let _ ← next steps false false
          let _ ← next steps true true
          let command ← readCommand steps
          return command :: (← readPipes steps)
      | _ => return []
  termination_by structural steps

/-- Takes a reserved word or an operator that has to come now. -/
def expect (steps : Nat) (skipsLines : Bool) (wanted : String) : Reader Unit :=
  match steps with
  | 0 => fault "too deep"
  | steps + 1 => do
      let t ← next steps skipsLines false
      let isIt :=
        match t with
        | .operator name => name == wanted
        | t => t.isReserved wanted
      if isIt then pure () else unexpected t true (some ("\"" ++ wanted ++ "\""))
  termination_by structural steps

def readCommand (steps : Nat) : Reader Command :=
  match steps with
  | 0 => fault "too deep"
  | steps + 1 => do
      let line := (← get).line
      let t ← next steps false true
      match t with
      | .operator "(" =>
          let _ ← next steps false false
          let body ← readList steps false false
          expect steps false ")"
          return .subshell line body (← readRedirects steps)
      | .redirect _ _ => readSimple steps line [] [] []
      | .word w _ =>
          match (w.plain?).map String.ofList with
          | some "if" =>
              let _ ← next steps false false
              let body ← readBranches steps
              withRedirects line body (← readRedirects steps)
          | some "while" =>
              let _ ← next steps false false
              let body ← readLoop steps false
              withRedirects line body (← readRedirects steps)
          | some "until" =>
              let _ ← next steps false false
              let body ← readLoop steps true
              withRedirects line body (← readRedirects steps)
          | some "for" =>
              let _ ← next steps false false
              let body ← readFor steps line
              withRedirects line body (← readRedirects steps)
          | some "case" =>
              let _ ← next steps false false
              let body ← readCase steps line
              withRedirects line body (← readRedirects steps)
          | some "\x7b" =>
              let _ ← next steps false false
              let body ← readList steps false false
              expect steps false "\x7d"
              withRedirects line body (← readRedirects steps)
          | some s =>
              if reserved.contains s then unexpected t true none
              else readSimple steps line [] [] []
          | none => readSimple steps line [] [] []
      | t => unexpected t true none
  termination_by structural steps
where
  withRedirects (line : Nat) (body : Command) (redirects : List Redirect) : Reader Command :=
    return if redirects.isEmpty then body else .redirected line body redirects

/-- Reads what follows the first word of a condition, or of a further one. -/
def readBranches (steps : Nat) : Reader Command :=
  match steps with
  | 0 => fault "too deep"
  | steps + 1 => do
      let test ← readList steps false false
      expect steps false "then"
      let ifTrue ← readList steps false false
      let t ← next steps false true
      if t.isReserved "elif" then
        let _ ← next steps false false
        return .branch test ifTrue (← readBranches steps)
      else if t.isReserved "else" then
        let _ ← next steps false false
        let ifFalse ← readList steps false false
        expect steps false "fi"
        return .branch test ifTrue ifFalse
      else
        expect steps false "fi"
        return .branch test ifTrue .skip
  termination_by structural steps

def readLoop (steps : Nat) (isUntil : Bool) : Reader Command :=
  match steps with
  | 0 => fault "too deep"
  | steps + 1 => do
      let test ← readList steps false false
      expect steps false "do"
      let body ← readList steps false false
      expect steps false "done"
      return .loop isUntil test body
  termination_by structural steps

/-- Reads words up to a token that is none. -/
def readWords (steps : Nat) : Reader (List Word) :=
  match steps with
  | 0 => fault "too deep"
  | steps + 1 => do
      match ← next steps false true with
      | .word w _ =>
          let _ ← next steps false false
          return w :: (← readWords steps)
      | _ => return []
  termination_by structural steps

def readFor (steps : Nat) (line : Nat) : Reader Command :=
  match steps with
  | 0 => fault "too deep"
  | steps + 1 => do
      match ← next steps false false with
      | .word w _ =>
          match w.plain? with
          | some name =>
              if Bytes.isName name then
                let t ← next steps true true
                if t.isReserved "in" then
                  let _ ← next steps false false
                  let words ← readWords steps
                  match ← next steps false false with
                  | .newline => readForBody steps line name (some words)
                  | .operator ";" => readForBody steps line name (some words)
                  | t => unexpected t false none
                else
                  match t with
                  | .operator ";" =>
                      let _ ← next steps false false
                      readForBody steps line name none
                  | _ => readForBody steps line name none
              else fault "Bad for loop variable"
          | none => fault "Bad for loop variable"
      | _ => fault "Bad for loop variable"
  termination_by structural steps

def readForBody (steps : Nat) (line : Nat) (name : Bytes) (words : Option (List Word)) :
    Reader Command :=
  match steps with
  | 0 => fault "too deep"
  | steps + 1 => do
      expect steps true "do"
      let body ← readList steps false false
      expect steps false "done"
      return .each line name words body
  termination_by structural steps

def readCase (steps : Nat) (line : Nat) : Reader Command :=
  match steps with
  | 0 => fault "too deep"
  | steps + 1 => do
      match ← next steps false false with
      | .word w _ =>
          expect steps true "in"
          return .choose line w (← readCases steps)
      | t => unexpected t false (some "word")
  termination_by structural steps

/-- Reads the cases up to the word that ends them. -/
def readCases (steps : Nat) : Reader (List (List Word × Command)) :=
  match steps with
  | 0 => fault "too deep"
  | steps + 1 => do
      let t ← next steps true false
      if t.isReserved "esac" then return []
      else
        let t ←
          match t with
          | .operator "(" => next steps false false
          | t => pure t
        let patterns ← readPatterns steps t
        let body ← readList steps false true
        match ← next steps true false with
        | .operator ";;" => return (patterns, body) :: (← readCases steps)
        | t =>
            if t.isReserved "esac" then return [(patterns, body)]
            else unexpected t true (some "\";;\"")
  termination_by structural steps

/-- Reads the patterns of a case, from its first token on. -/
def readPatterns (steps : Nat) (t : Token) : Reader (List Word) :=
  match steps with
  | 0 => fault "too deep"
  | steps + 1 => do
      match t with
      | .word w _ =>
          match ← next steps false false with
          | .operator "|" =>
              let t ← next steps false false
              return w :: (← readPatterns steps t)
          | .operator ")" => return [w]
          | t => unexpected t false (some "\")\"")
      | .endOfText => unexpected t false (some "\")\"")
      | t => unexpected t false none
  termination_by structural steps

/-- Reads a simple command, of which some has been read. What has been read comes last first. -/
def readSimple (steps : Nat) (line : Nat) (assignments : List (Bytes × Word)) (words : List Word)
    (redirects : List Redirect) : Reader Command :=
  match steps with
  | 0 => fault "too deep"
  | steps + 1 => do
      let t ← next steps false true
      match t with
      | .word w _ =>
          let _ ← next steps false false
          match words, w.assignment? with
          | [], some a => readSimple steps line (a :: assignments) [] redirects
          | words, _ => readSimple steps line assignments (w :: words) redirects
      | .redirect d name =>
          let _ ← next steps false false
          let r ← readRedirect steps d name
          readSimple steps line assignments words (r :: redirects)
      | .operator "(" =>
          match words, assignments, redirects with
          | [w], [], [] =>
              let _ ← next steps false false
              match ← next steps false false with
              | .operator ")" =>
                  match w.plain? with
                  | some name =>
                      if Bytes.isName name then
                        let _ ← next steps true true
                        return .define name (← readCommand steps)
                      else fault "Bad function name"
                  | none => fault "Bad function name"
              | t => unexpected t false (some "\")\"")
          | _, _, _ =>
              return .simple line assignments.reverse words.reverse redirects.reverse
      | _ => return .simple line assignments.reverse words.reverse redirects.reverse
  termination_by structural steps

end

/-- How many steps are enough for a text. -/
def stepsFor (text : Bytes) : Nat := 16 * text.length + 1000

/-- A text to be read, its first line having a number. -/
def start (text : Bytes) (line nextDocument : Nat) : ReaderState :=
  ⟨text, line, none, [], [], nextDocument⟩

/-- The next complete command, if the text has not come to its end. -/
def nextCommand (s : ReaderState) : Except SyntaxFault (Option Command × ReaderState) :=
  let steps := stepsFor s.rest
  let read : Reader (Option Command) := do
    match ← next steps false true with
    | .endOfText => return none
    | _ => return some (← readList steps true false)
  read.run s

/-- Was the end of the text met right after the last command? -/
def isAtEnd (s : ReaderState) : Bool :=
  match s.peeked with
  | some .endOfText => true
  | _ => false

end Reader

end Playground.Shell
