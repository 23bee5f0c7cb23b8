import Playground.Language
import Playground.Source.Idiom

set_option autoImplicit false

/-! # Vocabularies

What each language's sources are recognised by: keywords, operators, symbols and idioms. A token
that several vocabularies hold counts for the first of them in the order of `Language.all`, so
these tables say "typical of", not "legal in".

The table `Vocabulary.shared` holds what all languages have in common. It never counts for
anything; but its operators, like all others, are kept whole when a text is split into tokens. -/

namespace Playground.Source

open Playground.Text

structure Vocabulary where
  keywords : List (List Char)
  operators : List (List Char)
  symbols : List (List Char)
  idioms : List Idiom

namespace Vocabulary

/-- Is the text of a token one of the entries? -/
def knows (v : Vocabulary) (token : List Char) : Bool :=
  v.keywords.contains token || v.operators.contains token || v.symbols.contains token

/-- How often the idioms occur in a text, each counted for itself. -/
def countIdioms (v : Vocabulary) (text : List Char) : Nat :=
  v.idioms.foldl (fun n i => n + i.count text) 0

/-! ## The tables -/

def shared : Vocabulary where
  keywords := ["if", "else", "for", "while", "return", "break", "continue"].map String.toList
  operators :=
    ["+", "-", "*", "/", "%", "=", "==", "!=", "<", ">", "<=", ">=", "&&", "||", "+=", "-=", "*=",
      "/=", "%="].map String.toList
  symbols := ["(", ")", "\x7b", "\x7d", "[", "]", ";", ",", "."].map String.toList
  idioms := []

/-- The keywords that open a block whose header line ends in a colon. -/
def headerKeywords : List String :=
  ["if", "elif", "else", "for", "while", "try", "except", "finally", "with", "def", "class"]

/-- A whole line that assigns to a name, with no declared type and no terminator. -/
def bareAssignment : Idiom :=
  [[.lineStart] ++ indentation ++ [.one .wordStart, .many .word] ++ indentation ++
    [.one (.only '='), .many (.noneOf ['=', ';', '\x7b', '\x7d', '\n']), .lineEnd]]

/-- A whole line that opens with a block keyword and is closed by a colon. -/
def blockHeader : Idiom :=
  headerKeywords.map fun k =>
    [.lineStart] ++ indentation ++ spelled k ++
      [.wordEdge, .many (.noneOf ['\x7b', '\x7d', ';', '\n']), .one (.only ':')] ++ indentation ++
      [.lineEnd]

def python : Vocabulary where
  keywords :=
    ["def", "lambda", "class", "import", "from", "as", "try", "except", "finally", "with", "yield",
      "elif", "not", "in", "is", "and", "or", "nonlocal", "global", "True", "False", "None",
      "async", "await", "print"].map String.toList
  operators := ["**", ":=", "@"].map String.toList
  symbols := [":", "->"].map String.toList
  idioms := [bareAssignment, blockHeader]

/-- A call that prints to one of the two standard streams. -/
def systemPrint : Idiom :=
  ["out", "err"].flatMap fun stream =>
    ["println", "printf", "print"].map fun call =>
      [.wordEdge] ++ spelled "System." ++ spelled stream ++ spelled "." ++ spelled call ++
        [.wordEdge]

def publicClass : Idiom :=
  [spelled "final" ++ someBlanks, spelled "abstract" ++ someBlanks, []].map fun modifier =>
    [.wordEdge] ++ spelled "public" ++ someBlanks ++ modifier ++ spelled "class" ++ [.wordEdge]

def mainMethod : Idiom :=
  [[.wordEdge] ++ spelled "public" ++ someBlanks ++ spelled "static" ++ someBlanks ++
    spelled "void" ++ someBlanks ++ spelled "main" ++ anyBlanks ++ spelled "("]

def platformImport : Idiom :=
  ["javax.", "java."].map fun root =>
    [.wordEdge] ++ spelled "import" ++ someBlanks ++ spelled root

def java : Vocabulary where
  keywords :=
    ["public", "private", "protected", "static", "void", "main", "String", "class", "extends",
      "implements", "interface", "new", "this", "super", "throws", "try", "catch", "finally", "int",
      "boolean", "float", "double"].map String.toList
  operators := ["++", "--", "instanceof"].map String.toList
  symbols := ["@"].map String.toList
  idioms := [systemPrint, publicClass, mainMethod, platformImport]

/-- A name of the standard namespace. -/
def standardName : Idiom := [[.wordEdge] ++ spelled "std::" ++ someWord]

def headerInclusion : Idiom :=
  [spelled "#include" ++ anyBlanks ++ spelled "<" ++ [.one .headerPath, .many .headerPath] ++
    spelled ">"]

def mainFunction : Idiom :=
  [[.wordEdge] ++ spelled "int" ++ someBlanks ++ spelled "main" ++ anyBlanks ++ spelled "("]

def usingNamespace : Idiom :=
  [[.wordEdge] ++ spelled "using" ++ someBlanks ++ spelled "namespace" ++ someBlanks ++ someWord ++
    anyBlanks ++ spelled ";"]

def cpp : Vocabulary where
  keywords :=
    ["public", "private", "protected", "using", "namespace", "cout", "cin", "endl", "template",
      "typename", "constexpr", "auto", "decltype", "noexcept", "nullptr", "const_cast",
      "dynamic_cast", "reinterpret_cast", "static_cast", "virtual", "override", "friend",
      "operator", "inline", "mutable", "explicit", "typedef", "union", "goto",
      "wchar_t"].map String.toList
  operators := ["->", "::", "<<", ">>", ".*", "->*"].map String.toList
  symbols := ["#include", "#define", "#pragma"].map String.toList
  idioms := [standardName, headerInclusion, mainFunction, usingNamespace]

end Vocabulary

/-! ## Languages and their vocabularies -/

end Playground.Source

namespace Playground.Language

open Playground.Source

def vocabulary : Language → Vocabulary
  | .python => Vocabulary.python
  | .java => Vocabulary.java
  | .cpp => Vocabulary.cpp

/-- The language a token counts for: the first whose vocabulary has it. -/
def owner? (token : List Char) : Option Language := all.find? (·.vocabulary.knows token)

end Playground.Language

namespace Playground.Source

/-- Operators and symbols of several characters that do not open like an identifier. They are
    tokens of their own, even where a language at hand would split them. -/
def compounds : List (List Char) :=
  ((Language.all.map (·.vocabulary)) ++ [Vocabulary.shared]).flatMap fun v =>
    (v.operators ++ v.symbols).filter fun t =>
      decide (t.length > 1) && !t.head?.any fun c => c.isAlphanum || c == '_'

/-- Is one compound tried before another? Longer ones are, so that none is split where it could be
    whole; those of one length are in the order of their characters. -/
def isTriedBefore (s t : List Char) : Bool :=
  decide (t.length < s.length) ||
    (s.length == t.length && s.lex t fun c d => decide (c.toNat < d.toNat))

/-- Puts a compound among others when its turn is, unless it is there. -/
def insertInTurn (t : List Char) : List (List Char) → List (List Char)
  | [] => [t]
  | u :: us =>
      if isTriedBefore t u then t :: u :: us
      else if t == u then u :: us
      else u :: insertInTurn t us

/-- The compounds in the order in which they are tried. -/
def triedCompounds : List (List Char) := compounds.foldr insertInTurn []

/-- The compound that the text opens with: the first one that fits, which is the longest. -/
def longestCompound? (text : List Char) : Option (List Char) :=
  triedCompounds.find? (·.isPrefixOf text)

end Playground.Source
