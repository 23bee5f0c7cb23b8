import Playground.Text.Class

set_option autoImplicit false

/-! # Languages

The languages that a snippet can be in, the names they go by, and the result of guessing one.
There are two sets of names: **tags**, which people write and which are read leniently, and the
one canonical **name**, which is what is written on the wire and read back only as it stands. -/

namespace Playground

open Text

inductive Language where
  | python
  | java
  | cpp
  deriving DecidableEq, Repr

namespace Language

/-- All languages, in the order in which their vocabularies are consulted. -/
def all : List Language := [.python, .java, .cpp]

theorem mem_all (l : Language) : l ∈ all := by cases l <;> decide

def name : Language → String
  | .python => "python"
  | .java => "java"
  | .cpp => "cpp"

/-- The spellings a tag may have, once trimmed and in lower case. -/
def tags : Language → List String
  | .python => ["python", "py"]
  | .java => ["java"]
  | .cpp => ["cpp", "c++"]

/-- The language with this canonical name. -/
def ofName? (name : String) : Option Language := all.find? fun l => l.name == name

/-- The language a tag stands for. Blanks around a tag and the case of its ASCII letters do not
    matter. -/
def ofTag? (tag : String) : Option Language :=
  let spelling := String.ofList (lower (trim tag.toList))
  all.find? fun l => l.tags.contains spelling

theorem ofName?_name (l : Language) : ofName? l.name = some l := by cases l <;> decide

end Language

/-! ## Guessing -/

/-- What a look at a source says about its language. -/
inductive Detection where
  | found (language : Language)
  | undetected
  deriving DecidableEq, Repr

namespace Detection

def all : List Detection := Language.all.map .found ++ [.undetected]

def name : Detection → String
  | .found l => l.name
  | .undetected => "undetected"

def language? : Detection → Option Language
  | .found l => some l
  | .undetected => none

/-- The detection with this name. -/
def ofName? (name : String) : Option Detection := all.find? fun d => d.name == name

theorem ofName?_name (d : Detection) : ofName? d.name = some d := by
  cases d with
  | found l => cases l <;> decide
  | undetected => decide

end Detection

end Playground
