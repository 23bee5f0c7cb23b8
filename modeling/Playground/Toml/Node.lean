set_option autoImplicit false

/-! # Tables of a TOML document

A document is a tree of tables. Which later lines may still add to a table depends on how it came to
be: by a header of its own, because a header named something below it, by dotted keys, as an element
of an array of tables, or as a value. The rules that follow from that are all in this module; the
text is read in `Toml.Read`. -/

namespace Playground.Toml

/-- How a table came to be. -/
inductive Origin where
  /-- It has a header of its own. -/
  | header
  /-- A header named something below it. -/
  | implied
  /-- A dotted key named something below it. -/
  | dotted
  deriving DecidableEq, Repr

inductive Node where
  | text (s : String)
  | integer (i : Int)
  | float
  | bool (b : Bool)
  | datetime
  | array (items : List Node)
  /-- A table given as a value, which nothing can be added to. -/
  | inline (members : List (String × Node))
  | table (origin : Origin) (members : List (String × Node))
  /-- An array of tables, the last one first. -/
  | tables (elements : List (List (String × Node)))
  deriving Repr

abbrev Members := List (String × Node)

namespace Members

def get? (ms : Members) (key : String) : Option Node := ms.lookup key

/-- Sets the node of a key, at the end if the key is new. -/
def set (ms : Members) (key : String) (n : Node) : Members :=
  if ms.any (·.1 == key) then ms.map fun m => if m.1 == key then (key, n) else m
  else ms ++ [(key, n)]

end Members

/-! ## Adding a key and its value

A dotted key goes through tables that dotted keys made. It may pass a table that a header implied,
but not end in one. -/

/-- Adds a value below a table that is known to be open to it; `isOpen` says whether the table may
    get the last part of the key. -/
def addKey (isOpen : Bool) (ms : Members) : List String → Node → Option Members
  | [], _ => none
  | [key], n =>
      if isOpen ∧ (ms.get? key).isNone then some (ms.set key n) else none
  | key :: k :: path, n =>
      match ms.get? key with
      | none => (addKey true [] (k :: path) n).map fun sub => ms.set key (.table .dotted sub)
      | some (.table .header _) => none
      | some (.table origin sub) =>
          (addKey (origin == .dotted) sub (k :: path) n).map fun sub =>
            ms.set key (.table origin sub)
      | some (.tables (last :: before)) =>
          (addKey false last (k :: path) n).map fun last => ms.set key (.tables (last :: before))
      | some _ => none

/-! ## Headers -/

/-- Changes the table at a path, making the tables on the way if they are not there. The path may go
    through the last element of an array of tables. -/
def within (f : Members → Option Members) (ms : Members) : List String → Option Members
  | [] => f ms
  | key :: path =>
      match ms.get? key with
      | none => (within f [] path).map fun sub => ms.set key (.table .implied sub)
      | some (.table origin sub) =>
          (within f sub path).map fun sub => ms.set key (.table origin sub)
      | some (.tables (last :: before)) =>
          (within f last path).map fun last => ms.set key (.tables (last :: before))
      | some _ => none

/-- Opens a table by its header. One that another header implied may still get its own. -/
def openTable (key : String) (ms : Members) : Option Members :=
  match ms.get? key with
  | none => some (ms.set key (.table .header []))
  | some (.table .implied sub) => some (ms.set key (.table .header sub))
  | some _ => none

/-- Opens one more element of an array of tables. -/
def openElement (key : String) (ms : Members) : Option Members :=
  match ms.get? key with
  | none => some (ms.set key (.tables [[]]))
  | some (.tables elements) => some (ms.set key (.tables ([] :: elements)))
  | some _ => none

end Playground.Toml
