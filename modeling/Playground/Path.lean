set_option autoImplicit false

/-! # Paths

A path is text: names between slashes. Joining looks at no file system; it only puts a slash where
one is missing. -/

namespace Playground.Path

def isAbsolute (path : String) : Bool := path.toList.head? == some '/'

/-- Does a name that follows this path need a slash before it? -/
def needsSlash (path : String) : Bool :=
  match path.toList.getLast? with
  | none => false
  | some c => c != '/'

/-- The path of a name inside a directory. A name that is itself an absolute path stands for
    itself. -/
def join (directory name : String) : String :=
  if isAbsolute name then name
  else if needsSlash directory then directory ++ "/" ++ name
  else directory ++ name

theorem join_of_isAbsolute {directory name : String} (h : isAbsolute name = true) :
    join directory name = name := by
  simp [join, h]

theorem join_empty_left (name : String) : join "" name = name := by
  unfold join
  split
  · rfl
  · simp [needsSlash]

/-! ## The names of a path -/

/-- The pieces of a text between slashes, from a piece that has begun on. -/
def splitFrom (piece : List Char) : List Char → List (List Char)
  | [] => [piece]
  | c :: cs => if c = '/' then piece :: splitFrom [] cs else splitFrom (piece ++ [c]) cs

/-- The names of a path, without the empty ones that repeated slashes leave. -/
def names (path : String) : List String :=
  ((splitFrom [] path.toList).filter fun piece => !piece.isEmpty).map String.ofList

/-- Does a path end in a slash, so that it can only be that of a directory? -/
def endsInSlash (path : String) : Bool := path.toList.getLast? == some '/'

/-- A path that begins with the directory it is looked up from, by name. -/
def startsHere (path : String) : Bool :=
  match path.toList with
  | '.' :: '/' :: _ => true
  | _ => false

/-- The parts a path is made of, the root and the directory it starts from included: `/`, `.` in
    front, and names. A `.` elsewhere is no part. -/
def parts (path : String) : List String :=
  let ns := names path
  if isAbsolute path then "/" :: ns.filter (· != ".")
  else
    match ns with
    | "." :: rest => "." :: rest.filter (· != ".")
    | ns => ns.filter (· != ".")

end Playground.Path
