import Playground.HostError
import Playground.Path

set_option autoImplicit false

/-! # File systems

A file system maps **locations** to nodes. A location is the list of names that leads from the root
to a node when no link is followed on the way, so each node has one location only. A path is looked
up from some location; on the way it may go up, and through links. -/

namespace Playground.Machine

/-- The names that lead from the root to a node. -/
abbrev Location := List String

inductive Device where
  | null
  | zero
  | full
  deriving DecidableEq, Repr

inductive Entry where
  | directory
  | file (contents : List UInt8)
  | link (target : String)
  | device (device : Device)
  /-- Only a descriptor leads to it. -/
  | pipe
  deriving DecidableEq, Repr

structure Node where
  entry : Entry
  /-- Who may do what, as nine bits and three more. -/
  mode : Nat
  deriving DecidableEq, Repr

structure FileSystem where
  nodes : List (Location × Node)
  /-- Directories in which nothing can be made, and what is said to who tries. -/
  closed : List (Location × HostError)
  deriving DecidableEq, Repr

namespace FileSystem

/-! ## Nodes -/

def node? (fs : FileSystem) (l : Location) : Option Node := fs.nodes.lookup l

def isDirectoryAt (fs : FileSystem) (l : Location) : Bool :=
  match fs.node? l with
  | some ⟨.directory, _⟩ => true
  | _ => false

/-- The file system with a node at a location, in place of the one that was there. -/
def put (fs : FileSystem) (l : Location) (n : Node) : FileSystem :=
  { fs with nodes := (l, n) :: fs.nodes.filter fun entry => entry.1 != l }

/-- The file system without the node at a location and all below it. -/
def cut (fs : FileSystem) (l : Location) : FileSystem :=
  { fs with nodes := fs.nodes.filter fun entry => !l.isPrefixOf entry.1 }

/-- The name of a node in a directory, if the node is in it. -/
def nameIn (directory l : Location) : Option String :=
  if l.dropLast == directory then l.getLast? else none

/-- The names in a directory, in no order. -/
def namesIn (fs : FileSystem) (directory : Location) : List String :=
  fs.nodes.filterMap fun entry => nameIn directory entry.1

/-! ## Looking paths up -/

/-- The most links that are followed on the way. -/
def maxLinks : Nat := 40

def maxNameSize : Nat := 255

def maxPathSize : Nat := 4095

/-- What is wrong with a location that should be that of a directory. -/
def directoryFault (fs : FileSystem) (l : Location) : Option HostError :=
  match fs.node? l with
  | some ⟨.directory, _⟩ => none
  | some _ => some .notADirectory
  | none => some .notFound

/-- The target of the link at a location, if there is a link. -/
def linkAt? (fs : FileSystem) (l : Location) : Option String :=
  match fs.node? l with
  | some ⟨.link target, _⟩ => some target
  | _ => none

/-- Where names lead from a location. All of them but the last must be those of directories; the
    last may be missing. A link in the last place is followed if that is wanted. -/
def walk (fs : FileSystem) (follow : Bool) (links : Nat) (here : Location) (names : List String) :
    Except HostError Location :=
  match names with
  | [] => .ok here
  | name :: rest =>
      match fs.directoryFault here with
      | some e => .error e
      | none =>
          if maxNameSize < name.utf8ByteSize then .error .nameTooLong
          else if name = "." then walk fs follow links here rest
          else if name = ".." then walk fs follow links here.dropLast rest
          else
            let there := here ++ [name]
            match fs.linkAt? there, rest with
            | none, [] => .ok there
            | none, rest => walk fs follow links there rest
            | some target, rest =>
                if rest = [] ∧ follow = false then .ok there
                else
                  match links with
                  | 0 => .error .tooManyLinks
                  | links + 1 =>
                      walk fs follow links (if Path.isAbsolute target then [] else here)
                        (Path.names target ++ rest)
  termination_by (links, names.length)

/-- The location that a path leads to from a directory. -/
def locate (fs : FileSystem) (base : Location) (path : String) (follow : Bool) :
    Except HostError Location :=
  if path = "" then .error .notFound
  else if maxPathSize < path.utf8ByteSize then .error .nameTooLong
  else
    let names := Path.names path ++ if Path.endsInSlash path then ["."] else []
    fs.walk follow maxLinks (if Path.isAbsolute path then [] else base) names

/-- The location at which a path would make a node, whether or not there is one. A slash at its end
    does not matter. -/
def locateNew (fs : FileSystem) (base : Location) (path : String) (follow : Bool) :
    Except HostError Location :=
  if path = "" then .error .notFound
  else if maxPathSize < path.utf8ByteSize then .error .nameTooLong
  else fs.walk follow maxLinks (if Path.isAbsolute path then [] else base) (Path.names path)

/-- The node that a path leads to, with its location. -/
def find (fs : FileSystem) (base : Location) (path : String) (follow : Bool) :
    Except HostError (Location × Node) :=
  match fs.locate base path follow with
  | .error e => .error e
  | .ok l =>
      match fs.node? l with
      | some n => .ok (l, n)
      | none => .error .notFound

def isDirectory (fs : FileSystem) (base : Location) (path : String) : Bool :=
  match fs.find base path true with
  | .ok (_, ⟨.directory, _⟩) => true
  | _ => false

/-- May the file be started as a program? -/
def isExecutable (fs : FileSystem) (base : Location) (path : String) : Bool :=
  match fs.find base path true with
  | .ok (_, ⟨.file _, mode⟩) => mode &&& 0o111 != 0
  | _ => false

/-- The contents of a file. -/
def read (fs : FileSystem) (base : Location) (path : String) : Except HostError (List UInt8) :=
  match fs.find base path true with
  | .error e => .error e
  | .ok (_, ⟨.file contents, _⟩) => .ok contents
  | .ok (_, ⟨.directory, _⟩) => .error .isADirectory
  | .ok _ => .ok []

/-- The names in a directory in order, if it is one. -/
def list (fs : FileSystem) (base : Location) (path : String) : Except HostError (List String) :=
  match fs.find base path true with
  | .error e => .error e
  | .ok (l, ⟨.directory, _⟩) => .ok ((fs.namesIn l).mergeSort fun a b => a ≤ b)
  | .ok _ => .error .notADirectory

/-! ## Making -/

/-- Why nothing can be made at a location. -/
def obstacle (fs : FileSystem) (l : Location) : Option HostError :=
  match fs.directoryFault l.dropLast with
  | some e => some e
  | none => (fs.closed.find? fun entry => entry.1.isPrefixOf l).map Prod.snd

/-- Makes a node where there is none. -/
def make (fs : FileSystem) (base : Location) (path : String) (n : Node) :
    Except HostError FileSystem :=
  match fs.locateNew base path false with
  | .error e => .error e
  | .ok l =>
      match fs.node? l, fs.obstacle l with
      | some _, _ => .error .alreadyExists
      | none, some e => .error e
      | none, none => .ok (fs.put l n)

def makeDirectory (fs : FileSystem) (base : Location) (path : String) (mode : Nat) :
    Except HostError FileSystem :=
  fs.make base path ⟨.directory, mode⟩

def makeLink (fs : FileSystem) (base : Location) (target path : String) :
    Except HostError FileSystem :=
  if target = "" then .error .notFound
  else if Path.endsInSlash path ∧ fs.isDirectory base path = false then .error .notFound
  else fs.make base path ⟨.link target, 0o777⟩

/-- A path and the ones of the directories that lead to it, the nearest first. -/
def ancestors (path : String) : List String :=
  let rec up : List String → List String
    | [] => []
    | part :: parts =>
        let rest := up parts
        match rest with
        | [] => [part]
        | parent :: _ => Path.join parent part :: rest
  match Path.parts path with
  | "/" :: names => path :: (up (names.reverse ++ ["/"])).drop 1
  | names => path :: (up names.reverse).drop 1 ++ [""]

/-- A directory could not be made. That is no failure if it is there. -/
def notMade (fs : FileSystem) (base : Location) (path : String) (e : HostError) :
    Except HostError Unit × FileSystem :=
  (if fs.isDirectory base path then .ok () else .error e, fs)

/-- Makes the first directory of a list after the others, unless it is there. What has been made
    stays, also if a later one cannot be made. -/
def makeTree (fs : FileSystem) (base : Location) (mode : Nat) :
    List String → Except HostError Unit × FileSystem
  | [] => (.error .notFound, fs)
  | path :: parents =>
      if path = "" then (.ok (), fs)
      else
        match fs.makeDirectory base path mode with
        | .ok fs => (.ok (), fs)
        | .error .notFound =>
            match makeTree fs base mode parents with
            | (.error e, fs) => (.error e, fs)
            | (.ok (), fs) =>
                match fs.makeDirectory base path mode with
                | .ok fs => (.ok (), fs)
                | .error e => fs.notMade base path e
        | .error e => fs.notMade base path e

/-- Makes a directory with all that lead to it, unless it is there. -/
def createTree (fs : FileSystem) (base : Location) (path : String) (mode : Nat) :
    Except HostError Unit × FileSystem :=
  fs.makeTree base mode (ancestors path)

/-! ## Files -/

/-- The location of a file that is to be written, and the file system with it. It is made if it is
    not there. -/
def openFile (fs : FileSystem) (base : Location) (path : String) (mode : Nat) :
    Except HostError (Location × FileSystem) :=
  match fs.locateNew base path true with
  | .error e => .error e
  | .ok l =>
      match fs.node? l with
      | some ⟨.directory, _⟩ => .error .isADirectory
      | some _ => if Path.endsInSlash path then .error .notADirectory else .ok (l, fs)
      | none =>
          match fs.obstacle l with
          | some e => .error e
          | none =>
              if Path.endsInSlash path then .error .isADirectory
              else .ok (l, fs.put l ⟨.file [], mode⟩)

/-- Gives the file at a location new contents. -/
def setContents (fs : FileSystem) (l : Location) (contents : List UInt8) : FileSystem :=
  match fs.node? l with
  | some ⟨.file _, mode⟩ => fs.put l ⟨.file contents, mode⟩
  | _ => fs

/-- Writes a whole file. -/
def write (fs : FileSystem) (base : Location) (path : String) (contents : List UInt8)
    (mode : Nat) : Except HostError FileSystem :=
  match fs.openFile base path mode with
  | .error e => .error e
  | .ok (l, fs) => .ok (fs.setContents l contents)

def setMode (fs : FileSystem) (base : Location) (path : String) (mode : Nat) :
    Except HostError FileSystem :=
  match fs.find base path true with
  | .error e => .error e
  | .ok (l, n) => .ok (fs.put l { n with mode := mode })

/-! ## Removing -/

/-- Removes a node that is no directory. -/
def unlink (fs : FileSystem) (base : Location) (path : String) : Except HostError FileSystem :=
  match fs.find base path false with
  | .error e => .error e
  | .ok (_, ⟨.directory, _⟩) => .error .isADirectory
  | .ok (l, _) => .ok (fs.cut l)

/-- Removes an empty directory. -/
def removeDirectory (fs : FileSystem) (base : Location) (path : String) :
    Except HostError FileSystem :=
  match (Path.names path).getLast? with
  | some "." => .error .invalidArgument
  | some ".." => .error .notEmpty
  | _ =>
      match fs.find base path false with
      | .error e => .error e
      | .ok (l, ⟨.directory, _⟩) =>
          if l = [] then .error .busy
          else if fs.namesIn l = [] then .ok (fs.cut l)
          else .error .notEmpty
      | .ok _ => .error .notADirectory

/-- Removes a directory and all that is in it. -/
def removeTree (fs : FileSystem) (base : Location) (path : String) :
    Except HostError FileSystem :=
  match fs.find base path false with
  | .error e => .error e
  | .ok (l, ⟨.directory, _⟩) => .ok (fs.cut l)
  | .ok (l, ⟨.link _, _⟩) => .ok (fs.cut l)
  | .ok _ => .error .notADirectory

/-! ## Moving -/

/-- A location below `source`, moved below `target`; others stay. -/
def moved (source target l : Location) : Location :=
  if source.isPrefixOf l then target ++ l.drop source.length else l

/-- May a node take the place of another one? -/
def replaceFault (fs : FileSystem) (target : Location) (n : Node) : Option HostError :=
  match n.entry, fs.node? target with
  | _, none => fs.obstacle target
  | .directory, some ⟨.directory, _⟩ => if fs.namesIn target = [] then none else some .notEmpty
  | .directory, some _ => some .notADirectory
  | _, some ⟨.directory, _⟩ => some .isADirectory
  | _, some _ => none

/-- Moves a node, with all below it, to another path. -/
def rename (fs : FileSystem) (base : Location) (source target : String) :
    Except HostError FileSystem :=
  match fs.find base source false, fs.locateNew base target false with
  | .error e, _ => .error e
  | _, .error e => .error e
  | .ok (s, n), .ok t =>
      if s = t then .ok fs
      else if s.isPrefixOf t then .error .invalidArgument
      else if Path.endsInSlash target ∧ n.entry ≠ .directory then .error .notADirectory
      else
        match fs.replaceFault t n with
        | some e => .error e
        | none =>
            let rest := fs.nodes.filter fun entry => !t.isPrefixOf entry.1
            .ok { fs with nodes := rest.map fun entry => (moved s t entry.1, entry.2) }

end FileSystem

end Playground.Machine
