import Playground.Machine.Owner
import Playground.Shell.Invocation
import Playground.Tool.Catalogue

set_option autoImplicit false

/-! # Installations

A machine as it is before anything has been done on it: the usual directories, the installed
programs, and a few files that are always there. -/

namespace Playground.Machine

namespace Installation

/-! ## Software -/

/-- The names under which the shell is installed. -/
def shellNames : List String := ["sh", "dash", "bash"]

def names : List String := shellNames ++ Tool.Catalogue.programs.map Prod.fst

def find? (name : String) : Option Program :=
  if shellNames.contains name then some Shell.program else Tool.Catalogue.find? name

/-- What installed programs do. -/
def software : Software where
  run name arguments environment :=
    (find? name).map fun program =>
      let words := arguments.map Bytes.ofOctets
      program
        { name := words.headD []
          arguments := words.drop 1
          environment := environment.map fun (name, value) =>
            (Bytes.ofOctets name, Bytes.ofOctets value) }

/-! ## Files -/

def directory (mode : Nat) : Node := ⟨.directory, mode⟩

def textFile (text : String) : Node := ⟨.file (Text.Utf8.encode text.toList), 0o644⟩

def device (d : Device) : Node := ⟨.device d, 0o666⟩

def link (target : String) : Node := ⟨.link target, 0o777⟩

/-- The file of an installed program. -/
def programFile (name : String) : Node :=
  ⟨.file (State.programMark ++ Text.Utf8.encode name.toList), 0o755⟩

def baseNodes : List (Location × Node) :=
  [([], directory 0o755), (["bin"], link "usr/bin"), (["sbin"], link "usr/sbin"),
    (["lib"], link "usr/lib"), (["boot"], directory 0o755), (["dev"], directory 0o755),
    (["dev", "null"], device .null), (["dev", "zero"], device .zero),
    (["dev", "full"], device .full),
    (["etc"], directory 0o755), (["etc", "passwd"], textFile "root:x:0:0:root:/root:/bin/sh\n"),
    (["etc", "group"], textFile "root:x:0:\n"), (["etc", "hostname"], textFile "localhost\n"),
    (["home"], directory 0o755), (["media"], directory 0o755), (["mnt"], directory 0o755),
    (["opt"], directory 0o755), (["proc"], directory 0o555), (["root"], directory 0o700),
    (["run"], directory 0o755), (["srv"], directory 0o755), (["sys"], directory 0o555),
    (["tmp"], directory 0o1777), (["usr"], directory 0o755), (["usr", "bin"], directory 0o755),
    (["usr", "lib"], directory 0o755), (["usr", "local"], directory 0o755),
    (["usr", "local", "bin"], directory 0o755), (["usr", "local", "sbin"], directory 0o755),
    (["usr", "sbin"], directory 0o755), (["usr", "share"], directory 0o755),
    (["var"], directory 0o755), (["var", "tmp"], directory 0o1777)]

def files : FileSystem where
  nodes := baseNodes ++ names.map fun name => (["usr", "bin", name], programFile name)
  closed := [(["proc"], .notFound), (["sys"], .notPermitted)]

def searchPath : List String :=
  ["/usr/local/sbin", "/usr/local/bin", "/usr/sbin", "/usr/bin", "/sbin", "/bin"]

/-! ## Machines -/

/-- The number of the first process that is started. -/
def firstProcess : Nat := 1000

/-- A machine on which nothing has been started. -/
def machine : State where
  now := 0
  files := files
  directory := []
  searchPath := searchPath
  processes := []
  descriptions := []
  pipes := []
  watches := []
  next := firstProcess
  drawn := 0

/-- The machine with a directory, and in it programs that are given as texts. -/
def withScratch (root : Location) (programs : List (String × String)) : State :=
  let place (l : Location) (n : Node) (fs : FileSystem) : FileSystem := fs.put l n
  let fs := place root (directory 0o700) files
  let fs := place (root ++ ["tools"]) (directory 0o755) fs
  let fs := programs.foldl (fun fs (name, text) =>
    place (root ++ ["tools", name]) ⟨.file (Text.Utf8.encode text.toList), 0o755⟩ fs) fs
  { machine with files := fs }

end Installation

end Playground.Machine
