import Playground.Machine.FileSystem
import Playground.Plan
import Playground.Text.Utf8

set_option autoImplicit false

/-! # What plans ask about files

Directories are made and removed and files are written at once, and the reply says what came of
it. -/

namespace Playground.Machine

/-- A path or name with a NUL in it is refused before anything is looked up. -/
def hasNul (s : String) : Bool := s.toList.any (· == Char.ofNat 0)

namespace FileSystem

/-- The reply to a change that is made or not made, and the files after it. -/
def settle (fs : FileSystem) (result : Except HostError FileSystem) :
    Except HostError Unit × FileSystem :=
  match result with
  | .ok fs => (.ok (), fs)
  | .error e => (.error e, fs)

/-- The reply to a change that a path was given for. -/
def guarded (fs : FileSystem) (path : String) (result : Except HostError Unit × FileSystem) :
    Except HostError Unit × FileSystem :=
  if hasNul path then (.error .nulInPath, fs) else result

/-- The files without a directory and all that is in it, if it can be removed. -/
def without (fs : FileSystem) (base : Location) (path : String) : FileSystem :=
  (fs.settle (fs.removeTree base path)).2

/-- The reply to what a plan asks about files, and the files after it. The other actions are not
    about files. -/
def perform (fs : FileSystem) (base : Location) :
    (action : Action) → Option (action.Reply × FileSystem)
  | .createTree path => some (fs.guarded path (fs.createTree base path 0o755))
  | .createPrivate path =>
      some (fs.guarded path (fs.settle (fs.makeDirectory base path 0o700)))
  | .write path contents =>
      some (fs.guarded path
        (fs.settle (fs.write base path (Text.Utf8.encode contents.toList) 0o644)))
  | .remove path => some ((), fs.without base path)
  | _ => none

end FileSystem

end Playground.Machine
