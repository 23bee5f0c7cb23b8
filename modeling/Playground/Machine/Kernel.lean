import Playground.Machine.State
import Playground.Text.Utf8

set_option autoImplicit false

/-! # How calls are served

A call is served at once, or it has to wait: for something to read, for room to write, for a child
to end, for a time to come. The machine goes in rounds. In each round every process that is ready
makes one call; a process whose call has to wait tries again in the next round. -/

namespace Playground.Machine

/-- What programs do, by the name under which they are installed. -/
structure Software where
  run : String → List (List UInt8) → List (List UInt8 × List UInt8) → Option (Script Nat)

namespace State

/-! ## Times, in microseconds -/

/-- One round. -/
def roundTime : Nat := 4

/-- What it takes until a copy of a process runs. -/
def forkTime : Nat := 200

/-- What it takes until a program has been loaded. -/
def loadTime : Nat := 500

/-- How many octets are moved in a microsecond. -/
def transferRate : Nat := 4

/-- What it takes to carry a call out, beyond the round it is made in. -/
def costOf : (c : Call) → c.Reply → Nat
  | .read _ _, .ok octets => octets.length / transferRate
  | .write _ _, .ok n => n / transferRate
  | _, _ => 0

/-! ## Paths -/

def pathOf (l : Location) : String :=
  match l with
  | [] => "/"
  | names => String.join (names.map fun name => "/" ++ name)

/-- The descriptor that a path stands for. -/
def descriptorOfPath? (path : String) : Option Nat :=
  match path with
  | "/dev/stdin" => some 0
  | "/dev/stdout" => some 1
  | "/dev/stderr" => some 2
  | path =>
      match Path.names path with
      | ["dev", "fd", n] => n.toNat?
      | ["proc", "self", "fd", n] => n.toNat?
      | _ => none

/-! ## Opening -/

/-- Gives a process a descriptor for a new description. -/
def install (m : State) (p : Process) (d : Description) : State × Nat :=
  let (id, m) := m.describe d
  let number := p.freeDescriptor 0
  (m.setProcess (p.setDescriptor ⟨number, id, false⟩), number)

/-- What an existing node is opened as. -/
def objectOf (l : Location) (n : Node) (access : Access) : Object :=
  match n.entry with
  | .directory => .directory l
  | .device d => .device d
  | _ => .file l access

/-- Opens what is there. -/
def openExisting (m : State) (p : Process) (path : String) (access : Access) :
    Except HostError (State × Object) :=
  match m.files.find p.directory path true with
  | .error e => .error e
  | .ok (l, n) =>
      match n.entry, access with
      | .directory, .read => .ok (m, .directory l)
      | .directory, _ => .error .isADirectory
      | _, .create => .error .alreadyExists
      | _, .overwrite => .ok ({ m with files := m.files.setContents l [] }, objectOf l n access)
      | _, access => .ok (m, objectOf l n access)

/-- Opens a file, and makes it if that is wanted and it is not there. -/
def openObject (m : State) (p : Process) (path : String) (access : Access) (mode : Nat) :
    Except HostError (State × Object) :=
  if path = "/dev/tty" then .error .noDevice
  else
    match m.openExisting p path access, access with
    | .error .notFound, .read => .error .notFound
    | .error .notFound, access =>
        match m.files.openFile p.directory path (mode &&& (0o7777 ^^^ p.mask)) with
        | .error e => .error e
        | .ok (l, files) => .ok ({ m with files := files }, .file l access)
    | result, _ => result

def serveOpen (m : State) (p : Process) (path : String) (access : Access) (mode : Nat) :
    State × Except HostError Nat :=
  match descriptorOfPath? path with
  | some number =>
      match p.description? number with
      | none => (m, .error .notFound)
      | some id =>
          let free := p.freeDescriptor 0
          (m.setProcess (p.setDescriptor ⟨free, id, false⟩), .ok free)
  | none =>
      match m.openObject p path access mode with
      | .error e => (m, .error e)
      | .ok (m, object) =>
          let (m, number) := m.install p ⟨object, 0⟩
          (m, .ok number)

/-! ## Reading and writing -/

def contentsAt (m : State) (l : Location) : List UInt8 :=
  match m.files.node? l with
  | some ⟨.file contents, _⟩ => contents
  | _ => []

/-- Contents with other octets from an offset on. A gap before the offset is filled with zeros. -/
def overwrite (contents octets : List UInt8) (offset : Nat) : List UInt8 :=
  contents.take offset ++ List.replicate (offset - contents.length) 0 ++ octets ++
    contents.drop (offset + octets.length)

def serveRead (m : State) (p : Process) (number count : Nat) :
    Option (State × Except HostError (List UInt8)) :=
  match m.description? p number with
  | none => some (m, .error .badDescriptor)
  | some (id, d) =>
      match d.object with
      | .readEnd pipe =>
          match (m.pipe pipe).held with
          | [] => if m.hasWriter pipe then none else some (m, .ok [])
          | _ :: _ =>
              let (octets, rest) := (m.pipe pipe).pull count
              some (m.setPipe pipe rest, .ok octets)
      | .writeEnd _ => some (m, .error .badDescriptor)
      | .file l access =>
          if access = .read ∨ access = .update then
            let octets := ((m.contentsAt l).drop d.offset).take count
            some (m.setDescription id { d with offset := d.offset + octets.length }, .ok octets)
          else some (m, .error .badDescriptor)
      | .directory _ => some (m, .error .isADirectory)
      | .device .null => some (m, .ok [])
      | .device _ => some (m, .ok (List.replicate count 0))

def serveWrite (m : State) (p : Process) (number : Nat) (octets : List UInt8) :
    Option (State × Except HostError Nat) :=
  match m.description? p number with
  | none => some (m, .error .badDescriptor)
  | some (id, d) =>
      match d.object with
      | .readEnd _ => some (m, .error .badDescriptor)
      | .writeEnd pipe =>
          if m.hasReader pipe then
            let n := (m.pipe pipe).accepts octets
            if n = 0 ∧ octets ≠ [] then none
            else some (m.setPipe pipe ((m.pipe pipe).push (octets.take n)), .ok n)
          else
            let processes := m.processes.signal (fun q => q.id == p.id) Signal.brokenPipe
            some ({ m with processes := processes }, .error .brokenPipe)
      | .file l access =>
          if access = .read then some (m, .error .badDescriptor)
          else
            let contents := m.contentsAt l
            let offset := if access = .append then contents.length else d.offset
            let files := m.files.setContents l (overwrite contents octets offset)
            let m : State := { m with files := files }
            some (m.setDescription id { d with offset := offset + octets.length },
              .ok octets.length)
      | .directory _ => some (m, .error .isADirectory)
      | .device .full => some (m, .error .noSpace)
      | .device _ => some (m, .ok octets.length)

/-! ## Children -/

def serveWait (m : State) (p : Process) (target : Option Nat) (blocks : Bool) :
    Option (State × Except HostError Waited) :=
  let candidates := (m.processes.children p.id).filter fun q =>
    match target with
    | some id => q.id == id
    | none => true
  match candidates, candidates.find? fun q => !q.isRunning with
  | [], _ => some (m, .error .noChildren)
  | _, some q =>
      match q.status? with
      | some status =>
          some ({ m with processes := m.processes.reap q.id }, .ok (.ended q.id status))
      | none => none
  | _, none =>
      if blocks = false then some (m, .ok .nothing)
      else if p.pending ≠ [] then some (m, .ok .interrupted)
      else none

def serveSignal (m : State) (p : Process) (target : Target) (s : Signal) :
    State × Except HostError Unit :=
  if m.processes.any fun q => q.isMeantBy p target then
    let processes := m.processes.signal (fun q => q.isMeantBy p target) s
    (({ m with processes := processes } : State).tidy, .ok ())
  else (m, .error .noSuchProcess)

/-! ## The other calls -/

/-- The machine with other files, if making them has not failed. -/
def withFiles (m : State) (files : Except HostError FileSystem) :
    State × Except HostError Unit :=
  match files with
  | .ok files => ({ m with files := files }, .ok ())
  | .error e => (m, .error e)

def serveDirectory (m : State) (p : Process) : Except HostError String :=
  if m.files.isDirectoryAt p.directory then .ok (pathOf p.directory) else .error .notFound

def serveChangeDirectory (m : State) (p : Process) (path : String) :
    State × Except HostError Unit :=
  match m.files.find p.directory path true with
  | .error e => (m, .error e)
  | .ok (l, ⟨.directory, _⟩) => (m.setProcess { p with directory := l }, .ok ())
  | .ok _ => (m, .error .notADirectory)

/-- Is the path that of the directory a process is in, which has been removed? Programs may still
    look at that directory. -/
def isRemovedHere (m : State) (p : Process) (path : String) : Bool :=
  !Path.isAbsolute path && !(Path.names path).isEmpty && (Path.names path).all (· == ".") &&
    !m.files.isDirectoryAt p.directory

def serveList (m : State) (p : Process) (path : String) : Except HostError (List String) :=
  if m.isRemovedHere p path then .ok [] else m.files.list p.directory path

def serveStatus (m : State) (p : Process) (path : String) (follow : Bool) :
    Except HostError Status :=
  match descriptorOfPath? path with
  | some number =>
      match m.description? p number with
      | some (_, d) =>
          match d.object with
          | .file l _ => .ok ⟨l, ⟨.file (m.contentsAt l), 0o644⟩⟩
          | .directory l => .ok ⟨l, ⟨.directory, 0o755⟩⟩
          | .device d => .ok ⟨[], ⟨.device d, 0o666⟩⟩
          | _ => .ok ⟨[], ⟨.pipe, 0o600⟩⟩
      | none => .error .notFound
  | none =>
      if m.isRemovedHere p path then .ok ⟨p.directory, ⟨.directory, 0o755⟩⟩
      else
        match m.files.find p.directory path follow with
        | .ok (l, n) => .ok ⟨l, n⟩
        | .error e => .error e

def serveReadLink (m : State) (p : Process) (path : String) : Except HostError String :=
  match m.files.find p.directory path false with
  | .ok (_, ⟨.link target, _⟩) => .ok target
  | .ok _ => .error .invalidArgument
  | .error e => .error e

/-- Makes a file with the same contents as another. -/
def serveCopyLink (m : State) (p : Process) (source path : String) :
    State × Except HostError Unit :=
  match m.files.find p.directory source false with
  | .error e => (m, .error e)
  | .ok (_, ⟨.directory, _⟩) => (m, .error .notPermitted)
  | .ok (_, n) => m.withFiles (m.files.make p.directory path n)

/-- Serves a call, unless it has to wait. -/
def serve (m : State) (p : Process) : (c : Call) → Option (State × c.Reply)
  | .yield => some (m.setProcess { p with pending := [] }, p.pending)
  | .read number count => m.serveRead p number count
  | .write number octets => m.serveWrite p number octets
  | .openAt path access mode => some (m.serveOpen p path access mode)
  | .duplicate number target =>
      match p.description? number with
      | none => some (m, .error .badDescriptor)
      | some id =>
          if number = target then some (m, .ok ())
          else some ((m.setProcess (p.setDescriptor ⟨target, id, false⟩)).tidy, .ok ())
  | .save number bound =>
      match p.description? number with
      | none => some (m, .error .badDescriptor)
      | some id =>
          let free := p.freeDescriptor bound
          some (m.setProcess (p.setDescriptor ⟨free, id, true⟩), .ok free)
  | .close number =>
      if (p.description? number).isSome then
        some ((m.setProcess (p.dropDescriptor number)).tidy, .ok ())
      else some (m, .error .badDescriptor)
  | .makePipe =>
      let (pipe, m) := m.newPipe Pipe.defaultCapacity
      let (m, reads) := m.install p ⟨.readEnd pipe, 0⟩
      let p := (m.processes.find? p.id).getD p
      let (m, writes) := m.install p ⟨.writeEnd pipe, 0⟩
      some (m, (reads, writes))
  | .fork => none
  | .exec _ _ _ => none
  | .exit _ => none
  | .wait target blocks => m.serveWait p target blocks
  | .signal target s => some (m.serveSignal p target s)
  | .dispose s d => some (m.setProcess (p.dispose s d), ())
  | .disposition s => some (m, p.disposition s)
  | .identity => some (m, p.identity)
  | .newSession =>
      if p.group = p.id then some (m, .error .notPermitted)
      else some (m.setProcess p.newSession, .ok ())
  | .newGroup => some (m.setProcess p.newGroup, ())
  | .sleep _ => none
  | .clock => some (m, m.now)
  | .directory => some (m, m.serveDirectory p)
  | .changeDirectory path => some (m.serveChangeDirectory p path)
  | .mask newMask => some (m.setProcess { p with mask := newMask.getD p.mask }, p.mask)
  | .status path follow => some (m, m.serveStatus p path follow)
  | .readLink path => some (m, m.serveReadLink p path)
  | .list path => some (m, m.serveList p path)
  | .makeDirectory path mode =>
      some (m.withFiles (m.files.makeDirectory p.directory path (mode &&& (0o7777 ^^^ p.mask))))
  | .makeLink target path => some (m.withFiles (m.files.makeLink p.directory target path))
  | .copyLink source path => some (m.serveCopyLink p source path)
  | .unlink path => some (m.withFiles (m.files.unlink p.directory path))
  | .removeDirectory path => some (m.withFiles (m.files.removeDirectory p.directory path))
  | .rename source target => some (m.withFiles (m.files.rename p.directory source target))
  | .setMode path mode => some (m.withFiles (m.files.setMode p.directory path mode))
  | .processes => some (m, m.processes.map Process.listing)

/-! ## Programs -/

/-- The first octets of an installed program; its name follows. -/
def programMark : List UInt8 := [0x7f, 0x45, 0x4c, 0x46]

/-- The largest single argument, with the octet that ends it. -/
def maxArgumentSize : Nat := 131072

/-- The largest sum of all arguments and all of the environment. -/
def maxArgumentsSize : Nat := 2097152

def fitsArguments (arguments : List (List UInt8)) : Bool :=
  arguments.all (fun a => a.length < maxArgumentSize) &&
    arguments.foldl (fun n a => n + a.length + 9) 0 < maxArgumentsSize

def isBlankOctet (o : UInt8) : Bool := o == 32 || o == 9

def trimOctets (octets : List UInt8) : List UInt8 :=
  (((octets.dropWhile isBlankOctet).reverse).dropWhile isBlankOctet).reverse

/-- The interpreter that a script names in its first line, and the one argument it may name. -/
def interpreterOf (contents : List UInt8) : List (List UInt8) :=
  let line := trimOctets ((contents.drop 2).takeWhile (· != 10))
  let name := line.takeWhile fun o => !isBlankOctet o
  let argument := trimOctets (line.drop name.length)
  if name.isEmpty then [] else if argument.isEmpty then [name] else [name, argument]

def textOf (octets : List UInt8) : String := String.ofList (Text.Utf8.decodeLossy octets)

/-- The installed program that a path leads to, through interpreters, and its arguments. -/
def load (m : State) (base : Location) (depth : Nat) (path : String)
    (arguments : List (List UInt8)) : Except HostError (String × List (List UInt8)) :=
  match m.files.find base path true with
  | .error e => .error e
  | .ok (_, ⟨.file contents, mode⟩) =>
      if mode &&& 0o111 = 0 then .error .permissionDenied
      else if programMark.isPrefixOf contents then
        .ok (textOf (contents.drop programMark.length), arguments)
      else if [0x23, 0x21].isPrefixOf contents then
        match depth, interpreterOf contents with
        | 0, _ => .error .tooManyLinks
        | _, [] => .error .notExecutable
        | depth + 1, interpreter =>
            m.load base depth (textOf (interpreter.headD []))
              (interpreter ++ path.toUTF8.toList :: arguments.drop 1)
      else .error .notExecutable
  | .ok _ => .error .permissionDenied

/-- Turns a process into another program. -/
def become (software : Software) (m : State) (p : Process) (path : String)
    (arguments : List (List UInt8)) (environment : List (List UInt8 × List UInt8)) :
    Except HostError State :=
  if fitsArguments arguments = false then .error .argumentsTooLong
  else
    match m.load p.directory 4 path arguments with
    | .error e => .error e
    | .ok (name, arguments) =>
        match software.run name arguments environment with
        | none => .error .notExecutable
        | some script =>
            .ok (m.setProcess { p with
              command := List.intercalate [32] arguments
              descriptors := p.descriptors.filter fun d => !d.isPrivate
              caught := []
              pending := []
              readyAt := m.now + loadTime
              life := .running script }).tidy

/-! ## Steps -/

/-- Goes on with the script of a process, unless the process has ended meanwhile. -/
def resume (m : State) (id : Nat) (script : Script Nat) : State :=
  match m.processes.find? id with
  | some p => if p.isRunning then m.setProcess { p with life := .running script } else m
  | none => m

/-- Lets a process wait for some time. -/
def delay (m : State) (id time : Nat) : State :=
  match m.processes.find? id with
  | some p => if time = 0 then m else m.setProcess { p with readyAt := m.now + time }
  | none => m

/-- Is a process able to make a call? -/
def isReady (m : State) (p : Process) : Bool :=
  p.isRunning && !p.isStopped && p.readyAt ≤ m.now

/-- A sleep begins, goes on or is over. -/
def stepSleep (m : State) (p : Process) (time : Nat) (next : Unit → Script Nat) :
    Option State :=
  match p.alarm with
  | none => some (m.setProcess { p with alarm := some (m.now + time) })
  | some alarm =>
      if alarm ≤ m.now ∨ p.pending ≠ [] then
        some (m.setProcess { p with alarm := none, life := .running (next ()) })
      else none

/-- What a ready process does in one round, unless it has to wait. -/
def step (software : Software) (m : State) (p : Process) : Option State :=
  match p.life with
  | .ended _ => none
  | .running (.done code) =>
      some ({ m with processes := m.processes.exit p.id code } : State).tidy
  | .running (.call (.exit code) _) =>
      some ({ m with processes := m.processes.exit p.id code } : State).tidy
  | .running (.call .fork next) =>
      let child := m.next
      let copy := p.fork child (m.now + forkTime) (next (0 : Nat))
      let m : State := { m with next := m.next + 1, processes := m.processes ++ [copy] }
      some (m.resume p.id (next (child : Nat)))
  | .running (.call (.exec path arguments environment) next) =>
      match become software m p path arguments environment with
      | .ok m => some m
      | .error e => some (m.resume p.id (next e))
  | .running (.call (.sleep time) next) => m.stepSleep p time next
  | .running (.call c next) =>
      match m.serve p c with
      | some (m, reply) => some ((m.resume p.id (next reply)).delay p.id (costOf c reply))
      | none => none

/-- Lets one process make its call. -/
def turn (software : Software) (m : State) (id : Nat) : Option State :=
  match m.processes.find? id with
  | some p => if m.isReady p then step software m p else none
  | none => none

/-- One turn for each of these processes, and whether anything has happened. -/
def turns (software : Software) (m : State) : List Nat → State × Bool
  | [] => (m, false)
  | id :: ids =>
      match turn software m id with
      | some m => ((turns software m ids).1, true)
      | none => turns software m ids

end State

end Playground.Machine
