import Playground.Machine.FileAction
import Playground.Machine.Kernel
import Playground.Plan
import Playground.Service

set_option autoImplicit false

/-! # The owner of the machine

Plans are followed on the machine by its owner: actions on files happen at once, and a process that
is watched is started, fed and listened to until it and its streams have ended or its time is up.
Meanwhile the machine goes on with its rounds. When nobody can do anything, time passes until
somebody can. -/

namespace Playground.Machine

/-! ## Looking programs up -/

/-- The paths that a program may have for somebody in a directory. A name alone is looked for in the
    search path, and a longer one from the directory. -/
def candidates (here : Location) (searchPath : List String) (program : String) : List String :=
  if hasNul program then []
  else if 1 < (Path.parts program).length then [Path.join (State.pathOf here) program]
  else searchPath.map fun directory => Path.join directory program

/-- The first of them that may be started. -/
def FileSystem.locateProgram (fs : FileSystem) (here : Location) (searchPath : List String)
    (program : String) : Option String :=
  (candidates here searchPath program).find? fun path => fs.isExecutable here path

/-- No process is started with a NUL in what it is to be given. -/
def holdsNul (launch : Launch) : Bool :=
  hasNul launch.program || launch.arguments.any hasNul || hasNul launch.directory

namespace State

def locateProgram (m : State) (program : String) : Option String :=
  m.files.locateProgram m.directory m.searchPath program

/-! ## Identifiers -/

def hexDigits (width n : Nat) : String :=
  let digits := Nat.toDigits 16 n
  String.ofList (List.replicate (width - digits.length) '0' ++ digits)

/-- The identifier with a number, in five groups. -/
def identifier (n : Nat) : String :=
  "-".intercalate [hexDigits 8 (n * 2654435761 % (1 <<< 32)), hexDigits 4 (n * 40503 % (1 <<< 16)),
    "4" ++ hexDigits 3 (n % (1 <<< 12)), "8" ++ hexDigits 3 (n * 7 % (1 <<< 12)), hexDigits 12 n]

/-! ## Starting processes -/

/-- The number of the owner, as the parent of processes. -/
def ownerId : Nat := 0

def nullDevice : Description := ⟨.device .null, 0⟩

/-- A new process in a group of its own, with its three descriptors. -/
def newProcess (m : State) (directory : Location) (stdin stdout stderr : Nat) : Process where
  id := m.next
  parent := ownerId
  group := m.next
  session := ownerId
  command := []
  directory := directory
  mask := 0o022
  descriptors := [⟨0, stdin, false⟩, ⟨1, stdout, false⟩, ⟨2, stderr, false⟩]
  ignored := []
  caught := []
  pending := []
  isStopped := false
  readyAt := m.now
  alarm := none
  life := .ended (.exited 0)

def octetsOf (s : String) : List UInt8 := Text.Utf8.encode s.toList

def environmentOf (m : State) (home : String) : List (List UInt8 × List UInt8) :=
  [(octetsOf "PATH", octetsOf (":".intercalate m.searchPath)), (octetsOf "HOME", octetsOf home)]

/-- Becomes the program of a launch. A file that is no program is taken for a script of the
    shell. -/
def becomeLaunched (software : Software) (m : State) (p : Process) (launch : Launch) :
    Except HostError State :=
  let arguments := (launch.program :: launch.arguments).map octetsOf
  let environment := m.environmentOf launch.directory
  match become software m p launch.program arguments environment with
  | .error .notExecutable =>
      become software m p "/bin/sh" (octetsOf "/bin/sh" :: arguments) environment
  | result => result

/-- Starts a process that is watched for somebody. -/
def spawn (software : Software) (m : State) (owner : Nat) (launch : Launch) (limit : Duration) :
    Except HostError State :=
  if holdsNul launch then .error .nulInArgument
  else
    match m.files.find m.directory launch.directory true with
    | .error e => .error e
    | .ok (directory, ⟨.directory, _⟩) =>
        let (inPipe, m) := m.newPipe Pipe.defaultCapacity
        let (outPipe, m) := m.newPipe Pipe.defaultCapacity
        let (errPipe, m) := m.newPipe Pipe.defaultCapacity
        let stdin : Description := if launch.input.isSome then ⟨.readEnd inPipe, 0⟩ else nullDevice
        let (stdin, m) := m.describe stdin
        let (stdout, m) := m.describe ⟨.writeEnd outPipe, 0⟩
        let (stderr, m) := m.describe ⟨.writeEnd errPipe, 0⟩
        let p := m.newProcess directory stdin stdout stderr
        let watch : Watch :=
          { owner := owner
            process := p.id
            began := m.now
            deadline := m.now + limit.nanoseconds / 1000
            feed := if launch.input.isSome then some inPipe else none
            input := (launch.input.map octetsOf).getD []
            fed := if launch.input.isSome then none else some 0
            stdout := ⟨outPipe, [], none⟩
            stderr := ⟨errPipe, [], none⟩
            ended := none }
        let m : State :=
          { m with
            next := m.next + 1
            processes := m.processes ++ [p]
            watches := watch :: m.watches }
        becomeLaunched software m p launch
    | .ok _ => .error .notADirectory

/-! ## Watching -/

def elapsed (m : State) (w : Watch) : Nat := m.now - w.began

/-- Hands over as much of the input as fits. It is given up when nobody can read it. -/
def feed (m : State) (w : Watch) : State × Watch :=
  match w.feed with
  | none => (m, w)
  | some pipe =>
      if w.input = [] ∨ m.hasReader pipe = false then
        (m, { w with feed := none, input := [], fed := some (m.elapsed w) })
      else
        let n := min (m.pipe pipe).room w.input.length
        (m.setPipe pipe ((m.pipe pipe).push (w.input.take n)), { w with input := w.input.drop n })

/-- Takes what there is out of a stream, or notes that it has been closed. -/
def listen (m : State) (w : Watch) (t : Tap) : State × Tap :=
  match t.closed with
  | some _ => (m, t)
  | none =>
      let p := m.pipe t.pipe
      if p.held = [] then
        if m.hasWriter t.pipe then (m, t) else (m, { t with closed := some (m.elapsed w) })
      else
        let (octets, rest) := p.pullAll
        (m.setPipe t.pipe rest, { t with chunks := octets :: t.chunks })

/-- Notes that the process has ended. -/
def notice (m : State) (w : Watch) : State × Watch :=
  match w.ended, m.processes.find? w.process with
  | none, some p =>
      match p.status? with
      | some status =>
          ({ m with processes := m.processes.reap p.id },
            { w with ended := some (m.elapsed w, status) })
      | none => (m, w)
  | _, _ => (m, w)

/-- What the owner does for one watch in a round. -/
def attend (m : State) (w : Watch) : State :=
  let (m, w) := m.feed w
  let (m, out) := m.listen w w.stdout
  let (m, err) := m.listen w w.stderr
  let (m, w) := m.notice { w with stdout := out, stderr := err }
  { m with watches := m.watches.map fun v => if v.process == w.process then w else v }

def attendAll (m : State) : State := m.watches.foldl attend m

def Watch.isComplete (w : Watch) : Bool :=
  w.ended.isSome && w.stdout.closed.isSome && w.stderr.closed.isSome && w.fed.isSome

/-- Microseconds as nanoseconds. -/
def nanoseconds (time : Nat) : Nat := 1000 * time

def Tap.captured (t : Tap) : Captured :=
  ⟨(t.chunks.reverse).flatten, t.closed.map nanoseconds⟩

def Watch.session (w : Watch) : Session where
  process := w.process
  ended := w.ended.map fun (time, status) => (nanoseconds time, status)
  stdout := Tap.captured w.stdout
  stderr := Tap.captured w.stderr
  fed := w.fed.map nanoseconds
  fault := none

/-! ## Actions -/

def signalTo (m : State) (isMeant : Process → Bool) : State :=
  ({ m with processes := m.processes.signal isMeant Signal.kill } : State).tidy

/-- Starts a watch, or looks whether one has come to its end. -/
def performWatch (software : Software) (m : State) (owner : Nat) (launch : Launch)
    (limit : Duration) : Option (Except HostError Session) × State :=
  match m.watches.find? fun w => w.owner == owner with
  | none =>
      match m.spawn software owner launch limit with
      | .ok m => (none, m)
      | .error e => (some (.error e), m)
  | some w =>
      if Watch.isComplete w || w.deadline ≤ m.now then
        let watches := m.watches.filter fun v => v.owner != owner
        (some (.ok (Watch.session w)), ({ m with watches := watches } : State).tidy)
      else (none, m)

/-- The text of a file. -/
def readText (m : State) (path : String) : Except HostError String :=
  if hasNul path then .error .nulInPath
  else
    match m.files.read m.directory path with
    | .error e => .error e
    | .ok octets =>
        match Text.Utf8.decode? octets with
        | some text => .ok (String.ofList text)
        | none => .error .notText

/-- Does what somebody's plan asks for. -/
def perform (software : Software) (owner : Nat) : Service.Host State
  | .locate program, m => (some (m.locateProgram program), m)
  | .drawId, m => (some (identifier (m.drawn + 1)), { m with drawn := m.drawn + 1 })
  | .watch launch limit, m => m.performWatch software owner launch limit
  | .killGroup group, m => (some (), m.signalTo fun p => p.group == group)
  | .killProcess process, m =>
      let m := m.signalTo fun p => p.id == process
      (some (), { m with processes := m.processes.reap process })
  | action, m =>
      match m.files.perform m.directory action with
      | some (reply, files) => (some reply, { m with files := files })
      | none => (none, m)

/-! ## Time -/

/-- The times at which something may happen that cannot happen now. -/
def alarms (m : State) : List Nat :=
  (m.processes.flatMap fun p =>
    if p.isRunning && !p.isStopped then
      (if m.now < p.readyAt then [p.readyAt] else []) ++ p.alarm.toList
    else []) ++ m.watches.map Watch.deadline

/-- The time to go on at when nothing happens now, not after a given one. -/
def nextAlarm (m : State) (latest : Nat) : Nat :=
  (m.alarms.filter fun t => m.now < t).foldl min latest

/-- One round. When nothing has happened in it and no watch has come to its end, time passes until
    something can happen. -/
def advance (software : Software) (m : State) (latest : Nat) : State :=
  let m := m.attendAll
  match turns software m (m.processes.map Process.id) with
  | (m, hasMoved) =>
      let soon := m.now + roundTime
      if hasMoved || m.watches.any Watch.isComplete then { m with now := soon }
      else { m with now := max soon (m.nextAlarm latest) }

/-- Time passes. -/
def passTime (software : Software) (fuel : Nat) (m : State) (latest : Nat) : State :=
  match fuel with
  | 0 => m
  | fuel + 1 =>
      if latest ≤ m.now then m else passTime software fuel (m.advance software latest) latest

/-! ## Following plans -/

/-- A time that is never reached. -/
def never (m : State) : Nat := m.now + Nat.pow 10 12

/-- Follows a plan to its end. -/
def follow {α : Type} (software : Software) (fuel : Nat) (m : State) (plan : Plan α) :
    Option α × State :=
  match fuel, plan with
  | 0, _ => (none, m)
  | _, .done a => (some a, m)
  | fuel + 1, .ask action next =>
      match perform software ownerId action m with
      | (some reply, m) => follow software fuel m (next reply)
      | (none, m) => follow software fuel (m.advance software m.never) (.ask action next)

/-- Lets every execution of a service ask for one thing. -/
def proceedAll (software : Software) (v : Service) (m : State) (tickets : List Nat) :
    Service × State :=
  tickets.foldl (fun (v, m) ticket => v.proceed ticket (perform software ticket) m) (v, m)

/-- Gives free slots to those who wait, and starts them. -/
def giveSlots (v : Service) : Service :=
  let tickets := List.range v.jobs.length
  let v := tickets.foldl (fun v (_ : Nat) => v.grant) v
  tickets.foldl (fun v (ticket : Nat) => v.begin ticket) v

/-- Runs a service until nothing is left to do. -/
def serveAll (software : Software) (fuel : Nat) (v : Service) (m : State) : Service × State :=
  match fuel with
  | 0 => (v, m)
  | fuel + 1 =>
      if v.isQuiet then (v, m)
      else
        let v := giveSlots v
        let (v, m) := proceedAll software v m (List.range v.jobs.length)
        serveAll software fuel v (m.advance software m.never)

end State

end Playground.Machine
