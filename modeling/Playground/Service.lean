import Playground.Execution
import Playground.Request
import Playground.Source.Score

set_option autoImplicit false

/-! # The service

Requests arrive at any time; executions are bounded. A request whose language cannot be told is
answered at once. Every other one waits for a **slot**, first come first served, and its execution
holds the slot from then on until everything it started is gone. A caller may leave at any time:
while its request waits, the request leaves too; once it executes, the execution goes on and keeps
its slot to the end. An execution may also break down; what it has made is then removed before its
slot is free again. -/

namespace Playground

/-! ## Jobs -/

/-- Where a request is. -/
inductive Progress where
  | waiting (language : Language)
  /-- It has a slot and is about to start. -/
  | granted (language : Language)
  /-- It executes; the paths are those of directories that it has made and not removed. -/
  | executing (plan : Plan Outcome) (owned : List String)
  | answered (outcome : Outcome)
  /-- Its caller left before it had started. -/
  | withdrawn

namespace Progress

/-- Does a request hold a slot? -/
def holdsSlot : Progress → Bool
  | .granted _ => true
  | .executing _ _ => true
  | _ => false

def isWaiting : Progress → Bool
  | .waiting _ => true
  | _ => false

/-- The directories that a request has made and not removed. -/
def owned : Progress → List String
  | .executing _ owned => owned
  | _ => []

def outcome? : Progress → Option Outcome
  | .answered outcome => some outcome
  | _ => none

end Progress

/-- A request, whether its caller is still there, and where it is. -/
structure Job where
  request : Request
  isAwaited : Bool
  progress : Progress

/-! ## Services -/

structure Service where
  settings : Settings
  /-- The slots that are free. -/
  slots : Nat
  /-- All requests in order of arrival; a request's place here is its ticket. -/
  jobs : List Job

namespace Service

/-- The most slots that the host can count. -/
def maxSlots : Nat := (1 <<< 61) - 1

/-- How starting a service ends. -/
inductive Start where
  | ready (service : Service)
  | refused (failure : Failure)
  /-- The settings are valid, and ask for more slots than can be counted. -/
  | aborted

def start (s : Settings) : Start :=
  match s.validate with
  | .error f => .refused f
  | .ok s => if s.maxConcurrent ≤ maxSlots then .ready ⟨s, s.maxConcurrent, []⟩ else .aborted

/-- The language to run a request in: the one it names, or else the one its code is in. -/
def languageOf (r : Request) : Detection :=
  match r.language with
  | some l => .found l
  | none => Source.detect r.code

/-- The answer to a request whose language cannot be told. -/
def undetected : Outcome := .ofFailure (.unsupportedLanguage Detection.undetected.name)

/-- The execution of a request, once its language is known. -/
def execution (s : Settings) (l : Language) (r : Request) : Plan Outcome := do
  return Outcome.ofExcept (← Execution.plan s l r.code r.input)

/-! ## Steps -/

/-- A request arrives. -/
def submit (v : Service) (r : Request) : Service :=
  let progress :=
    match languageOf r with
    | .found l => Progress.waiting l
    | .undetected => .answered undetected
  { v with jobs := v.jobs ++ [⟨r, true, progress⟩] }

/-- Replaces the job of a ticket. -/
def put (v : Service) (ticket : Nat) (job : Job) : Service :=
  { v with jobs := v.jobs.set ticket job }

/-- Gives a free slot to the request that has waited longest. -/
def grant (v : Service) : Service :=
  match v.slots, v.jobs.findIdx? fun job => job.progress.isWaiting with
  | slots + 1, some ticket =>
      match v.jobs[ticket]? with
      | some ⟨r, isAwaited, .waiting l⟩ =>
          { v with slots := slots, jobs := v.jobs.set ticket ⟨r, isAwaited, .granted l⟩ }
      | _ => v
  | _, _ => v

/-- A plan that has come to its end answers, and its slot is free. -/
def advance (v : Service) (ticket : Nat) (job : Job) (plan : Plan Outcome) (owned : List String) :
    Service :=
  match plan with
  | .done outcome =>
      { v with
        slots := v.slots + 1
        jobs := v.jobs.set ticket { job with progress := .answered outcome } }
  | plan => v.put ticket { job with progress := .executing plan owned }

/-- A request that has a slot starts to execute. -/
def begin (v : Service) (ticket : Nat) : Service :=
  match v.jobs[ticket]? with
  | some ⟨r, isAwaited, .granted l⟩ =>
      v.advance ticket ⟨r, isAwaited, .granted l⟩ (execution v.settings l r) []
  | _ => v

/-- What an execution owns after a reply. -/
def ownedAfter (owned : List String) : (action : Action) → action.Reply → List String
  | .createPrivate path, .ok _ => path :: owned
  | .remove path, _ => owned.filter (· != path)
  | _, _ => owned

/-- A host with a state of its own: its reply to an action, unless it needs more time. -/
abbrev Host (σ : Type) := (action : Action) → σ → Option action.Reply × σ

/-- The host is asked for what an execution wants. The execution goes on once there is a reply. -/
def proceed {σ : Type} (v : Service) (ticket : Nat) (host : Host σ) (s : σ) : Service × σ :=
  match v.jobs[ticket]? with
  | some ⟨r, isAwaited, .executing (.ask action next) owned⟩ =>
      match host action s with
      | (none, s) => (v, s)
      | (some answer, s) =>
          (v.advance ticket ⟨r, isAwaited, .executing (.ask action next) owned⟩ (next answer)
            (ownedAfter owned action answer), s)
  | _ => (v, s)

/-- The host replies to what an execution asked for. -/
def reply (v : Service) (ticket : Nat) (host : (action : Action) → action.Reply) : Service :=
  (v.proceed ticket (fun action () => (some (host action), ())) ()).1

/-- What an execution waits for the host to do. -/
def asked (v : Service) (ticket : Nat) : Option Action :=
  match v.jobs[ticket]? with
  | some ⟨_, _, .executing (.ask action _) _⟩ => some action
  | _ => none

/-- The caller of a request leaves. -/
def leave (v : Service) (ticket : Nat) : Service :=
  match v.jobs[ticket]? with
  | some ⟨r, _, .waiting _⟩ => v.put ticket ⟨r, false, .withdrawn⟩
  | some ⟨r, _, .granted _⟩ =>
      { v with slots := v.slots + 1, jobs := v.jobs.set ticket ⟨r, false, .withdrawn⟩ }
  | some job => v.put ticket { job with isAwaited := false }
  | none => v

/-- Removes directories one after the other, and then answers that the execution broke down. -/
def cleanUp (reason : String) : List String → Plan Outcome
  | [] => .done (.ofFailure (.system ("Execution task failed: " ++ reason)))
  | path :: paths => .ask (.remove path) fun _ => cleanUp reason paths

/-- An execution breaks down. -/
def breakDown (v : Service) (ticket : Nat) (reason : String) : Service :=
  match v.jobs[ticket]? with
  | some ⟨r, isAwaited, .executing plan owned⟩ =>
      v.advance ticket ⟨r, isAwaited, .executing plan owned⟩ (cleanUp reason owned) owned
  | _ => v

/-! ## What can be seen -/

def outcome? (v : Service) (ticket : Nat) : Option Outcome :=
  (v.jobs[ticket]?).bind fun job => job.progress.outcome?

/-- The tickets of the requests that hold a slot. -/
def holders (v : Service) : List Nat :=
  (List.range v.jobs.length).filter fun (ticket : Nat) =>
    match v.jobs[ticket]? with
    | some job => job.progress.holdsSlot
    | none => false

/-- Is nothing left to do for any request? -/
def isQuiet (v : Service) : Bool :=
  v.jobs.all fun job => !job.progress.holdsSlot && !job.progress.isWaiting

end Service

end Playground
