import Playground.HostError
import Playground.Process.Session

set_option autoImplicit false

/-! # Plans

An execution needs the host: to find programs, to make and remove directories, to write files and
to start processes. A `Plan` says what it asks of the host and how it goes on with each reply, and
nothing about what the host does. So the same plan can be followed by any host, and what it may ask
for can be read off it, whatever the replies are. -/

namespace Playground

/-! ## What is asked -/

/-- A process to be started in a directory of its own, in a process group of its own. -/
structure Launch where
  /-- The path of the program. -/
  program : String
  arguments : List String
  /-- The directory it starts in, which is also its home. -/
  directory : String
  /-- What it is to read; without it there is nothing to read. -/
  input : Option String
  deriving DecidableEq, Repr

inductive Action where
  /-- Looks a program up and returns its path. -/
  | locate (program : String)
  /-- Draws an identifier that has not been drawn before. -/
  | drawId
  /-- Makes a directory with all that lead to it, unless it is there. -/
  | createTree (path : String)
  /-- Makes a directory that was not there, for the owner only. -/
  | createPrivate (path : String)
  | write (path contents : String)
  /-- Starts a process and watches it until it and its streams have ended, but no longer than
      this. -/
  | watch (launch : Launch) (limit : Duration)
  /-- Kills all processes of a group. -/
  | killGroup (group : Nat)
  /-- Kills one process. -/
  | killProcess (process : Nat)
  /-- Removes a directory with all that is in it, if it is there. -/
  | remove (path : String)
  deriving DecidableEq, Repr

def Action.Reply : Action → Type
  | .locate _ => Option String
  | .drawId => String
  | .createTree _ => Except HostError Unit
  | .createPrivate _ => Except HostError Unit
  | .write _ _ => Except HostError Unit
  | .watch _ _ => Except HostError Session
  | .killGroup _ => Unit
  | .killProcess _ => Unit
  | .remove _ => Unit

/-! ## Plans -/

inductive Plan (α : Type) where
  | done (a : α)
  | ask (action : Action) (next : action.Reply → Plan α)

namespace Plan

variable {α β : Type}

/-- The plan that asks one thing. -/
def request (action : Action) : Plan action.Reply := .ask action .done

/-- One plan after another. -/
def andThen : Plan α → (α → Plan β) → Plan β
  | .done a, f => f a
  | .ask action next, f => .ask action fun reply => (next reply).andThen f

instance : Monad Plan where
  pure := .done
  bind := andThen

@[simp] theorem pure_eq (a : α) : (pure a : Plan α) = .done a := rfl

@[simp] theorem done_bind (a : α) (f : α → Plan β) : (Plan.done a >>= f) = f a := rfl

@[simp] theorem ask_bind (action : Action) (next : action.Reply → Plan α) (f : α → Plan β) :
    (Plan.ask action next >>= f) = .ask action fun reply => next reply >>= f := rfl

/-! ## Failing -/

/-- Goes on with what a plan returned, unless it failed. -/
def onSuccess {ε : Type} (p : Plan (Except ε α)) (f : α → Plan (Except ε β)) :
    Plan (Except ε β) := do
  match ← p with
  | .ok a => f a
  | .error e => return .error e

/-! ## Following a plan -/

/-- One thing asked and what was replied. -/
structure Event where
  action : Action
  reply : action.Reply

/-- A host that may reply as it likes, having seen what was asked before. -/
abbrev Environment := (past : List Event) → (action : Action) → action.Reply

/-- Follows a plan: all that is asked and replied, in order, and what the plan returns. -/
def follow (host : Environment) (past : List Event) : Plan α → List Event × α
  | .done a => (past, a)
  | .ask action next =>
      let reply := host past action
      (next reply).follow host (past ++ [⟨action, reply⟩])

theorem follow_bind (host : Environment) (past : List Event) (p : Plan α) (f : α → Plan β) :
    (p >>= f).follow host past =
      (f (p.follow host past).2).follow host (p.follow host past).1 := by
  induction p generalizing past with
  | done a => rfl
  | ask action next ih => simp [follow, ih]

end Plan

end Playground
