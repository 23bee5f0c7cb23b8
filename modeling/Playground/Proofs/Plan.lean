import Playground.Plan

set_option autoImplicit false

/-! # What a plan can do

Two ways of speaking about a plan without naming a host.

`Plan.Runs p events a` says that `p` can be answered in such a way that exactly `events` happen and
`a` is returned. Every way of following a plan is one of these (`runs_follow`), so what holds of all
runs holds for all hosts. Runs come apart as plans are put together: a run of `p >>= f` is a run of
`p` and then a run of `f`.

`Plan.Keeps` is for statements about the middle of a plan, before it has returned: something that is
updated with each reply (`after`) stays as it should be (`inv`) all along, and is as `post` wants it
at the end. -/

namespace Playground.Plan

variable {α β ε σ : Type}

/-! ## Runs -/

inductive Runs : Plan α → List Event → α → Prop where
  | done (a : α) : Runs (.done a) [] a
  | ask {action : Action} {next : action.Reply → Plan α} {events : List Event} {a : α}
      (reply : action.Reply) (rest : Runs (next reply) events a) :
      Runs (.ask action next) (⟨action, reply⟩ :: events) a

theorem Runs.of_done {a b : α} {events : List Event} (h : Runs (.done a) events b) :
    events = [] ∧ b = a := by
  cases h
  exact ⟨rfl, rfl⟩

theorem Runs.of_ask {action : Action} {next : action.Reply → Plan α} {events : List Event} {a : α}
    (h : Runs (.ask action next) events a) :
    ∃ reply rest, events = ⟨action, reply⟩ :: rest ∧ Runs (next reply) rest a := by
  cases h with
  | ask reply rest => exact ⟨reply, _, rfl, rest⟩

theorem Runs.of_bind {p : Plan α} {f : α → Plan β} {events : List Event} {b : β}
    (h : Runs (p >>= f) events b) :
    ∃ first a rest, events = first ++ rest ∧ Runs p first a ∧ Runs (f a) rest b := by
  induction p generalizing events with
  | done a => exact ⟨[], a, events, rfl, .done a, h⟩
  | ask action next ih =>
      obtain ⟨reply, tail, rfl, htail⟩ := Runs.of_ask h
      obtain ⟨first, a, rest, rfl, hp, hf⟩ := ih reply htail
      exact ⟨⟨action, reply⟩ :: first, a, rest, rfl, .ask reply hp, hf⟩

theorem Runs.of_request_bind {action : Action} {f : action.Reply → Plan β} {events : List Event}
    {b : β} (h : Runs (request action >>= f) events b) :
    ∃ reply rest, events = ⟨action, reply⟩ :: rest ∧ Runs (f reply) rest b :=
  Runs.of_ask h

/-- A run of two plans of which the second is done only if the first succeeded. -/
theorem Runs.of_onSuccess {p : Plan (Except ε α)} {f : α → Plan (Except ε β)}
    {events : List Event} {result : Except ε β} (h : Runs (p.onSuccess f) events result) :
    (∃ e, result = .error e ∧ Runs p events (.error e)) ∨
      ∃ first a rest, events = first ++ rest ∧ Runs p first (.ok a) ∧ Runs (f a) rest result := by
  obtain ⟨first, r, rest, rfl, hp, hf⟩ := Runs.of_bind h
  cases r with
  | error e =>
      obtain ⟨rfl, rfl⟩ := Runs.of_done hf
      exact .inl ⟨e, rfl, by simpa using hp⟩
  | ok a => exact .inr ⟨first, a, rest, rfl, hp, hf⟩

theorem runs_follow (host : Environment) (past : List Event) (p : Plan α) :
    ∃ events, (p.follow host past).1 = past ++ events ∧ Runs p events (p.follow host past).2 := by
  induction p generalizing past with
  | done a => exact ⟨[], by simp [follow], .done a⟩
  | ask action next ih =>
      obtain ⟨events, hpast, h⟩ := ih (host past action) (past ++ [⟨action, host past action⟩])
      refine ⟨⟨action, host past action⟩ :: events, ?_, .ask _ h⟩
      rw [follow, hpast, List.append_assoc, List.singleton_append]

/-! ## What holds all along -/

def Keeps (after : σ → (action : Action) → action.Reply → σ) (inv : σ → Prop)
    (post : α → σ → Prop) (st : σ) : Plan α → Prop
  | .done a => inv st ∧ post a st
  | .ask action next => inv st ∧ ∀ reply, Keeps after inv post (after st action reply) (next reply)

section Keeps

variable {after : σ → (action : Action) → action.Reply → σ} {inv : σ → Prop} {st : σ}

theorem Keeps.holds {post : α → σ → Prop} {p : Plan α} (h : p.Keeps after inv post st) :
    inv st := by
  cases p with
  | done a => exact h.1
  | ask action next => exact h.1

theorem Keeps.mono {post post' : α → σ → Prop} {p : Plan α} (h : p.Keeps after inv post st)
    (hp : ∀ a st, inv st → post a st → post' a st) : p.Keeps after inv post' st := by
  induction p generalizing st with
  | done a => exact ⟨h.1, hp a st h.1 h.2⟩
  | ask action next ih => exact ⟨h.1, fun reply => ih reply (h.2 reply)⟩

/-- One plan after another: what the first leaves behind is what the second starts with. -/
theorem Keeps.bind {p : Plan α} {f : α → Plan β} {post : β → σ → Prop}
    (h : p.Keeps after inv (fun a st => (f a).Keeps after inv post st) st) :
    (p >>= f).Keeps after inv post st := by
  induction p generalizing st with
  | done a => exact h.2
  | ask action next ih => exact ⟨h.1, fun reply => ih reply (h.2 reply)⟩

theorem Keeps.onSuccess {p : Plan (Except ε α)} {f : α → Plan (Except ε β)}
    {post : Except ε β → σ → Prop}
    (h : p.Keeps after inv (fun r st =>
      match r with
      | .ok a => (f a).Keeps after inv post st
      | .error e => post (.error e) st) st) :
    (p.onSuccess f).Keeps after inv post st := by
  refine Keeps.bind (h.mono ?_)
  intro r st hi hr
  cases r with
  | ok a => exact hr
  | error e => exact ⟨hi, hr⟩

end Keeps

end Playground.Plan
