import Playground.Proofs.Execution.Explanation
import Playground.Proofs.Service.Admission

set_option autoImplicit false

/-! # Every failure explains itself

A `Logged` service keeps a log of what its executions asked of the host and were replied, each entry
with the ticket of the request that it was for. `Logged.Moves` is one step of it. The steps are
those of any service, and the host may reply as it likes, each time in another way.

What the log has for a ticket is the beginning of a run of that request's execution, so a failure at
the end of it is explained by the log (`EndsExplained`). When an execution breaks down, another plan
comes in the place of its own; that one ends with words that explain themselves. -/

namespace Playground.Service

open Plan (Event Runs)
open Execution (Explains IsExplained isExplained_internal isExplained_of_ne isExplained_of_runs)
open Text (allBlank_append)

/-! ## Logs -/

/-- A service, and what was asked of the host and replied, with the ticket that it was for. -/
structure Logged where
  service : Service
  log : List (Nat × Event)

/-- What was asked for a ticket and replied, in order. -/
def eventsOf (log : List (Nat × Event)) (ticket : Nat) : List Event :=
  (log.filter fun entry => entry.1 == ticket).map Prod.snd

theorem eventsOf_concat_self (log : List (Nat × Event)) (ticket : Nat) (e : Event) :
    eventsOf (log ++ [(ticket, e)]) ticket = eventsOf log ticket ++ [e] := by
  simp [eventsOf]

theorem eventsOf_concat_ne {t ticket : Nat} (log : List (Nat × Event)) (e : Event)
    (h : t ≠ ticket) : eventsOf (log ++ [(ticket, e)]) t = eventsOf log t := by
  simp [eventsOf, Ne.symm h]

inductive Logged.Moves : Logged → Logged → Prop where
  | arrive (a : Logged) (r : Request) : Moves a { a with service := a.service.submit r }
  | grant (a : Logged) : Moves a { a with service := a.service.grant }
  | begin (a : Logged) (ticket : Nat) : Moves a { a with service := a.service.begin ticket }
  | reply (a : Logged) (ticket : Nat) (host : (action : Action) → action.Reply) (action : Action)
      (h : a.service.asked ticket = some action) :
      Moves a ⟨a.service.reply ticket host, a.log ++ [(ticket, ⟨action, host action⟩)]⟩
  | leave (a : Logged) (ticket : Nat) : Moves a { a with service := a.service.leave ticket }
  | breakDown (a : Logged) (ticket : Nat) (reason : String) :
      Moves a { a with service := a.service.breakDown ticket reason }

variable {s : Settings} {r : Request} {a b : Logged} {log : List (Nat × Event)} {ticket : Nat}
  {events : List Event} {plan : Plan Outcome} {old job : Job}

/-! ## Plans that will explain themselves -/

/-- After these events, and whatever the host replies from now on, the plan leads to no failure that
    does not explain itself. -/
def EndsExplained (s : Settings) (r : Request) (events : List Event) (plan : Plan Outcome) : Prop :=
  ∀ rest outcome, plan.Runs rest outcome → IsExplained s r (events ++ rest) outcome

theorem EndsExplained.isExplained {outcome : Outcome}
    (h : EndsExplained s r events (.done outcome)) : IsExplained s r events outcome := by
  simpa using h [] outcome (.done outcome)

theorem EndsExplained.reply {action : Action} {next : action.Reply → Plan Outcome}
    (h : EndsExplained s r events (.ask action next)) (answer : action.Reply) :
    EndsExplained s r (events ++ [⟨action, answer⟩]) (next answer) := by
  intro rest outcome hruns
  rw [List.append_assoc]
  exact h _ outcome (.ask answer hruns)

theorem endsExplained_execution {l : Language} (hl : languageOf r = .found l) :
    EndsExplained s r [] (execution s l r) :=
  fun _ _ hruns => isExplained_of_runs hl hruns

theorem endsExplained_cleanUp (reason : String) (owned : List String) :
    EndsExplained s r events (cleanUp reason owned) := by
  induction owned with
  | nil =>
      intro rest outcome h
      obtain ⟨-, rfl⟩ := Runs.of_done h
      exact isExplained_internal (allBlank_append (by decide))
  | cons path owned ih =>
      intro rest outcome h
      obtain ⟨_, last, rfl, hlast⟩ := Runs.of_ask h
      exact (ih last outcome hlast).mono (by simp)

theorem isExplained_undetected : IsExplained s r events undetected :=
  isExplained_of_ne (allBlank_append (by decide)) (by decide) (by decide)

/-! ## What every move keeps -/

/-- A request will explain itself if it fails, or has done so. -/
def Accounts (s : Settings) (events : List Event) (job : Job) : Prop :=
  match job.progress with
  | .waiting l => languageOf job.request = .found l ∧ events = []
  | .granted l => languageOf job.request = .found l ∧ events = []
  | .executing plan _ => EndsExplained s job.request events plan
  | .answered outcome => IsExplained s job.request events outcome
  | .withdrawn => True

structure Logged.IsSound (s : Settings) (a : Logged) : Prop where
  settings : a.service.settings = s
  jobs : ∀ ticket job, a.service.jobs[ticket]? = some job → Accounts s (eventsOf a.log ticket) job
  /-- For requests to come nothing was asked. -/
  others : ∀ ticket, a.service.jobs.length ≤ ticket → eventsOf a.log ticket = []

/-- One job is replaced, and nothing is logged for another. -/
theorem Logged.IsSound.replace (h : a.IsSound s) (hold : a.service.jobs[ticket]? = some old)
    {new : Job} {slots : Nat} (hlog : ∀ t, t ≠ ticket → eventsOf log t = eventsOf a.log t)
    (hnew : Accounts s (eventsOf log ticket) new) :
    Logged.IsSound s
      ⟨{ a.service with slots := slots, jobs := a.service.jobs.set ticket new }, log⟩ where
  settings := h.settings
  jobs t job hjob := by
    by_cases ht : t = ticket
    · subst ht
      rw [List.getElem?_set_self (List.getElem?_eq_some_iff.1 hold).1] at hjob
      cases hjob
      exact hnew
    · rw [List.getElem?_set_ne (Ne.symm ht)] at hjob
      rw [hlog t ht]
      exact h.jobs t job hjob
  others t ht := by
    rw [List.length_set] at ht
    have hticket := (List.getElem?_eq_some_iff.1 hold).1
    rw [hlog t (by omega)]
    exact h.others t ht

/-- An execution goes on with a plan. -/
theorem Logged.IsSound.advance (h : a.IsSound s) (hjob : a.service.jobs[ticket]? = some job)
    {owned : List String} (hlog : ∀ t, t ≠ ticket → eventsOf log t = eventsOf a.log t)
    (hends : EndsExplained s job.request (eventsOf log ticket) plan) :
    Logged.IsSound s ⟨a.service.advance ticket job plan owned, log⟩ := by
  cases plan with
  | done outcome => exact h.replace hjob hlog hends.isExplained
  | ask action next => exact h.replace hjob hlog hends

/-! ### The moves, one by one -/

theorem Logged.IsSound.submit (h : a.IsSound s) (r : Request) :
    Logged.IsSound s { a with service := a.service.submit r } where
  settings := h.settings
  jobs ticket job hjob := by
    rcases Nat.lt_or_ge ticket a.service.jobs.length with hlt | hge
    · rw [Service.submit, List.getElem?_append_left hlt] at hjob
      exact h.jobs ticket job hjob
    · rw [Service.submit, List.getElem?_append_right hge] at hjob
      obtain rfl := List.mem_singleton.1 (List.mem_of_getElem? hjob)
      rw [h.others ticket hge]
      unfold Accounts
      cases languageOf r with
      | found l => exact ⟨rfl, rfl⟩
      | undetected => exact isExplained_undetected
  others ticket ht := by
    rw [Service.submit, List.length_append] at ht
    exact h.others ticket (by omega)

theorem Logged.IsSound.grant (h : a.IsSound s) :
    Logged.IsSound s { a with service := a.service.grant } := by
  unfold Service.grant
  split
  · split
    · next hjob =>
        have hwaits := h.jobs _ _ hjob
        exact h.replace hjob (fun _ _ => rfl) hwaits
    · exact h
  · exact h

theorem Logged.IsSound.begin (h : a.IsSound s) (ticket : Nat) :
    Logged.IsSound s { a with service := a.service.begin ticket } := by
  unfold Service.begin
  split
  · next r isAwaited l hjob =>
      obtain ⟨hl, hnothing⟩ := h.jobs _ _ hjob
      refine h.advance hjob (fun _ _ => rfl) ?_
      rw [h.settings, hnothing]
      exact endsExplained_execution hl
  · exact h

theorem Logged.IsSound.reply (h : a.IsSound s) (host : (action : Action) → action.Reply)
    {action : Action} (hasked : a.service.asked ticket = some action) :
    Logged.IsSound s
      ⟨a.service.reply ticket host, a.log ++ [(ticket, ⟨action, host action⟩)]⟩ := by
  obtain ⟨r, isAwaited, next, owned, hjob⟩ := exists_of_asked hasked
  have hends : EndsExplained s r (eventsOf a.log ticket) (.ask action next) := h.jobs _ _ hjob
  rw [Service.reply, Service.proceed]
  simp only [hjob]
  refine h.advance hjob (fun t ht => eventsOf_concat_ne a.log _ ht) ?_
  rw [eventsOf_concat_self]
  exact hends.reply (host action)

theorem Logged.IsSound.leave (h : a.IsSound s) (ticket : Nat) :
    Logged.IsSound s { a with service := a.service.leave ticket } := by
  unfold Service.leave
  split
  · next hjob => exact h.replace hjob (fun _ _ => rfl) trivial
  · next hjob => exact h.replace hjob (fun _ _ => rfl) trivial
  · next job _ _ hjob =>
      have haccounts := h.jobs _ _ hjob
      exact h.replace hjob (fun _ _ => rfl) haccounts
  · exact h

theorem Logged.IsSound.breakDown (h : a.IsSound s) (ticket : Nat) (reason : String) :
    Logged.IsSound s { a with service := a.service.breakDown ticket reason } := by
  unfold Service.breakDown
  split
  · next hjob => exact h.advance hjob (fun _ _ => rfl) (endsExplained_cleanUp reason _)
  · exact h

theorem Logged.IsSound.moves (h : a.IsSound s) (hm : Relation.ReflTransGen Logged.Moves a b) :
    b.IsSound s := by
  induction hm with
  | refl => exact h
  | tail _ hmove ih =>
      cases hmove with
      | arrive r => exact ih.submit r
      | grant => exact ih.grant
      | begin ticket => exact ih.begin ticket
      | reply ticket host action hasked => exact ih.reply host hasked
      | leave ticket => exact ih.leave ticket
      | breakDown ticket reason => exact ih.breakDown ticket reason

/-! ## What is promised -/

/-- Whatever a process leaves, its diagnostics are not blank; and whatever is asked of a service and
    however the host behaves, a failure is told in words that explain it. -/
theorem failures_explain_themselves :
    (∀ o : ProcessOutput, o.Diagnoses) ∧
      ∀ s v, start s = .ready v → ∀ a, Relation.ReflTransGen Logged.Moves ⟨v, []⟩ a →
        ∀ ticket error kind, a.service.outcome? ticket = some (.failure error kind) →
          ∃ job, a.service.jobs[ticket]? = some job ∧
            Explains s job.request (eventsOf a.log ticket) error kind := by
  refine ⟨ProcessOutput.diagnoses, fun s v hstart a hm ticket error kind houtcome => ?_⟩
  obtain rfl := eq_of_start hstart
  have hfirst : Logged.IsSound s ⟨⟨s, s.maxConcurrent, []⟩, []⟩ :=
    ⟨rfl, fun _ _ hjob => by simp at hjob, fun _ _ => rfl⟩
  obtain ⟨⟨r, isAwaited, progress⟩, hjob, hanswer⟩ := Option.bind_eq_some_iff.1 houtcome
  have haccounts := (hfirst.moves hm).jobs ticket _ hjob
  cases progress with
  | answered outcome =>
      cases hanswer
      exact ⟨_, hjob, haccounts error kind rfl⟩
  | _ => cases hanswer

/-- A host on which every process writes an empty line and ends with code 1. -/
def wordless : (action : Action) → action.Reply
  | .watch _ _ => .ok ⟨1, some (0, .exited 1), ⟨[10], some 0⟩, ⟨[], some 0⟩, some 0, none⟩
  | action => obliging action

/-- A compiler that has nothing to say is spoken for by its status. -/
theorem failures_explain_themselves_wordless :
    start .default = .ready ⟨.default, 10, []⟩ ∧
      ∃ a job, Relation.ReflTransGen Logged.Moves ⟨⟨.default, 10, []⟩, []⟩ a ∧
        a.service.outcome? 0 = some (.failure
          "Compilation error:\nProcess exited with exit status: 1" .compileFailure) ∧
        a.service.jobs[0]? = some job ∧
        Explains .default job.request (eventsOf a.log 0)
          "Compilation error:\nProcess exited with exit status: 1" .compileFailure := by
  have hm := Relation.ReflTransGen.single
      (Logged.Moves.arrive ⟨⟨.default, 10, []⟩, []⟩ (.inLanguage .java ";"))
    |>.tail (.grant _)
    |>.tail (.begin _ 0)
    -- the two tools, the identifier, the root, the workspace and the source
    |>.tail (.reply _ 0 wordless _ rfl)
    |>.tail (.reply _ 0 wordless _ rfl)
    |>.tail (.reply _ 0 wordless _ rfl)
    |>.tail (.reply _ 0 wordless _ rfl)
    |>.tail (.reply _ 0 wordless _ rfl)
    |>.tail (.reply _ 0 wordless _ rfl)
    -- the compiler, its process and what is left of it
    |>.tail (.reply _ 0 wordless _ rfl)
    |>.tail (.reply _ 0 wordless _ rfl)
    |>.tail (.reply _ 0 wordless _ rfl)
    |>.tail (.reply _ 0 wordless _ rfl)
  obtain ⟨job, hjob, hexplains⟩ := failures_explain_themselves.2 .default _ rfl _ hm 0
    "Compilation error:\nProcess exited with exit status: 1" .compileFailure rfl
  exact ⟨rfl, _, job, hm, rfl, hjob, hexplains⟩

end Playground.Service
