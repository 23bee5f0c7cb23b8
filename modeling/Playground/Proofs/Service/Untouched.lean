import Playground.Proofs.Execution.FirstFailure
import Playground.Proofs.Service.Admission

set_option autoImplicit false

/-! # Nothing is done for a request that its caller is to blame for

A failure that the caller is to blame for comes of a request whose language cannot be told, and of
no other. Such a request is answered when it arrives; so at no time, before the answer or after it,
does it hold a slot, own a workspace or want anything of the host.

`Turns` says what one step of a service does to one request. An execution leads to no outcome of
this kind, whatever the host replies and also when it breaks down (`IsBlameless`), and that stays so
from step to step (`IsFair`). -/

namespace Playground

open Plan (Event Runs)

/-- Is the caller to blame for what came of the request? -/
def Outcome.blamesCaller (o : Outcome) : Bool := o.kind?.any Kind.isCallersFault

/-! ## Executions -/

theorem Workspace.Watches.blamesCaller {w : Workspace} {command : Command} {input : Option String}
    {limit : Duration} {stage : Stage} {events : List Event} {outcome : Outcome}
    (h : Watches w command input limit stage events (.error outcome)) :
    outcome.blamesCaller = false := by
  cases h <;> rfl

theorem Execution.Step.Ends.blamesCaller {s : Settings} {t : Toolchain} {r : Request}
    {w : Workspace} {step : Execution.Step} {events : List Event} {outcome : Outcome}
    (h : step.Ends s t r w events (some outcome)) : outcome.blamesCaller = false := by
  cases h with
  | compilerStopped _ hw | programStopped hw => exact hw.blamesCaller
  | _ => rfl

namespace Service

/-- Whatever the host replies, the plan leads to no outcome that the caller is to blame for. -/
def IsBlameless (plan : Plan Outcome) : Prop :=
  ∀ events outcome, plan.Runs events outcome → outcome.blamesCaller = false

theorem isBlameless_execution (s : Settings) (l : Language) (r : Request) :
    IsBlameless (execution s l r) := by
  intro events outcome h
  obtain ⟨w, log, hproceeds, -⟩ := Execution.proceeds_of_runs h
  obtain ⟨earlier, last, hlog, -, hlast⟩ := hproceeds.decided_by_last
  have hends := hproceeds.ends last (by simp [hlog])
  rw [hlast] at hends
  exact hends.blamesCaller

theorem isBlameless_cleanUp (reason : String) (owned : List String) :
    IsBlameless (cleanUp reason owned) := by
  induction owned with
  | nil =>
      intro events outcome h
      obtain ⟨-, rfl⟩ := Runs.of_done h
      rfl
  | cons path owned ih =>
      intro events outcome h
      obtain ⟨_, rest, -, hrest⟩ := Runs.of_ask h
      exact ih rest outcome hrest

theorem IsBlameless.reply {action : Action} {next : action.Reply → Plan Outcome}
    (h : IsBlameless (.ask action next)) (answer : action.Reply) : IsBlameless (next answer) :=
  fun events outcome hruns => h (⟨action, answer⟩ :: events) outcome (.ask answer hruns)

/-! ## What a step does to one request -/

/-- Where a request is when it arrives. -/
def arrival (r : Request) : Progress :=
  match languageOf r with
  | .found l => .waiting l
  | .undetected => .answered undetected

/-- Where a request is whose execution goes on with this plan. -/
def takeUp (plan : Plan Outcome) (owned : List String) : Progress :=
  match plan with
  | .done outcome => .answered outcome
  | plan => .executing plan owned

/-- What a step does at one place in the order of arrival. -/
inductive Turns (s : Settings) : Option Job → Option Job → Prop where
  | stay (job : Option Job) : Turns s job job
  | arrive (r : Request) : Turns s none (some ⟨r, true, arrival r⟩)
  | grant {r : Request} {isAwaited : Bool} {l : Language} :
      Turns s (some ⟨r, isAwaited, .waiting l⟩) (some ⟨r, isAwaited, .granted l⟩)
  | begin {r : Request} {isAwaited : Bool} {l : Language} :
      Turns s (some ⟨r, isAwaited, .granted l⟩) (some ⟨r, isAwaited, takeUp (execution s l r) []⟩)
  | reply {r : Request} {isAwaited : Bool} {action : Action} {next : action.Reply → Plan Outcome}
      {owned : List String} (answer : action.Reply) :
      Turns s (some ⟨r, isAwaited, .executing (.ask action next) owned⟩)
        (some ⟨r, isAwaited, takeUp (next answer) (ownedAfter owned action answer)⟩)
  | leave (job : Job) : Turns s (some job) (some { job with isAwaited := false })
  | withdraw {r : Request} {isAwaited : Bool} {progress : Progress} :
      Turns s (some ⟨r, isAwaited, progress⟩) (some ⟨r, false, .withdrawn⟩)
  | breakDown {r : Request} {isAwaited : Bool} {plan : Plan Outcome} {owned : List String}
      (reason : String) :
      Turns s (some ⟨r, isAwaited, .executing plan owned⟩)
        (some ⟨r, isAwaited, takeUp (cleanUp reason owned) owned⟩)

variable {s : Settings} {v : Service} {a b c : Site} {ticket : Nat} {job old new : Job}

theorem jobs_advance (v : Service) (ticket : Nat) (job : Job) (plan : Plan Outcome)
    (owned : List String) :
    (v.advance ticket job plan owned).jobs =
      v.jobs.set ticket { job with progress := takeUp plan owned } := by
  cases plan <;> rfl

theorem turns_set {jobs : List Job} (hold : jobs[ticket]? = some old)
    (h : Turns s (some old) (some new)) (t : Nat) : Turns s jobs[t]? (jobs.set ticket new)[t]? := by
  by_cases ht : ticket = t
  · subst ht
    rw [hold, List.getElem?_set_self (List.getElem?_eq_some_iff.1 hold).1]
    exact h
  · rw [List.getElem?_set_ne ht]
    exact .stay _

theorem turns_submit (v : Service) (r : Request) (t : Nat) :
    Turns s v.jobs[t]? (v.submit r).jobs[t]? := by
  have hjobs : (v.submit r).jobs = v.jobs ++ [⟨r, true, arrival r⟩] := rfl
  rw [hjobs]
  rcases Nat.lt_trichotomy t v.jobs.length with ht | rfl | ht
  · rw [List.getElem?_append_left ht]
    exact .stay _
  · rw [List.getElem?_concat_length, List.getElem?_eq_none (Nat.le_refl _)]
    exact .arrive r
  · rw [List.getElem?_eq_none (Nat.le_of_lt ht),
      List.getElem?_eq_none (by rw [List.length_append, List.length_singleton]; omega)]
    exact .stay _

theorem turns_grant (v : Service) (t : Nat) : Turns s v.jobs[t]? v.grant.jobs[t]? := by
  unfold Service.grant
  split
  · split
    · next hjob => exact turns_set hjob .grant t
    · exact .stay _
  · exact .stay _

theorem turns_leave (v : Service) (ticket t : Nat) :
    Turns s v.jobs[t]? (v.leave ticket).jobs[t]? := by
  unfold Service.leave
  split
  · next hjob => exact turns_set hjob .withdraw t
  · next hjob => exact turns_set hjob .withdraw t
  · next job _ _ hjob => exact turns_set hjob (.leave job) t
  · exact .stay _

theorem Site.Moves.turns (hm : Site.Moves a b) (t : Nat) :
    Turns a.service.settings a.service.jobs[t]? b.service.jobs[t]? := by
  cases hm with
  | arrive r => exact turns_submit a.service r t
  | grant => exact turns_grant a.service t
  | begin ticket =>
      show Turns _ _ (Service.begin _ ticket).jobs[t]?
      unfold Service.begin
      split
      · next hjob =>
          rw [jobs_advance]
          exact turns_set hjob .begin t
      · exact .stay _
  | reply ticket host action hasked =>
      obtain ⟨r, isAwaited, next, owned, hjob⟩ := exists_of_asked hasked
      show Turns _ _ (Service.reply _ ticket host).jobs[t]?
      rw [Service.reply, Service.proceed]
      simp only [hjob]
      rw [jobs_advance]
      exact turns_set hjob (.reply (host action)) t
  | leave ticket => exact turns_leave a.service ticket t
  | breakDown ticket reason =>
      show Turns _ _ (Service.breakDown _ ticket reason).jobs[t]?
      unfold Service.breakDown
      split
      · next hjob =>
          rw [jobs_advance]
          exact turns_set hjob (.breakDown reason) t
      · exact .stay _

/-! ## The caller is blamed for what cannot be told -/

/-- The caller is to blame only if the language of the request cannot be told, and an execution will
    not change that. -/
def IsFair (job : Job) : Prop :=
  match job.progress with
  | .executing plan _ => IsBlameless plan
  | .answered outcome => outcome.blamesCaller = true → languageOf job.request = .undetected
  | _ => True

theorem isFair_takeUp {r : Request} {isAwaited : Bool} {plan : Plan Outcome} {owned : List String}
    (h : IsBlameless plan) : IsFair ⟨r, isAwaited, takeUp plan owned⟩ := by
  cases plan with
  | done outcome =>
      intro hblame
      rw [h [] outcome (.done outcome)] at hblame
      cases hblame
  | ask action next => exact h

theorem Turns.isFair (h : Turns s (some old) (some new)) (hold : IsFair old) : IsFair new := by
  cases h with
  | stay => exact hold
  | grant => trivial
  | begin => exact isFair_takeUp (isBlameless_execution s _ _)
  | reply answer => exact isFair_takeUp (IsBlameless.reply hold answer)
  | leave => exact hold
  | withdraw => trivial
  | breakDown reason => exact isFair_takeUp (isBlameless_cleanUp reason _)

theorem Turns.isFair_of_none (h : Turns s none (some new)) : IsFair new := by
  cases h with
  | arrive r =>
      unfold IsFair arrival
      cases hl : languageOf r with
      | found l => trivial
      | undetected => exact fun _ => rfl

theorem Turns.exists_request (h : Turns s (some old) (b.service.jobs[ticket]?)) :
    ∃ job, b.service.jobs[ticket]? = some job ∧ job.request = old.request := by
  generalize b.service.jobs[ticket]? = new at h
  cases h <;> exact ⟨_, rfl, rfl⟩

theorem isFair_of_moves (hm : Relation.ReflTransGen Site.Moves ⟨⟨s, s.maxConcurrent, []⟩, []⟩ a)
    (hjob : a.service.jobs[ticket]? = some job) : IsFair job := by
  induction hm generalizing job with
  | refl => simp at hjob
  | @tail a b _ hmove ih =>
      have hturns := hmove.turns ticket
      rw [hjob] at hturns
      cases hold : a.service.jobs[ticket]? with
      | none =>
          rw [hold] at hturns
          exact hturns.isFair_of_none
      | some old =>
          rw [hold] at hturns
          exact hturns.isFair (ih hold)

/-- A request stays what it is, however far it comes. -/
theorem exists_request_of_moves (hm : Relation.ReflTransGen Site.Moves a b)
    (hjob : a.service.jobs[ticket]? = some job) :
    ∃ later, b.service.jobs[ticket]? = some later ∧ later.request = job.request := by
  induction hm with
  | refl => exact ⟨job, hjob, rfl⟩
  | tail _ hmove ih =>
      obtain ⟨middle, hmiddle, hrequest⟩ := ih
      have hturns := hmove.turns ticket
      rw [hmiddle] at hturns
      obtain ⟨later, hlater, hsame⟩ := hturns.exists_request
      exact ⟨later, hlater, hsame.trans hrequest⟩

/-! ## Nothing is done -/

/-- The request of a ticket has no slot and no workspace, and wants nothing of the host. -/
structure Site.IsUntouched (a : Site) (ticket : Nat) : Prop where
  asks_nothing : a.service.asked ticket = none
  holds_nothing : ticket ∉ a.service.holders
  owns_nothing : ∀ path, (ticket, path) ∉ a.live

theorem Site.Admits.isUntouched {most : Nat} (h : a.Admits most)
    (hjob : ∀ job, a.service.jobs[ticket]? = some job → languageOf job.request = .undetected) :
    a.IsUntouched ticket := by
  have hanswered : ∀ job, a.service.jobs[ticket]? = some job →
      job.progress = .answered undetected := fun job hj =>
    h.turned_away job (List.mem_of_getElem? hj) (hjob job hj)
  refine ⟨?_, ?_, ?_⟩
  · cases hasked : a.service.asked ticket with
    | none => rfl
    | some action =>
        obtain ⟨r, isAwaited, next, owned, hj⟩ := exists_of_asked hasked
        cases hanswered _ hj
  · intro hholds
    obtain ⟨job, hj, hslot⟩ := mem_holders.1 hholds
    rw [hanswered job hj] at hslot
    cases hslot
  · intro path hlive
    obtain ⟨r, isAwaited, plan, owned, hj⟩ := h.ticket_live hlive
    cases hanswered _ hj

/-- For a request that its caller is to blame for nothing is done at any time. -/
theorem isUntouched_of_blamesCaller (hstart : start s = .ready v)
    (hb : Relation.ReflTransGen Site.Moves ⟨v, []⟩ b) {outcome : Outcome}
    (houtcome : b.service.outcome? ticket = some outcome) (hblame : outcome.blamesCaller = true)
    (hc : Relation.ReflTransGen Site.Moves ⟨v, []⟩ c)
    (htime : Relation.ReflTransGen Site.Moves c b ∨ Relation.ReflTransGen Site.Moves b c) :
    c.IsUntouched ticket := by
  obtain rfl := eq_of_start hstart
  refine ((admits_start s).moves hc).isUntouched fun job hjob => ?_
  -- The request is the one that was answered, and that one cannot be told.
  cases hanswered : b.service.jobs[ticket]? with
  | none => simp [outcome?, hanswered] at houtcome
  | some answered =>
      have hsame : job.request = answered.request := by
        rcases htime with hm | hm
        · obtain ⟨later, hlater, hrequest⟩ := exists_request_of_moves hm hjob
          obtain rfl := Option.some.inj (hanswered.symm.trans hlater)
          exact hrequest.symm
        · obtain ⟨later, hlater, hrequest⟩ := exists_request_of_moves hm hanswered
          obtain rfl := Option.some.inj (hjob.symm.trans hlater)
          exact hrequest
      have hfair := isFair_of_moves hb hanswered
      obtain ⟨r, isAwaited, progress⟩ := answered
      rw [hsame]
      cases progress with
      | answered o =>
          obtain rfl : o = outcome := by
            simpa [outcome?, hanswered, Progress.outcome?] using houtcome
          exact hfair hblame
      | _ => simp [outcome?, hanswered, Progress.outcome?] at houtcome

end Service

end Playground
