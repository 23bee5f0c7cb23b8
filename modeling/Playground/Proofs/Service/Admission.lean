import Mathlib.Data.List.Perm.Subperm
import Mathlib.Logic.Relation
import Playground.Proofs.Execution.Ownership

set_option autoImplicit false

/-! # Admission

Requests arrive, wait, start, go on, break down and are left by their callers, in any order. Through
all of this no slot is lost and none is made up: those that are free and those that are held are
together as many as there were at the start. A workspace is there only while the execution that made
it holds a slot, so there are never more workspaces than slots.

A `Site` is a service together with the workspaces that its executions have made on the host, which
are counted on their own and not read off the service. `Site.Moves` is one step of a site, and
`Admits` is what every step keeps. -/

namespace Playground.Service

open Plan Execution

/-! ## Sites and their moves -/

/-- A service, and the workspaces that are there: their paths, and the tickets of the requests that
    they were made for. -/
structure Site where
  service : Service
  live : List (Nat × String)

/-- The workspaces that are there after the host has replied to the execution of a ticket. -/
def liveAfter (live : List (Nat × String)) (ticket : Nat) :
    (action : Action) → action.Reply → List (Nat × String)
  | .createPrivate path, .ok _ => (ticket, path) :: live
  | .remove path, _ => live.filter (· != (ticket, path))
  | _, _ => live

inductive Site.Moves : Site → Site → Prop where
  | arrive (a : Site) (r : Request) : Moves a { a with service := a.service.submit r }
  | grant (a : Site) : Moves a { a with service := a.service.grant }
  | begin (a : Site) (ticket : Nat) : Moves a { a with service := a.service.begin ticket }
  | reply (a : Site) (ticket : Nat) (host : (action : Action) → action.Reply) (action : Action)
      (h : a.service.asked ticket = some action) :
      Moves a ⟨a.service.reply ticket host, liveAfter a.live ticket action (host action)⟩
  | leave (a : Site) (ticket : Nat) : Moves a { a with service := a.service.leave ticket }
  | breakDown (a : Site) (ticket : Nat) (reason : String) :
      Moves a { a with service := a.service.breakDown ticket reason }

/-- What is promised of a site whose service was started with so many slots. -/
structure Site.Conserves (most : Nat) (a : Site) : Prop where
  /-- No slot is lost and none made up. -/
  conserved : a.service.slots + a.service.holders.length = most
  /-- A workspace belongs to an execution that holds a slot. -/
  live_held : ∀ ticket path, (ticket, path) ∈ a.live → ticket ∈ a.service.holders ∧
    ∃ r isAwaited plan owned,
      a.service.jobs[ticket]? = some ⟨r, isAwaited, .executing plan owned⟩
  few_live : a.live.length ≤ most
  /-- A caller who leaves does not end the execution and does not free its slot. -/
  leave_keeps : ∀ ticket r isAwaited plan owned,
    a.service.jobs[ticket]? = some ⟨r, isAwaited, .executing plan owned⟩ →
    (a.service.leave ticket).slots = a.service.slots ∧
      (a.service.leave ticket).jobs[ticket]? = some ⟨r, false, .executing plan owned⟩
  /-- From its start on an execution holds its slot until there is an answer. -/
  held_until_answer : ∀ b, Relation.ReflTransGen Site.Moves a b →
    ∀ ticket r isAwaited plan owned,
      a.service.jobs[ticket]? = some ⟨r, isAwaited, .executing plan owned⟩ →
      ticket ∈ b.service.holders ∨ ∃ outcome, b.service.outcome? ticket = some outcome
  /-- A request whose language cannot be told has no slot. -/
  undetected_free : ∀ ticket job, a.service.jobs[ticket]? = some job →
    languageOf job.request = .undetected → ticket ∉ a.service.holders
  /-- When there is an answer, the workspace is gone and the slot free. -/
  answered_free : ∀ ticket outcome, a.service.outcome? ticket = some outcome →
    ticket ∉ a.service.holders ∧ ∀ path, (ticket, path) ∉ a.live
  /-- When nothing is left to do, all slots are free. -/
  quiet_full : a.service.isQuiet = true → a.service.slots = most

/-! ## Counting -/

/-- Replacing one entry of a list changes a count by that entry alone. -/
theorem countP_set_add {α : Type} (p : α → Bool) {l : List α} {i : Nat} {a : α} (b : α)
    (h : l[i]? = some a) :
    (l.set i b).countP p + (p a).toNat = l.countP p + (p b).toNat := by
  obtain ⟨hi, rfl⟩ := List.getElem?_eq_some_iff.1 h
  have hpos : p l[i] = true → 0 < l.countP p :=
    fun hp => List.countP_pos_iff.2 ⟨_, List.getElem_mem hi, hp⟩
  rw [List.countP_set hi]
  cases hp : p l[i] with
  | false => cases p b <;> simp
  | true =>
      have hpos := hpos hp
      cases p b <;> simp <;> omega

theorem mem_holders {v : Service} {ticket : Nat} :
    ticket ∈ v.holders ↔ ∃ job, v.jobs[ticket]? = some job ∧ job.progress.holdsSlot = true := by
  unfold holders
  rw [List.mem_filter, List.mem_range]
  cases h : v.jobs[ticket]? with
  | none => simp
  | some job => simp [(List.getElem?_eq_some_iff.1 h).1]

theorem length_holders (v : Service) :
    v.holders.length = v.jobs.countP fun job => job.progress.holdsSlot := by
  have hjobs : (List.range v.jobs.length).map (fun i => v.jobs[i]?) = v.jobs.map some := by
    apply List.ext_getElem?
    intro i
    by_cases h : i < v.jobs.length
    · simp [h]
    · simp [h]
  have hcount := congrArg (List.countP fun o : Option Job => o.any (·.progress.holdsSlot)) hjobs
  rw [List.countP_map, List.countP_map] at hcount
  rw [holders, ← List.countP_eq_length_filter]
  refine Eq.trans (List.countP_congr fun i _ => ?_) hcount
  simp only [Function.comp_apply]
  cases v.jobs[i]? <;> rfl

/-! ## What every move keeps -/

/-- The paths of the workspaces of a ticket. -/
def pathsOf (live : List (Nat × String)) (ticket : Nat) : List String :=
  (live.filter fun entry => entry.1 == ticket).map Prod.snd

/-- The paths that the request of a ticket has made and not removed, as the service knows. -/
def ownedBy (v : Service) (ticket : Nat) : List String :=
  ((v.jobs[ticket]?).map fun job => job.progress.owned).getD []

/-- An execution will not own more than one directory, and none at its end. -/
def IsTidy : Progress → Prop
  | .executing plan owned => Owns (fun _ left => left = []) owned plan
  | _ => True

structure Site.Admits (most : Nat) (a : Site) : Prop where
  conserved :
    a.service.slots + (a.service.jobs.countP fun job => job.progress.holdsSlot) = most
  owned : ∀ ticket, pathsOf a.live ticket = a.service.ownedBy ticket
  tidy : ∀ job ∈ a.service.jobs, IsTidy job.progress
  turned_away : ∀ job ∈ a.service.jobs, languageOf job.request = .undetected →
    job.progress = .answered undetected

theorem pathsOf_cons (live : List (Nat × String)) (ticket other : Nat) (path : String) :
    pathsOf ((ticket, path) :: live) other =
      if other = ticket then path :: pathsOf live ticket else pathsOf live other := by
  unfold pathsOf
  split
  · next h => simp [h]
  · next h => rw [List.filter_cons_of_neg (by simpa using fun he => h he.symm)]

theorem pathsOf_filter (live : List (Nat × String)) (ticket other : Nat) (path : String) :
    pathsOf (live.filter (· != (ticket, path))) other =
      if other = ticket then (pathsOf live ticket).filter (· != path) else pathsOf live other := by
  unfold pathsOf
  rw [List.filter_filter]
  split
  · next h =>
      subst h
      rw [List.filter_map, List.filter_filter]
      congr 1
      refine List.filter_congr fun entry _ => ?_
      obtain ⟨t, p⟩ := entry
      rw [Bool.eq_iff_iff]
      simp only [Bool.and_eq_true, beq_iff_eq, bne_iff_ne, ne_eq, Prod.mk.injEq,
        Function.comp_apply]
      exact ⟨fun ⟨ht, hp⟩ => ⟨fun he => hp ⟨ht, he⟩, ht⟩, fun ⟨hp, ht⟩ => ⟨ht, fun he => hp he.2⟩⟩
  · next h =>
      congr 1
      refine List.filter_congr fun entry _ => ?_
      obtain ⟨t, p⟩ := entry
      by_cases ht : t = other
      · simp [ht, h]
      · simp [ht]

/-- What is there for a ticket changes as what its execution owns, and nothing else changes. -/
theorem pathsOf_liveAfter (live : List (Nat × String)) (ticket other : Nat) (action : Action)
    (reply : action.Reply) :
    pathsOf (liveAfter live ticket action reply) other =
      if other = ticket then ownedAfter (pathsOf live ticket) action reply
      else pathsOf live other := by
  cases action with
  | createPrivate path =>
      cases reply with
      | error e => simp only [liveAfter, ownedAfter]; split <;> simp_all
      | ok => exact pathsOf_cons live ticket other path
  | remove path => exact pathsOf_filter live ticket other path
  | _ => simp only [liveAfter, ownedAfter]; split <;> simp_all

variable {most : Nat} {a b : Site} {ticket : Nat} {old job : Job}

/-- One job is replaced, and what it held and owned is accounted for. -/
theorem Site.Admits.replace (h : a.Admits most) {new : Job} {slots : Nat}
    {live : List (Nat × String)} (hold : a.service.jobs[ticket]? = some old)
    (hrequest : new.request = old.request)
    (hslots : slots + new.progress.holdsSlot.toNat =
      a.service.slots + old.progress.holdsSlot.toNat)
    (hlive : ∀ t, pathsOf live t = if t = ticket then new.progress.owned else pathsOf a.live t)
    (htidy : IsTidy new.progress)
    (hundetected : old.progress = .answered undetected → new.progress = .answered undetected) :
    Site.Admits most
      ⟨{ a.service with slots := slots, jobs := a.service.jobs.set ticket new }, live⟩ where
  conserved := by
    have hcount := countP_set_add (fun job : Job => job.progress.holdsSlot) new hold
    have hconserved := h.conserved
    show slots + (a.service.jobs.set ticket new).countP _ = most
    omega
  owned := by
    intro t
    rw [hlive, ownedBy]
    split
    · next ht =>
        subst ht
        simp [(List.getElem?_eq_some_iff.1 hold).1]
    · next ht =>
        rw [h.owned, ownedBy, List.getElem?_set_ne (fun he => ht he.symm)]
  tidy := by
    intro job hjob
    rcases List.mem_or_eq_of_mem_set hjob with hjob | rfl
    · exact h.tidy job hjob
    · exact htidy
  turned_away := by
    intro job hjob hu
    rcases List.mem_or_eq_of_mem_set hjob with hjob | rfl
    · exact h.turned_away job hjob hu
    · rw [hrequest] at hu
      exact hundetected (h.turned_away old (List.mem_of_getElem? hold) hu)

/-- An execution takes up a plan that it owns so much in. -/
theorem Site.Admits.advance (h : a.Admits most) {plan : Plan Outcome} {owned : List String}
    {live : List (Nat × String)} (hjob : a.service.jobs[ticket]? = some job)
    (hslot : job.progress.holdsSlot = true) (hplan : Owns (fun _ left => left = []) owned plan)
    (hlive : ∀ t, pathsOf live t = if t = ticket then owned else pathsOf a.live t) :
    Site.Admits most ⟨a.service.advance ticket job plan owned, live⟩ := by
  have hundetected : job.progress ≠ .answered undetected := by
    intro hp
    rw [hp] at hslot
    cases hslot
  cases plan with
  | done outcome =>
      obtain rfl : owned = [] := hplan.2
      refine h.replace hjob rfl ?_ hlive trivial fun hp => absurd hp hundetected
      rw [hslot]
      rfl
  | ask action next =>
      refine h.replace hjob rfl ?_ hlive hplan fun hp => absurd hp hundetected
      rw [hslot]
      rfl

/-- The workspaces of a ticket, if nothing has changed on the host. -/
theorem Site.Admits.pathsOf_eq (h : a.Admits most) (hold : a.service.jobs[ticket]? = some old)
    {owned : List String} (howned : old.progress.owned = owned) (t : Nat) :
    pathsOf a.live t = if t = ticket then owned else pathsOf a.live t := by
  split
  · next ht =>
      subst ht
      rw [h.owned, ownedBy, hold, ← howned]
      rfl
  · rfl

/-! ## The moves, one by one -/

theorem eq_of_start {s : Settings} {v : Service} (h : start s = .ready v) :
    v = ⟨s, s.maxConcurrent, []⟩ := by
  unfold start at h
  cases hs : s.validate with
  | error f =>
      rw [hs] at h
      cases h
  | ok t =>
      obtain ⟨rfl, -⟩ := (Settings.validate_eq_ok_iff s t).1 hs
      simp only [hs] at h
      split at h
      · exact (Start.ready.inj h).symm
      · cases h

theorem admits_start (s : Settings) :
    Site.Admits s.maxConcurrent ⟨⟨s, s.maxConcurrent, []⟩, []⟩ where
  conserved := rfl
  owned _ := rfl
  tidy _ hjob := by cases hjob
  turned_away _ hjob := by cases hjob

theorem Site.Admits.submit (h : a.Admits most) (r : Request) :
    Site.Admits most { a with service := a.service.submit r } := by
  have hcases : ∃ progress : Progress, a.service.submit r =
      { a.service with jobs := a.service.jobs ++ [⟨r, true, progress⟩] } ∧
      progress.holdsSlot = false ∧ progress.owned = [] ∧ IsTidy progress ∧
      (languageOf r = .undetected → progress = .answered undetected) := by
    unfold Service.submit
    cases hl : languageOf r with
    | found l => exact ⟨.waiting l, rfl, rfl, rfl, trivial, by simp⟩
    | undetected => exact ⟨.answered Service.undetected, rfl, rfl, rfl, trivial, by simp⟩
  obtain ⟨progress, hsubmit, hslot, howned, htidy, hundetected⟩ := hcases
  rw [hsubmit]
  refine ⟨?_, ?_, ?_, ?_⟩
  · simpa [hslot] using h.conserved
  · intro t
    show pathsOf a.live t = ((((a.service.jobs ++ [_])[t]?).map _).getD [])
    rw [h.owned, ownedBy]
    rcases Nat.lt_trichotomy t a.service.jobs.length with ht | rfl | ht
    · simp [List.getElem?_append_left ht]
    · simp [howned]
    · rw [List.getElem?_append_right (Nat.le_of_lt ht), List.getElem?_eq_none (Nat.le_of_lt ht),
        List.getElem?_eq_none (by rw [List.length_singleton]; omega)]
  · intro job hjob
    rcases List.mem_append.1 hjob with hjob | hjob
    · exact h.tidy job hjob
    · rw [List.mem_singleton.1 hjob]
      exact htidy
  · intro job hjob hu
    rcases List.mem_append.1 hjob with hjob | hjob
    · exact h.turned_away job hjob hu
    · obtain rfl := List.mem_singleton.1 hjob
      exact hundetected hu

theorem Site.Admits.grant (h : a.Admits most) :
    Site.Admits most { a with service := a.service.grant } := by
  unfold Service.grant
  split
  · next slots ticket hslots hfirst =>
      split
      · next r isAwaited l hjob =>
          refine h.replace hjob rfl ?_ (h.pathsOf_eq hjob rfl) trivial (by simp)
          rw [hslots]
          rfl
      · exact h
  · exact h

theorem Site.Admits.begin (h : a.Admits most) (ticket : Nat) :
    Site.Admits most { a with service := a.service.begin ticket } := by
  unfold Service.begin
  split
  · next r isAwaited l hjob =>
      exact h.advance hjob rfl (owns_execution _ l r) (h.pathsOf_eq hjob rfl)
  · exact h

theorem exists_of_asked {v : Service} {action : Action} (h : v.asked ticket = some action) :
    ∃ r isAwaited next owned,
      v.jobs[ticket]? = some ⟨r, isAwaited, .executing (.ask action next) owned⟩ := by
  unfold asked at h
  split at h
  · next r isAwaited action' next owned hjob =>
      obtain rfl : action' = action := Option.some.inj h
      exact ⟨r, isAwaited, next, owned, hjob⟩
  · cases h

theorem Site.Admits.reply (h : a.Admits most) (host : (action : Action) → action.Reply)
    {action : Action} (hasked : a.service.asked ticket = some action) :
    Site.Admits most
      ⟨a.service.reply ticket host, liveAfter a.live ticket action (host action)⟩ := by
  obtain ⟨r, isAwaited, next, owned, hjob⟩ := exists_of_asked hasked
  have htidy : Owns _ owned (.ask action next) := h.tidy _ (List.mem_of_getElem? hjob)
  rw [Service.reply, Service.proceed]
  simp only [hjob]
  refine h.advance hjob rfl (htidy.2 (host action)) fun t => ?_
  rw [pathsOf_liveAfter, h.pathsOf_eq hjob rfl ticket, if_pos rfl]
  rfl

theorem Site.Admits.leave (h : a.Admits most) (ticket : Nat) :
    Site.Admits most { a with service := a.service.leave ticket } := by
  unfold Service.leave
  split
  · next r isAwaited l hjob =>
      exact h.replace hjob rfl rfl (h.pathsOf_eq hjob rfl) trivial (by simp)
  · next r isAwaited l hjob =>
      exact h.replace hjob rfl rfl (h.pathsOf_eq hjob rfl) trivial (by simp)
  · next job hwaiting hgranted hjob =>
      exact h.replace hjob rfl rfl (h.pathsOf_eq hjob rfl)
        (h.tidy job (List.mem_of_getElem? hjob)) id
  · exact h

theorem Site.Admits.breakDown (h : a.Admits most) (ticket : Nat) (reason : String) :
    Site.Admits most { a with service := a.service.breakDown ticket reason } := by
  unfold Service.breakDown
  split
  · next r isAwaited plan owned hjob =>
      have htidy : Owns _ owned plan := h.tidy _ (List.mem_of_getElem? hjob)
      exact h.advance hjob rfl (owns_cleanUp reason htidy.holds) (h.pathsOf_eq hjob rfl)
  · exact h

theorem Site.Admits.move (h : a.Admits most) (hm : Site.Moves a b) : b.Admits most := by
  cases hm with
  | arrive r => exact h.submit r
  | grant => exact h.grant
  | begin ticket => exact h.begin ticket
  | reply ticket host action hasked => exact h.reply host hasked
  | leave ticket => exact h.leave ticket
  | breakDown ticket reason => exact h.breakDown ticket reason

theorem Site.Admits.moves (h : a.Admits most) (hm : Relation.ReflTransGen Site.Moves a b) :
    b.Admits most := by
  induction hm with
  | refl => exact h
  | tail _ hm ih => exact ih.move hm

/-! ## From the start to the answer -/

/-- The execution of a ticket has started; it may have come to its end. -/
def HasStarted (v : Service) (ticket : Nat) : Prop :=
  ∃ job, v.jobs[ticket]? = some job ∧
    match job.progress with
    | .executing _ _ => True
    | .answered _ => True
    | _ => False

theorem HasStarted.holds_or_answered {v : Service} (h : v.HasStarted ticket) :
    ticket ∈ v.holders ∨ ∃ outcome, v.outcome? ticket = some outcome := by
  obtain ⟨⟨r, isAwaited, progress⟩, hjob, hstarted⟩ := h
  cases progress with
  | executing plan owned => exact .inl (mem_holders.2 ⟨_, hjob, rfl⟩)
  | answered outcome => exact .inr ⟨outcome, by simp [outcome?, hjob, Progress.outcome?]⟩
  | _ => exact hstarted.elim

/-- What has started stays started when a job is replaced, if it does for the replaced one. -/
theorem HasStarted.set {v : Service} {slots t : Nat} {new : Job} (h : v.HasStarted ticket)
    (hnew : v.HasStarted t →
      HasStarted { v with slots := slots, jobs := v.jobs.set t new } t) :
    HasStarted { v with slots := slots, jobs := v.jobs.set t new } ticket := by
  by_cases ht : t = ticket
  · subst ht
    exact hnew h
  · obtain ⟨job, hjob, hstarted⟩ := h
    exact ⟨job, by rw [← hjob]; exact List.getElem?_set_ne ht, hstarted⟩

theorem HasStarted.advance {v : Service} {t : Nat} {plan : Plan Outcome} {owned : List String}
    (h : v.HasStarted ticket) (hold : v.jobs[t]? = some old) :
    HasStarted (v.advance t job plan owned) ticket := by
  have hlt : t < v.jobs.length := (List.getElem?_eq_some_iff.1 hold).1
  cases plan with
  | done outcome => exact h.set fun _ => ⟨_, List.getElem?_set_self hlt, trivial⟩
  | ask action next => exact h.set fun _ => ⟨_, List.getElem?_set_self hlt, trivial⟩

theorem HasStarted.leave {v : Service} {t : Nat} (h : v.HasStarted ticket) :
    HasStarted (v.leave t) ticket := by
  unfold Service.leave
  split
  · next hjob =>
      refine h.set fun ⟨job, hj, hstarted⟩ => ?_
      obtain rfl := Option.some.inj (hjob.symm.trans hj)
      exact hstarted.elim
  · next hjob =>
      refine h.set fun ⟨job, hj, hstarted⟩ => ?_
      obtain rfl := Option.some.inj (hjob.symm.trans hj)
      exact hstarted.elim
  · next job hwaiting hgranted hjob =>
      refine h.set fun ⟨job', hj, hstarted⟩ => ?_
      obtain rfl := Option.some.inj (hjob.symm.trans hj)
      exact ⟨_, List.getElem?_set_self (List.getElem?_eq_some_iff.1 hjob).1, hstarted⟩
  · exact h

theorem HasStarted.move (hm : Site.Moves a b) (h : a.service.HasStarted ticket) :
    b.service.HasStarted ticket := by
  cases hm with
  | arrive r =>
      obtain ⟨job, hjob, hstarted⟩ := h
      have hlt := (List.getElem?_eq_some_iff.1 hjob).1
      exact ⟨job, by rw [← hjob]; exact List.getElem?_append_left hlt, hstarted⟩
  | grant =>
      show HasStarted (Service.grant _) ticket
      unfold Service.grant
      split
      · split
        · next hjob =>
            refine h.set fun ⟨job, hj, hstarted⟩ => ?_
            obtain rfl := Option.some.inj (hjob.symm.trans hj)
            exact hstarted.elim
        · exact h
      · exact h
  | begin t =>
      show HasStarted (Service.begin _ t) ticket
      unfold Service.begin
      split
      · next hjob => exact h.advance hjob
      · exact h
  | reply t host action hasked =>
      obtain ⟨r, isAwaited, next, owned, hjob⟩ := exists_of_asked hasked
      show HasStarted (Service.reply _ t host) ticket
      rw [Service.reply, Service.proceed]
      simp only [hjob]
      exact h.advance hjob
  | leave t => exact h.leave
  | breakDown t reason =>
      show HasStarted (Service.breakDown _ t reason) ticket
      unfold Service.breakDown
      split
      · next hjob => exact h.advance hjob
      · exact h

theorem HasStarted.moves (hm : Relation.ReflTransGen Site.Moves a b)
    (h : a.service.HasStarted ticket) : b.service.HasStarted ticket := by
  induction hm with
  | refl => exact h
  | tail _ hm ih => exact ih.move hm

/-! ## What is promised -/

theorem Site.Admits.ticket_live (h : a.Admits most) {path : String} (hl : (ticket, path) ∈ a.live) :
    ∃ r isAwaited plan owned,
      a.service.jobs[ticket]? = some ⟨r, isAwaited, .executing plan owned⟩ := by
  have hpath : path ∈ pathsOf a.live ticket :=
    List.mem_map.2 ⟨(ticket, path), List.mem_filter.2 ⟨hl, by simp⟩, rfl⟩
  rw [h.owned, ownedBy] at hpath
  cases hjob : a.service.jobs[ticket]? with
  | none => simp [hjob] at hpath
  | some job =>
      obtain ⟨r, isAwaited, progress⟩ := job
      cases progress with
      | executing plan owned => exact ⟨r, isAwaited, plan, owned, rfl⟩
      | _ => simp [hjob, Progress.owned] at hpath

/-- No ticket has two workspaces. -/
theorem Site.Admits.nodup_tickets (h : a.Admits most) : (a.live.map Prod.fst).Nodup := by
  rw [List.nodup_iff_count]
  intro ticket
  have hcount : (a.live.map Prod.fst).count ticket = (pathsOf a.live ticket).length := by
    rw [pathsOf, List.length_map, List.count_eq_countP, List.countP_map,
      List.countP_eq_length_filter]
    rfl
  rw [hcount, h.owned, ownedBy]
  cases hjob : a.service.jobs[ticket]? with
  | none => simp
  | some job =>
      have htidy := h.tidy job (List.mem_of_getElem? hjob)
      obtain ⟨r, isAwaited, progress⟩ := job
      cases progress with
      | executing plan owned =>
          have htidy : Owns _ owned plan := htidy
          exact htidy.holds
      | _ => simp [Progress.owned]

theorem Site.Admits.length_live_le (h : a.Admits most) :
    a.live.length ≤ a.service.holders.length := by
  have hsubset : a.live.map Prod.fst ⊆ a.service.holders := by
    intro ticket ht
    obtain ⟨⟨_, path⟩, hl, rfl⟩ := List.mem_map.1 ht
    obtain ⟨r, isAwaited, plan, owned, hjob⟩ := h.ticket_live hl
    exact mem_holders.2 ⟨_, hjob, rfl⟩
  simpa using (List.subperm_of_subset h.nodup_tickets hsubset).length_le

theorem not_mem_holders {v : Service} (hjob : v.jobs[ticket]? = some job)
    (h : job.progress.holdsSlot = false) : ticket ∉ v.holders := by
  intro hm
  obtain ⟨job', hjob', hslot⟩ := mem_holders.1 hm
  obtain rfl := Option.some.inj (hjob.symm.trans hjob')
  rw [h] at hslot
  cases hslot

theorem Site.Admits.conserves (h : a.Admits most) : a.Conserves most where
  conserved := by
    rw [length_holders]
    exact h.conserved
  live_held ticket path hl := by
    obtain ⟨r, isAwaited, plan, owned, hjob⟩ := h.ticket_live hl
    exact ⟨mem_holders.2 ⟨_, hjob, rfl⟩, r, isAwaited, plan, owned, hjob⟩
  few_live := by
    have hlive := h.length_live_le
    have hconserved := h.conserved
    rw [length_holders] at hlive
    omega
  leave_keeps ticket r isAwaited plan owned hjob := by
    rw [Service.leave]
    simp only [hjob]
    exact ⟨rfl, List.getElem?_set_self (List.getElem?_eq_some_iff.1 hjob).1⟩
  held_until_answer b hm ticket r isAwaited plan owned hjob := by
    have hstarted : a.service.HasStarted ticket := ⟨_, hjob, trivial⟩
    exact (hstarted.moves hm).holds_or_answered
  undetected_free ticket job hjob hu := by
    refine not_mem_holders hjob ?_
    rw [h.turned_away job (List.mem_of_getElem? hjob) hu]
    rfl
  answered_free ticket outcome ho := by
    obtain ⟨job, hjob, ho⟩ := Option.bind_eq_some_iff.1 ho
    obtain ⟨r, isAwaited, progress⟩ := job
    cases progress with
    | answered outcome' =>
        refine ⟨not_mem_holders hjob rfl, fun path hl => ?_⟩
        obtain ⟨r', isAwaited', plan, owned, hjob'⟩ := h.ticket_live hl
        rw [hjob] at hjob'
        cases hjob'
    | _ => cases ho
  quiet_full hq := by
    have hnone : (a.service.jobs.countP fun job => job.progress.holdsSlot) = 0 := by
      rw [List.countP_eq_zero]
      intro job hjob
      have hjob := List.all_eq_true.1 hq job hjob
      simp only [Bool.and_eq_true, Bool.not_eq_true'] at hjob
      simp [hjob.1]
    have hconserved := h.conserved
    omega

/-- In all that can come of a service, slots and workspaces are accounted for. -/
theorem conserves_of_moves {s : Settings} {v : Service} {a : Site} (h : start s = .ready v)
    (hm : Relation.ReflTransGen Site.Moves ⟨v, []⟩ a) : a.Conserves s.maxConcurrent := by
  obtain rfl := eq_of_start h
  exact ((admits_start s).moves hm).conserves

/-- A host that grants all it is asked for, up to the start of a process. -/
def obliging : (action : Action) → action.Reply
  | .locate program => some program
  | .drawId => "7"
  | .createTree _ => .ok ()
  | .createPrivate _ => .ok ()
  | .write _ _ => .ok ()
  | .watch _ _ => .error .notFound
  | .killGroup _ => ()
  | .killProcess _ => ()
  | .remove _ => ()

/-- A caller leaves whose request has made its workspace: it is there and holds one of ten slots. -/
theorem conserves_of_moves_left_behind :
    let begun : Service := ((Service.mk Settings.default 10 []).submit
      (.inLanguage .python "print(1)")).grant.begin 0
    let made := (((begun.reply 0 obliging).reply 0 obliging).reply 0 obliging).reply 0 obliging
    let a : Site := ⟨made.leave 0, [(0, Workspace.pathOf "/tmp" "7")]⟩
    a.Conserves 10 ∧ a.service.slots = 9 ∧ a.service.holders = [0] := by
  intro begun made a
  have harrived := Relation.ReflTransGen.refl.tail
    (Site.Moves.arrive ⟨⟨Settings.default, 10, []⟩, []⟩ (.inLanguage .python "print(1)"))
  have hbegun := (harrived.tail (.grant _)).tail (.begin _ 0)
  have hfound := hbegun.tail (.reply _ 0 obliging (.locate "python3") (by decide +kernel))
  have hdrawn := hfound.tail (.reply _ 0 obliging .drawId (by decide +kernel))
  have hrooted := hdrawn.tail (.reply _ 0 obliging (.createTree "/tmp") (by decide +kernel))
  have hmade := hrooted.tail
    (.reply _ 0 obliging (.createPrivate (Workspace.pathOf "/tmp" "7")) (by decide +kernel))
  have hleft := hmade.tail (.leave _ 0)
  exact ⟨conserves_of_moves (s := Settings.default) rfl hleft, by decide +kernel,
    by decide +kernel⟩

end Playground.Service
