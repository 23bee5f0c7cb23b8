import Playground.Proofs.Machine.World
import Playground.Proofs.Service.Admission

set_option autoImplicit false

/-! # Going on to the end

A `Room` is a service together with the files of the host that it is on. Requests arrive, wait,
start, go on and are left by their callers, in any order. Whatever has happened, the service can go
on until each request whose caller is still there is answered (`exists_finished`): every execution
comes to an end, and then its slot is free for the one that has waited longest. -/

namespace Playground.Service

open Machine

/-! ## Rooms and their moves -/

/-- A service with the files of its host, and the requests in the order in which they came. -/
structure Room where
  service : Service
  files : FileSystem
  arrived : List Request

/-- What the service does next. The execution of each ticket has an identifier of its own. -/
inductive Room.Stage (w : World) (ids : Nat → String) : Room → Room → Prop where
  | grant (a : Room) : Stage w ids a { a with service := a.service.grant }
  | begin (a : Room) (ticket : Nat) : Stage w ids a { a with service := a.service.begin ticket }
  | reply (a : Room) (ticket : Nat) (action : Action) (h : a.service.asked ticket = some action) :
      Stage w ids a { a with
        service := a.service.reply ticket fun action => (w.serve (ids ticket) a.files action).1
        files := (w.serve (ids ticket) a.files action).2 }

inductive Room.Moves (w : World) (ids : Nat → String) : Room → Room → Prop where
  | arrive (a : Room) (r : Request) :
      Moves w ids a { a with service := a.service.submit r, arrived := a.arrived ++ [r] }
  | leave (a : Room) (ticket : Nat) :
      Moves w ids a { a with service := a.service.leave ticket }
  | stage {a b : Room} (h : Room.Stage w ids a b) : Moves w ids a b

variable {w : World} {ids : Nat → String} {s : Settings} {a b : Room} {ticket most : Nat}
  {job : Job}

/-! ## What every move keeps -/

/-- An execution always asks for something, and a request is not withdrawn but by its caller. -/
def CanGoOn (job : Job) : Prop :=
  match job.progress with
  | .executing plan _ => ∃ action next, plan = .ask action next
  | .withdrawn => job.isAwaited = false
  | _ => True

def IsOrderly (v : Service) : Prop := ∀ job ∈ v.jobs, CanGoOn job

section IsOrderly

variable {v : Service} (h : v.IsOrderly)

include h

theorem IsOrderly.set {slots : Nat} {new : Job} (hnew : CanGoOn new) :
    IsOrderly { v with slots := slots, jobs := v.jobs.set ticket new } := by
  intro job hjob
  rcases List.mem_or_eq_of_mem_set hjob with hjob | rfl
  · exact h job hjob
  · exact hnew

theorem IsOrderly.advance (plan : Plan Outcome) (owned : List String) :
    IsOrderly (v.advance ticket job plan owned) := by
  cases plan with
  | done outcome => exact h.set trivial
  | ask action next => exact h.set ⟨action, next, rfl⟩

theorem IsOrderly.submit (r : Request) : IsOrderly (v.submit r) := by
  intro job hjob
  rcases List.mem_append.1 hjob with hjob | hjob
  · exact h job hjob
  · obtain rfl := List.mem_singleton.1 hjob
    unfold CanGoOn
    cases languageOf r <;> trivial

theorem IsOrderly.grant : IsOrderly v.grant := by
  unfold Service.grant
  split
  · split
    · exact h.set trivial
    · exact h
  · exact h

theorem IsOrderly.begin (ticket : Nat) : IsOrderly (v.begin ticket) := by
  unfold Service.begin
  split
  · exact h.advance _ _
  · exact h

theorem IsOrderly.reply (ticket : Nat) (host : (action : Action) → action.Reply) :
    IsOrderly (v.reply ticket host) := by
  unfold Service.reply proceed
  split
  · exact h.advance _ _
  · exact h

theorem IsOrderly.leave (ticket : Nat) : IsOrderly (v.leave ticket) := by
  unfold Service.leave
  split
  · exact h.set rfl
  · exact h.set rfl
  · next job hwaiting hgranted hjob =>
      have hold := h job (List.mem_of_getElem? hjob)
      refine h.set ?_
      obtain ⟨r, isAwaited, progress⟩ := job
      cases progress with
      | executing plan owned => exact hold
      | withdrawn => rfl
      | waiting l => trivial
      | granted l => trivial
      | answered outcome => trivial
  · exact h

end IsOrderly

theorem IsOrderly.moves (h : a.service.IsOrderly)
    (hm : Relation.ReflTransGen (Room.Moves w ids) a b) : b.service.IsOrderly := by
  induction hm with
  | refl => exact h
  | tail _ hmove ih =>
      cases hmove with
      | arrive r => exact ih.submit r
      | leave ticket => exact ih.leave ticket
      | stage hstage =>
          cases hstage with
          | grant => exact ih.grant
          | begin ticket => exact ih.begin ticket
          | reply ticket action hasked => exact ih.reply ticket _

/-- A room moves as the site of its service does, so its slots are accounted for. -/
theorem Room.Moves.site (hm : Room.Moves w ids a b) (live : List (Nat × String)) :
    ∃ live', Site.Moves ⟨a.service, live⟩ ⟨b.service, live'⟩ := by
  cases hm with
  | arrive r => exact ⟨live, .arrive ⟨a.service, live⟩ r⟩
  | leave ticket => exact ⟨live, .leave ⟨a.service, live⟩ ticket⟩
  | stage h =>
      cases h with
      | grant => exact ⟨live, .grant ⟨a.service, live⟩⟩
      | begin ticket => exact ⟨live, .begin ⟨a.service, live⟩ ticket⟩
      | reply ticket action hasked => exact ⟨_, .reply ⟨a.service, live⟩ ticket _ action hasked⟩

theorem exists_admits (h : ∃ live, Site.Admits most ⟨a.service, live⟩)
    (hm : Relation.ReflTransGen (Room.Moves w ids) a b) :
    ∃ live, Site.Admits most ⟨b.service, live⟩ := by
  induction hm with
  | refl => exact h
  | tail _ hmove ih =>
      obtain ⟨live, hadmits⟩ := ih
      obtain ⟨live', hsite⟩ := hmove.site live
      exact ⟨live', hadmits.move hsite⟩

theorem moves_of_stages (h : Relation.ReflTransGen (Room.Stage w ids) a b) :
    Relation.ReflTransGen (Room.Moves w ids) a b :=
  Relation.ReflTransGen.mono (fun _ _ => Room.Moves.stage) _ _ h

/-! ## Coming to the end -/

/-- An execution is replied to, and takes up the rest of its plan. -/
theorem stage_of_serve (ticket : Nat) {r : Request} {isAwaited : Bool} {action : Action}
    {next : action.Reply → Plan Outcome} {owned : List String} {reply : action.Reply}
    {files : FileSystem}
    (hjob : a.service.jobs[ticket]? = some ⟨r, isAwaited, .executing (.ask action next) owned⟩)
    (hserve : w.serve (ids ticket) a.files action = (reply, files)) :
    Room.Stage w ids a { a with
      service := a.service.advance ticket ⟨r, isAwaited, .executing (.ask action next) owned⟩
        (next reply) (ownedAfter owned action reply)
      files := files } := by
  have hasked : a.service.asked ticket = some action := by
    simp only [asked, hjob]
  have hstage : Room.Stage w ids a _ := .reply a ticket action hasked
  simpa only [Service.reply, proceed, hjob, hserve] using hstage

/-- An execution that has taken up a plan can go on to its end with nobody between. -/
theorem exists_answered_of_advance (hjob : a.service.jobs[ticket]? = some job) (plan : Plan Outcome)
    (owned : List String) :
    ∃ b, Relation.ReflTransGen (Room.Stage w ids)
        { a with service := a.service.advance ticket job plan owned } b ∧
      b.service.jobs = a.service.jobs.set ticket
        { job with progress := .answered (w.run (ids ticket) a.files plan) } ∧
      b.arrived = a.arrived := by
  induction plan generalizing a job owned with
  | done outcome => exact ⟨_, .refl, rfl, rfl⟩
  | ask action next ih =>
      let asking : Room :=
        { a with service := a.service.advance ticket job (.ask action next) owned }
      have hasking : asking.service.jobs[ticket]? =
          some { job with progress := .executing (.ask action next) owned } :=
        List.getElem?_set_self (List.getElem?_eq_some_iff.1 hjob).1
      obtain ⟨b, hstages, hjobs, harrived⟩ :=
        ih _ (a := { asking with files := (w.serve (ids ticket) a.files action).2 }) hasking _
      refine ⟨b, .head (stage_of_serve ticket hasking rfl) hstages, ?_, harrived⟩
      rw [hjobs]
      exact List.set_set ..

/-- A request that holds a slot is answered in the end. -/
theorem exists_answered_of_holdsSlot (h : a.service.IsOrderly)
    (hjob : a.service.jobs[ticket]? = some job) (hslot : job.progress.holdsSlot = true) :
    ∃ b outcome, Relation.ReflTransGen (Room.Stage w ids) a b ∧
      b.service.jobs = a.service.jobs.set ticket { job with progress := .answered outcome } ∧
      b.arrived = a.arrived := by
  have hcan := h job (List.mem_of_getElem? hjob)
  obtain ⟨r, isAwaited, progress⟩ := job
  cases progress with
  | granted l =>
      have hbegin : a.service.begin ticket = a.service.advance ticket ⟨r, isAwaited, .granted l⟩
          (execution a.service.settings l r) [] := by
        simp only [Service.begin, hjob]
      obtain ⟨b, hstages, hrest⟩ := exists_answered_of_advance hjob _ _
      rw [← hbegin] at hstages
      exact ⟨b, _, .head (.begin a ticket) hstages, hrest⟩
  | executing plan owned =>
      obtain ⟨action, next, rfl⟩ := hcan
      obtain ⟨b, hstages, hrest⟩ := exists_answered_of_advance
        (a := { a with files := (w.serve (ids ticket) a.files action).2 }) hjob _ _
      exact ⟨b, _, .head (stage_of_serve ticket hjob rfl) hstages, hrest⟩
  | _ => cases hslot

/-- Is an answer still to come? -/
def isUnsettled (job : Job) : Bool := job.progress.holdsSlot || job.progress.isWaiting

/-- If an answer is still to come, one more request can be answered. -/
theorem exists_answered (h : a.service.IsOrderly) (hmost : 0 < most)
    (hslots : a.service.slots + (a.service.jobs.countP fun job => job.progress.holdsSlot) = most)
    (hjobs : 0 < a.service.jobs.countP isUnsettled) :
    ∃ b ticket job outcome, Relation.ReflTransGen (Room.Stage w ids) a b ∧
      a.service.jobs[ticket]? = some job ∧ isUnsettled job = true ∧
      b.service.jobs = a.service.jobs.set ticket { job with progress := .answered outcome } ∧
      b.arrived = a.arrived := by
  by_cases hheld : ∃ job ∈ a.service.jobs, job.progress.holdsSlot = true
  · obtain ⟨job, hmem, hslot⟩ := hheld
    obtain ⟨ticket, hjob⟩ := List.mem_iff_getElem?.1 hmem
    obtain ⟨b, outcome, hstages, hrest⟩ := exists_answered_of_holdsSlot h hjob hslot
    exact ⟨b, ticket, job, outcome, hstages, hjob, by simp [isUnsettled, hslot], hrest⟩
  · -- all slots are free, and one of them is for the request that has waited longest
    have hnone : (a.service.jobs.countP fun job => job.progress.holdsSlot) = 0 :=
      List.countP_eq_zero.2 fun job hmem hslot => hheld ⟨job, hmem, hslot⟩
    obtain ⟨slots, hfree⟩ : ∃ slots, a.service.slots = slots + 1 :=
      Nat.exists_eq_add_one.2 (by omega)
    obtain ⟨ticket, hfirst⟩ : ∃ ticket,
        (a.service.jobs.findIdx? fun job => job.progress.isWaiting) = some ticket := by
      obtain ⟨job, hmem, hunsettled⟩ := List.countP_pos_iff.1 hjobs
      rw [← Option.isSome_iff_exists, List.findIdx?_isSome, List.any_eq_true]
      rcases Bool.or_eq_true_iff.1 hunsettled with hslot | hwaiting
      · exact absurd ⟨job, hmem, hslot⟩ hheld
      · exact ⟨job, hmem, hwaiting⟩
    obtain ⟨hlt, hwaiting, -⟩ := List.findIdx?_eq_some_iff_getElem.1 hfirst
    obtain ⟨r, isAwaited, l, hjob⟩ : ∃ r isAwaited l,
        a.service.jobs[ticket]? = some ⟨r, isAwaited, .waiting l⟩ := by
      rw [List.getElem?_eq_getElem hlt]
      generalize a.service.jobs[ticket] = job at hwaiting
      obtain ⟨r, isAwaited, progress⟩ := job
      cases progress with
      | waiting l => exact ⟨r, isAwaited, l, rfl⟩
      | _ => cases hwaiting
    have hgrant : a.service.grant = { a.service with
        slots := slots, jobs := a.service.jobs.set ticket ⟨r, isAwaited, .granted l⟩ } := by
      simp only [Service.grant, hfree, hfirst, hjob]
    have hgranted : a.service.grant.jobs[ticket]? = some ⟨r, isAwaited, .granted l⟩ := by
      rw [hgrant]
      exact List.getElem?_set_self hlt
    obtain ⟨b, outcome, hstages, hanswered, harrived⟩ :=
      exists_answered_of_holdsSlot (a := { a with service := a.service.grant }) h.grant hgranted rfl
    refine ⟨b, ticket, ⟨r, isAwaited, .waiting l⟩, outcome, .head (.grant a) hstages, hjob, rfl, ?_,
      harrived⟩
    rw [hanswered, hgrant]
    exact List.set_set ..

/-- Nothing about the requests changes but how far they have come. -/
def Advances (v v' : Service) : Prop :=
  ∀ (ticket : Nat) (job : Job), v.jobs[ticket]? = some job →
    ∃ progress, v'.jobs[ticket]? = some { job with progress := progress }

theorem Advances.trans {v v' v'' : Service} (h : Advances v v') (h' : Advances v' v'') :
    Advances v v'' := by
  intro ticket job hjob
  obtain ⟨progress, hjob'⟩ := h ticket job hjob
  obtain ⟨progress', hjob''⟩ := h' ticket _ hjob'
  exact ⟨progress', hjob''⟩

theorem advances_of_set {v v' : Service} {progress : Progress} (hjob : v.jobs[ticket]? = some job)
    (h : v'.jobs = v.jobs.set ticket { job with progress := progress }) : Advances v v' := by
  intro t old hold
  rw [h]
  by_cases ht : ticket = t
  · subst ht
    obtain rfl := Option.some.inj (hjob.symm.trans hold)
    exact ⟨progress, List.getElem?_set_self (List.getElem?_eq_some_iff.1 hjob).1⟩
  · exact ⟨old.progress, by rw [List.getElem?_set_ne ht, hold]⟩

theorem isQuiet_of_countP {v : Service} (h : v.jobs.countP isUnsettled = 0) : v.isQuiet = true := by
  refine List.all_eq_true.2 fun job hmem => ?_
  simpa [isUnsettled] using List.countP_eq_zero.1 h job hmem

/-- Whatever has happened, a service can go on until nothing is left to do. -/
theorem exists_quiet (h : a.service.IsOrderly) (hmost : 0 < most)
    (hadmits : ∃ live, Site.Admits most ⟨a.service, live⟩) :
    ∃ b, Relation.ReflTransGen (Room.Stage w ids) a b ∧ b.arrived = a.arrived ∧
      Advances a.service b.service ∧ b.service.isQuiet = true := by
  induction hcount : a.service.jobs.countP isUnsettled using Nat.strong_induction_on
    generalizing a with
  | _ n ih =>
      obtain ⟨live, hsite⟩ := hadmits
      rcases Nat.eq_zero_or_pos n with rfl | hpos
      · exact ⟨a, .refl, rfl, fun _ job hjob => ⟨job.progress, hjob⟩, isQuiet_of_countP hcount⟩
      · -- one more is answered, so that fewer are left
        obtain ⟨b, ticket, job, outcome, hstages, hjob, hunsettled, hjobs, harrived⟩ :=
          exists_answered (w := w) h hmost hsite.conserved (hcount ▸ hpos)
        have hfewer : b.service.jobs.countP isUnsettled < n := by
          have hset := countP_set_add isUnsettled { job with progress := .answered outcome } hjob
          rw [← hjobs, hunsettled, hcount] at hset
          simp [isUnsettled, Progress.holdsSlot, Progress.isWaiting] at hset
          omega
        have hmoves := moves_of_stages hstages
        obtain ⟨c, hstages', harrived', hadvances, hquiet⟩ :=
          ih _ hfewer (h.moves hmoves) (exists_admits ⟨live, hsite⟩ hmoves) rfl
        exact ⟨c, hstages.trans hstages', harrived'.trans harrived,
          (advances_of_set hjob hjobs).trans hadvances, hquiet⟩

/-- A request whose caller is there has an answer when nothing is left to do. -/
theorem exists_finished (h : a.service.IsOrderly) (hmost : 0 < most)
    (hadmits : ∃ live, Site.Admits most ⟨a.service, live⟩) :
    ∃ b, Relation.ReflTransGen (Room.Stage w ids) a b ∧ b.arrived = a.arrived ∧
      ∀ ticket job, a.service.jobs[ticket]? = some job → job.isAwaited = true →
        ∃ outcome, b.service.outcome? ticket = some outcome := by
  obtain ⟨b, hstages, harrived, hadvances, hquiet⟩ := exists_quiet h hmost hadmits
  refine ⟨b, hstages, harrived, fun ticket job hjob hawaited => ?_⟩
  obtain ⟨progress, hjob'⟩ := hadvances ticket job hjob
  have hmem := List.mem_of_getElem? hjob'
  have hsettled := List.all_eq_true.1 hquiet _ hmem
  have hcan := h.moves (moves_of_stages hstages) _ hmem
  cases progress with
  | answered outcome => exact ⟨outcome, by simp [outcome?, hjob', Progress.outcome?]⟩
  | withdrawn => exact absurd (hawaited.symm.trans hcan) (by simp)
  | _ => cases hsettled

end Playground.Service
