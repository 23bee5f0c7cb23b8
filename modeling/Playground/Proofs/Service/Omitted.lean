import Playground.Proofs.Http.Answers
import Playground.Proofs.Service.Untouched

set_option autoImplicit false

/-! # Leaving out the language

A request that names no language is treated as if it named the one that its code is found to be in:
once it has arrived, nothing that a service does depends on what the request said, but only on what
was found. So a service that has forgotten what its requests said goes on as before
(`Service.unnamed`), and two services that differ in nothing else ask the same of the same host, in
the same order, and give the same answers (`Turn.AreAlike.play`).

A request whose language cannot be told is answered when it arrives, whether or not a slot is free,
and stays answered; nothing that happens later has to do with it (`IsTurnedAway`). -/

namespace Playground

/-! ## Turns -/

/-- What can happen next where a service runs. The host answers for each ticket as it likes, by what
    has happened to it so far. -/
inductive Turn (σ : Type) where
  | arrive (r : Request)
  | grant
  | begin (ticket : Nat)
  | proceed (ticket : Nat)
  | leave (ticket : Nat)
  | breakDown (ticket : Nat) (reason : String)
  /-- Something happens to the host by itself. -/
  | stir (change : σ → σ)

namespace Turn

variable {σ : Type}

def apply (host : Nat → Service.Host σ) (turn : Turn σ) (a : Service × σ) : Service × σ :=
  match turn with
  | .arrive r => (a.1.submit r, a.2)
  | .grant => (a.1.grant, a.2)
  | .begin ticket => (a.1.begin ticket, a.2)
  | .proceed ticket => a.1.proceed ticket (host ticket) a.2
  | .leave ticket => (a.1.leave ticket, a.2)
  | .breakDown ticket reason => (a.1.breakDown ticket reason, a.2)
  | .stir change => (a.1, change a.2)

/-- One turn after the other. -/
def play (host : Nat → Service.Host σ) (turns : List (Turn σ)) (a : Service × σ) : Service × σ :=
  turns.foldl (fun a turn => turn.apply host a) a

end Turn

/-! ## Forgetting what was said -/

/-- The job without the language that its request names. -/
def Job.unnamed (job : Job) : Job := { job with request := { job.request with language := none } }

namespace Service

/-- The service without the languages that its requests name. -/
def unnamed (v : Service) : Service := { v with jobs := v.jobs.map Job.unnamed }

variable {v w : Service} {ticket : Nat} {job : Job} {code : String} {input : Option String}
  {l : Language}

theorem getElem?_unnamed (v : Service) (ticket : Nat) :
    v.unnamed.jobs[ticket]? = (v.jobs[ticket]?).map Job.unnamed :=
  List.getElem?_map ..

theorem unnamed_set (v : Service) (slots ticket : Nat) (job : Job) :
    unnamed { v with slots := slots, jobs := v.jobs.set ticket job } =
      { v.unnamed with slots := slots, jobs := v.unnamed.jobs.set ticket job.unnamed } := by
  simp [unnamed, List.map_set]

theorem unnamed_submit (v : Service) (r : Request) :
    (v.submit r).unnamed =
      { v.unnamed with jobs := v.unnamed.jobs ++ [Job.unnamed ⟨r, true, arrival r⟩] } := by
  show unnamed { v with jobs := v.jobs ++ [⟨r, true, arrival r⟩] } = _
  simp [unnamed]

theorem unnamed_advance (v : Service) (ticket : Nat) (job : Job) (plan : Plan Outcome)
    (owned : List String) :
    (v.advance ticket job plan owned).unnamed =
      v.unnamed.advance ticket job.unnamed plan owned := by
  cases plan with
  | done outcome => exact unnamed_set v _ ticket _
  | ask action next => exact unnamed_set v v.slots ticket _

theorem unnamed_grant (v : Service) : v.grant.unnamed = v.unnamed.grant := by
  have hfind : v.unnamed.jobs.findIdx? (fun job => job.progress.isWaiting) =
      v.jobs.findIdx? fun job => job.progress.isWaiting := List.findIdx?_map ..
  have hslots : v.unnamed.slots = v.slots := rfl
  unfold grant
  rw [hfind, hslots]
  cases v.slots with
  | zero => rfl
  | succ slots =>
      cases v.jobs.findIdx? fun job => job.progress.isWaiting with
      | none => rfl
      | some ticket =>
          dsimp only
          rw [getElem?_unnamed]
          cases v.jobs[ticket]? with
          | none => rfl
          | some job =>
              obtain ⟨r, isAwaited, progress⟩ := job
              cases progress with
              | waiting l => exact unnamed_set v slots ticket _
              | _ => rfl

theorem unnamed_begin (v : Service) (ticket : Nat) :
    (v.begin ticket).unnamed = v.unnamed.begin ticket := by
  unfold begin
  rw [getElem?_unnamed]
  cases v.jobs[ticket]? with
  | none => rfl
  | some job =>
      obtain ⟨r, isAwaited, progress⟩ := job
      cases progress with
      | granted l => exact unnamed_advance v ticket _ _ _
      | _ => rfl

theorem unnamed_proceed {σ : Type} (v : Service) (ticket : Nat) (host : Host σ) (s : σ) :
    v.unnamed.proceed ticket host s =
      ((v.proceed ticket host s).1.unnamed, (v.proceed ticket host s).2) := by
  unfold proceed
  rw [getElem?_unnamed]
  cases v.jobs[ticket]? with
  | none => rfl
  | some job =>
      obtain ⟨r, isAwaited, progress⟩ := job
      cases progress with
      | executing plan owned =>
          cases plan with
          | done outcome => rfl
          | ask action next =>
              simp only [Option.map_some, Job.unnamed]
              cases host action s with
              | mk answer s' =>
                  cases answer with
                  | none => rfl
                  | some answer =>
                      dsimp only
                      rw [unnamed_advance]
                      rfl
      | _ => rfl

theorem unnamed_leave (v : Service) (ticket : Nat) :
    (v.leave ticket).unnamed = v.unnamed.leave ticket := by
  unfold leave
  rw [getElem?_unnamed]
  cases v.jobs[ticket]? with
  | none => rfl
  | some job =>
      obtain ⟨r, isAwaited, progress⟩ := job
      cases progress with
      | granted l => exact unnamed_set v (v.slots + 1) ticket _
      | _ => exact unnamed_set v v.slots ticket _

theorem unnamed_breakDown (v : Service) (ticket : Nat) (reason : String) :
    (v.breakDown ticket reason).unnamed = v.unnamed.breakDown ticket reason := by
  unfold breakDown
  rw [getElem?_unnamed]
  cases v.jobs[ticket]? with
  | none => rfl
  | some job =>
      obtain ⟨r, isAwaited, progress⟩ := job
      cases progress with
      | executing plan owned => exact unnamed_advance v ticket _ _ _
      | _ => rfl

end Service

namespace Turn

variable {σ : Type} {host : Nat → Service.Host σ} {a b : Service × σ}

/-- The same, but for the languages that requests name. -/
def AreAlike (a b : Service × σ) : Prop := a.1.unnamed = b.1.unnamed ∧ a.2 = b.2

/-- No turn looks at the languages that requests name. -/
theorem AreAlike.apply (h : AreAlike a b) (turn : Turn σ) :
    AreAlike (turn.apply host a) (turn.apply host b) := by
  obtain ⟨v, s⟩ := a
  obtain ⟨w, s'⟩ := b
  obtain ⟨hv, hs⟩ := h
  dsimp only at hv hs
  subst hs
  cases turn with
  | arrive r =>
      refine ⟨?_, rfl⟩
      show (v.submit r).unnamed = (w.submit r).unnamed
      rw [Service.unnamed_submit, Service.unnamed_submit, hv]
  | grant =>
      refine ⟨?_, rfl⟩
      show v.grant.unnamed = w.grant.unnamed
      rw [Service.unnamed_grant, Service.unnamed_grant, hv]
  | begin ticket =>
      refine ⟨?_, rfl⟩
      show (v.begin ticket).unnamed = (w.begin ticket).unnamed
      rw [Service.unnamed_begin, Service.unnamed_begin, hv]
  | proceed ticket =>
      have hproceed := Service.unnamed_proceed v ticket (host ticket) s
      rw [hv, Service.unnamed_proceed] at hproceed
      obtain ⟨hunnamed, hstate⟩ := Prod.mk.inj hproceed
      exact ⟨hunnamed.symm, hstate.symm⟩
  | leave ticket =>
      refine ⟨?_, rfl⟩
      show (v.leave ticket).unnamed = (w.leave ticket).unnamed
      rw [Service.unnamed_leave, Service.unnamed_leave, hv]
  | breakDown ticket reason =>
      refine ⟨?_, rfl⟩
      show (v.breakDown ticket reason).unnamed = (w.breakDown ticket reason).unnamed
      rw [Service.unnamed_breakDown, Service.unnamed_breakDown, hv]
  | stir change => exact ⟨hv, rfl⟩

theorem AreAlike.play (h : AreAlike a b) (turns : List (Turn σ)) :
    AreAlike (play host turns a) (play host turns b) := by
  induction turns generalizing a b with
  | nil => exact h
  | cons turn turns ih => exact ih (h.apply turn)

/-- Nobody can tell the two apart: the host has come to the same state, as many slots are free, and
    each request is where it is in the other, with the same answer if it has one. -/
structure AreIndistinct (a b : Service × σ) : Prop where
  host : a.2 = b.2
  slots : a.1.slots = b.1.slots
  progress : ∀ ticket : Nat,
    (a.1.jobs[ticket]?).map Job.progress = (b.1.jobs[ticket]?).map Job.progress
  outcome : ∀ ticket, a.1.outcome? ticket = b.1.outcome? ticket
  asked : ∀ ticket, a.1.asked ticket = b.1.asked ticket
  holders : a.1.holders = b.1.holders

theorem AreAlike.areIndistinct (h : AreAlike a b) : AreIndistinct a b := by
  obtain ⟨v, s⟩ := a
  obtain ⟨w, s'⟩ := b
  obtain ⟨hv, hs⟩ := h
  dsimp only at hv
  have hprogress (v : Service) (ticket : Nat) :
      (v.unnamed.jobs[ticket]?).map Job.progress = (v.jobs[ticket]?).map Job.progress := by
    rw [Service.getElem?_unnamed, Option.map_map]
    rfl
  have houtcome (v : Service) (ticket : Nat) : v.unnamed.outcome? ticket = v.outcome? ticket := by
    rw [Service.outcome?, Service.getElem?_unnamed, Service.outcome?]
    cases v.jobs[ticket]? <;> rfl
  have hasked (v : Service) (ticket : Nat) : v.unnamed.asked ticket = v.asked ticket := by
    rw [Service.asked, Service.getElem?_unnamed, Service.asked]
    cases v.jobs[ticket]? with
    | none => rfl
    | some job =>
        obtain ⟨r, isAwaited, progress⟩ := job
        cases progress with
        | executing plan owned => cases plan <;> rfl
        | _ => rfl
  have hholders (v : Service) : v.unnamed.holders = v.holders := by
    have hlength : v.unnamed.jobs.length = v.jobs.length := List.length_map ..
    unfold Service.holders
    rw [hlength]
    refine List.filter_congr fun ticket _ => ?_
    rw [Service.getElem?_unnamed]
    cases v.jobs[ticket]? <;> rfl
  refine ⟨hs, ?_, fun ticket => ?_, fun ticket => ?_, fun ticket => ?_, ?_⟩
  · show v.unnamed.slots = w.unnamed.slots
    rw [hv]
  · rw [← hprogress v, hv, hprogress w]
  · rw [← houtcome v, hv, houtcome w]
  · rw [← hasked v, hv, hasked w]
  · rw [← hholders v, hv, hholders w]

end Turn

namespace Service

variable {v : Service} {ticket : Nat} {code : String} {input : Option String} {l : Language}
  {outcome : Outcome}

/-- What is found in the code is what the request could have said. -/
theorem unnamed_submit_eq (h : Source.detect code = .found l) (v : Service)
    (input : Option String) :
    (v.submit ⟨code, none, input⟩).unnamed = (v.submit ⟨code, some l, input⟩).unnamed := by
  have harrival : arrival ⟨code, none, input⟩ = arrival ⟨code, some l, input⟩ := by
    simp only [arrival, languageOf, h]
  rw [unnamed_submit, unnamed_submit, harrival]
  rfl

/-! ## What cannot be told -/

/-- An answer is not taken back when a job is replaced that had none, or that keeps it. -/
theorem outcome?_set {slots t : Nat} {old new : Job} (h : v.outcome? ticket = some outcome)
    (hold : v.jobs[t]? = some old)
    (hnew : old.progress.outcome? = none ∨ new.progress = old.progress) :
    outcome? { v with slots := slots, jobs := v.jobs.set t new } ticket = some outcome := by
  have hlt : t < v.jobs.length := (List.getElem?_eq_some_iff.1 hold).1
  unfold outcome? at h ⊢
  by_cases ht : t = ticket
  · subst ht
    rw [hold] at h
    rcases hnew with hnone | hsame
    · rw [Option.bind_some, hnone] at h
      cases h
    · rw [List.getElem?_set_self hlt, Option.bind_some, hsame]
      exact h
  · rw [List.getElem?_set_ne ht]
    exact h

theorem outcome?_advance {t : Nat} {old : Job} {plan : Plan Outcome} {owned : List String}
    (h : v.outcome? ticket = some outcome) (hold : v.jobs[t]? = some old)
    (hnone : old.progress.outcome? = none) :
    (v.advance t old plan owned).outcome? ticket = some outcome := by
  cases plan with
  | done o => exact outcome?_set h hold (.inl hnone)
  | ask action next => exact outcome?_set h hold (.inl hnone)

theorem outcome?_proceed {σ : Type} (h : v.outcome? ticket = some outcome) (t : Nat)
    (host : Host σ) (s : σ) : (v.proceed t host s).1.outcome? ticket = some outcome := by
  unfold proceed
  split
  · next hold =>
      split
      · exact h
      · exact outcome?_advance h hold rfl
  · exact h

theorem outcome?_leave (h : v.outcome? ticket = some outcome) (t : Nat) :
    (v.leave t).outcome? ticket = some outcome := by
  unfold leave
  split
  · next hold => exact outcome?_set h hold (.inl rfl)
  · next hold => exact outcome?_set h hold (.inl rfl)
  · next hold => exact outcome?_set h hold (.inr rfl)
  · exact h

theorem outcome?_submit (h : v.outcome? ticket = some outcome) (r : Request) :
    (v.submit r).outcome? ticket = some outcome := by
  have hjobs : (v.submit r).jobs = v.jobs ++ [⟨r, true, arrival r⟩] := rfl
  unfold outcome? at h ⊢
  obtain ⟨job, hjob, -⟩ := Option.bind_eq_some_iff.1 h
  rw [hjobs, List.getElem?_append_left (List.getElem?_eq_some_iff.1 hjob).1]
  exact h

/-- An answer is final. -/
theorem outcome?_apply {σ : Type} {host : Nat → Host σ} {a : Service × σ}
    (h : a.1.outcome? ticket = some outcome) (turn : Turn σ) :
    (turn.apply host a).1.outcome? ticket = some outcome := by
  cases turn with
  | arrive r => exact outcome?_submit h r
  | grant =>
      show (grant _).outcome? ticket = _
      unfold grant
      split
      · split
        · next hold => exact outcome?_set h hold (.inl rfl)
        · exact h
      · exact h
  | begin t =>
      show (begin _ t).outcome? ticket = _
      unfold begin
      split
      · next hold => exact outcome?_advance h hold rfl
      · exact h
  | proceed t => exact outcome?_proceed h t (host t) a.2
  | leave t => exact outcome?_leave h t
  | breakDown t reason =>
      show (breakDown _ t reason).outcome? ticket = _
      unfold breakDown
      split
      · next hold => exact outcome?_advance h hold rfl
      · exact h
  | stir change => exact h

theorem outcome?_play {σ : Type} {host : Nat → Host σ} {a : Service × σ}
    (h : a.1.outcome? ticket = some outcome) (turns : List (Turn σ)) :
    (Turn.play host turns a).1.outcome? ticket = some outcome := by
  induction turns generalizing a with
  | nil => exact h
  | cons turn turns ih => exact ih (outcome?_apply h turn)

/-- The request of a ticket has been answered so, and whatever is done with the ticket changes
    nothing: it takes no slot, and the host is not asked for anything. -/
structure IsTurnedAway (v : Service) (ticket : Nat) (outcome : Outcome) : Prop where
  answered : v.outcome? ticket = some outcome
  holds_nothing : ticket ∉ v.holders
  asks_nothing : v.asked ticket = none
  begins_nothing : v.begin ticket = v
  does_nothing : ∀ {σ : Type} (host : Host σ) (s : σ), v.proceed ticket host s = (v, s)
  breaks_nothing : ∀ reason, v.breakDown ticket reason = v

theorem isTurnedAway (h : v.outcome? ticket = some outcome) : v.IsTurnedAway ticket outcome := by
  obtain ⟨⟨r, isAwaited, progress⟩, hjob, hanswered⟩ := Option.bind_eq_some_iff.1 h
  obtain rfl : progress = .answered outcome := by
    cases progress with
    | answered o => rw [Option.some.inj hanswered]
    | _ => cases hanswered
  refine ⟨h, fun hholds => ?_, ?_, ?_, fun host s => ?_, fun reason => ?_⟩
  · obtain ⟨job, hsame, hslot⟩ := mem_holders.1 hholds
    obtain rfl := Option.some.inj (hjob.symm.trans hsame)
    cases hslot
  · simp only [asked, hjob]
  · simp only [begin, hjob]
  · simp only [proceed, hjob]
  · simp only [breakDown, hjob]

/-! ## Both -/

/-- What it means that a request with this code names no language. -/
structure OmissionIsNaming (code : String) (input : Option String) (v : Service) : Prop where
  /-- The language that is found might as well have been named. -/
  found : ∀ l, Source.detect code = .found l →
    ∀ {σ : Type} (host : Nat → Host σ) (s : σ) (turns : List (Turn σ)),
      Turn.AreIndistinct (Turn.play host turns (v.submit ⟨code, none, input⟩, s))
        (Turn.play host turns (v.submit ⟨code, some l, input⟩, s))
  /-- If none is found the request is answered when it arrives, with the slots as they were. -/
  undetected : Source.detect code = .undetected →
    (v.submit ⟨code, none, input⟩).slots = v.slots ∧
    ∀ {σ : Type} (host : Nat → Host σ) (s : σ) (turns : List (Turn σ)),
      (Turn.play host turns (v.submit ⟨code, none, input⟩, s)).1.IsTurnedAway v.jobs.length
        (.failure "Unsupported language: undetected" .unsupportedLanguage)
  /-- What is found is what is told to whoever asks for the language of the code. -/
  reported : ∀ (words : Http.FaultWords) (m : Http.Request), m.method = "POST" →
    Http.Endpoint.ofPath? m.path = some .classify →
    Http.readBody words Http.classifyRecord m = .ok [some code] →
    Http.handle words m =
      .respond (Http.classified (languageOf ⟨code, none, input⟩)).forAnyOrigin

theorem omission_is_naming (code : String) (input : Option String) (v : Service) :
    OmissionIsNaming code input v where
  found l h σ host s turns := by
    have hsame : Turn.AreAlike (v.submit ⟨code, none, input⟩, s)
        (v.submit ⟨code, some l, input⟩, s) := ⟨unnamed_submit_eq h v input, rfl⟩
    exact (hsame.play turns).areIndistinct
  undetected h := by
    refine ⟨rfl, fun host s turns => isTurnedAway (outcome?_play ?_ turns)⟩
    have harrival : arrival ⟨code, none, input⟩ = .answered undetected := by
      simp only [arrival, languageOf, h]
    have hjobs : (v.submit ⟨code, none, input⟩).jobs =
        v.jobs ++ [⟨⟨code, none, input⟩, true, .answered undetected⟩] := by
      rw [← harrival]
      rfl
    show (v.submit ⟨code, none, input⟩).outcome? v.jobs.length = _
    rw [outcome?, hjobs, List.getElem?_concat_length]
    rfl
  reported _ m hpost hpath hcode := by
    rw [Http.handle_classify hpost hpath, Http.answerClassify, hcode]
    rfl

end Service

end Playground
