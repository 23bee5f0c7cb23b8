import Playground.Workspace

set_option autoImplicit false

/-! # What happens after a process was started

A process that is watched may start others, and these may start more. All of them hold the streams
that they were started with until they close them or end. So the end of the process and the end of
its output can come apart, either way: output is closed before the end, or by others after it.

A `Timeline` is any course that this can take. It tells what a watch gets to know (`session`), and
what is known of it at a limit (`result_session`): the process has finished within the limit if it
has ended, nobody holds its output or its errors, and its input was handed over or nobody holds it.
That it has ended is not enough. -/

namespace Playground

inductive Stream where
  | stdin
  | stdout
  | stderr
  deriving DecidableEq, Repr

/-- What can happen. Processes go by their numbers. -/
inductive Happening where
  /-- A process starts another one, which holds the same streams. -/
  | starts (process child : Nat)
  | writes (process : Nat) (stream : Stream) (octets : List UInt8)
  | closes (process : Nat) (stream : Stream)
  | ends (process : Nat) (status : WaitStatus)
  /-- The last of the input was handed over. -/
  | takesInput
  deriving DecidableEq, Repr

/-! ## Families -/

/-- A process and all that descend from it. -/
structure Family where
  /-- Who holds which stream. -/
  holders : List (Nat × Stream)
  written : List (Stream × List UInt8)
  /-- How the process itself ended, once it has. -/
  status? : Option WaitStatus
  isHandedOver : Bool
  deriving DecidableEq, Repr

namespace Family

/-- A process that was just started. Without input there is nothing to hand over. -/
def start (process : Nat) (input : Option String) : Family :=
  ⟨[(process, .stdin), (process, .stdout), (process, .stderr)], [], none, (input.getD "").isEmpty⟩

def after (process : Nat) (f : Family) : Happening → Family
  | .starts parent child =>
      let inherited := (f.holders.filter fun held => held.1 == parent).map fun held =>
        (child, held.2)
      { f with holders := f.holders ++ inherited }
  | .writes writer stream octets =>
      let arrived := if (writer, stream) ∈ f.holders then [(stream, octets)] else []
      { f with written := f.written ++ arrived }
  | .closes holder stream => { f with holders := f.holders.filter (· ≠ (holder, stream)) }
  | .ends ended status =>
      { f with
        holders := f.holders.filter fun held => held.1 != ended
        status? := if ended = process then f.status?.or (some status) else f.status? }
  | .takesInput => { f with isHandedOver := true }

/-- Does nobody hold this stream? -/
def isClosed (stream : Stream) (f : Family) : Bool := f.holders.all fun held => held.2 != stream

def hasEnded (f : Family) : Bool := f.status?.isSome

/-- Was the input handed over or given up? -/
def isFed (f : Family) : Bool := f.isHandedOver || f.isClosed .stdin

/-- All that was written to a stream. -/
def octets (stream : Stream) (f : Family) : List UInt8 :=
  (f.written.filter fun entry => entry.1 == stream).flatMap Prod.snd

def text (stream : Stream) (f : Family) : String :=
  String.ofList (Text.Utf8.decodeLossy (f.octets stream))

/-- Can nothing more be written, and is nothing more to be handed over? -/
def isSilent (f : Family) : Bool := f.isClosed .stdout && f.isClosed .stderr && f.isFed

/-! ### What does not change any more -/

variable {process : Nat} {f : Family} {stream : Stream}

theorem isClosed_iff : f.isClosed stream = true ↔ ∀ holder, (holder, stream) ∉ f.holders := by
  simp only [isClosed, List.all_eq_true, bne_iff_ne, ne_eq, Prod.forall]
  exact ⟨fun h holder hm => h holder stream hm rfl, fun h holder _ hm he => h holder (he ▸ hm)⟩

/-- A stream that nobody holds is not given to anybody. -/
theorem isClosed_after (h : f.isClosed stream = true) (x : Happening) :
    (f.after process x).isClosed stream = true := by
  rw [isClosed_iff] at h ⊢
  intro holder
  cases x with
  | starts parent child =>
      intro hm
      rcases List.mem_append.1 hm with hm | hm
      · exact h holder hm
      · obtain ⟨held, hheld, heq⟩ := List.mem_map.1 hm
        obtain rfl : held.2 = stream := (Prod.mk.inj heq).2
        exact h held.1 (List.mem_filter.1 hheld).1
  | closes holder' stream' => exact fun hm => h holder (List.mem_filter.1 hm).1
  | ends ended status => exact fun hm => h holder (List.mem_filter.1 hm).1
  | writes | takesInput => exact h holder

/-- Nothing is written to a stream that nobody holds. -/
theorem octets_after (h : f.isClosed stream = true) (x : Happening) :
    (f.after process x).octets stream = f.octets stream := by
  cases x with
  | writes writer stream' new =>
      have harrived : ∀ entry ∈ (if (writer, stream') ∈ f.holders then [(stream', new)] else []),
          entry.1 ≠ stream := by
        intro entry hentry
        split at hentry
        · next hm =>
            obtain rfl := List.mem_singleton.1 hentry
            rintro rfl
            exact isClosed_iff.1 h writer hm
        · cases hentry
      have hnone := List.filter_eq_nil_iff.2 fun entry hentry =>
        (beq_eq_false_iff_ne.2 (harrived entry hentry)) ▸ Bool.false_ne_true
      simp only [octets, after, List.filter_append, hnone, List.append_nil]
  | starts | closes | ends | takesInput => rfl

theorem status?_after {status : WaitStatus} (h : f.status? = some status) (x : Happening) :
    (f.after process x).status? = some status := by
  cases x with
  | ends ended status' => simp [after, h]
  | starts | writes | closes | takesInput => exact h

theorem hasEnded_after (h : f.hasEnded = true) (x : Happening) :
    (f.after process x).hasEnded = true := by
  obtain ⟨status, hstatus⟩ := Option.isSome_iff_exists.1 h
  rw [hasEnded, status?_after hstatus x, Option.isSome_some]

theorem isFed_after (h : f.isFed = true) (x : Happening) : (f.after process x).isFed = true := by
  rcases Bool.or_eq_true .. ▸ h with h | h
  · have hover : (f.after process x).isHandedOver = true := by
      cases x with
      | takesInput => rfl
      | starts | writes | closes | ends => exact h
    rw [isFed, hover, Bool.true_or]
  · rw [isFed, isClosed_after h x, Bool.or_true]

/-- A process that has ended holds nothing. -/
def IsGone (process : Nat) (f : Family) : Prop :=
  f.hasEnded = true → ∀ stream, (process, stream) ∉ f.holders

theorem IsGone.after (h : IsGone process f) {x : Happening}
    (hfresh : ∀ parent, x ≠ .starts parent process) : IsGone process (f.after process x) := by
  intro hended stream hm
  cases x with
  | starts parent child =>
      rcases List.mem_append.1 hm with hm | hm
      · exact h hended stream hm
      · obtain ⟨held, -, heq⟩ := List.mem_map.1 hm
        obtain rfl : child = process := (Prod.mk.inj heq).1
        exact hfresh parent rfl
  | closes holder stream' => exact h hended stream (List.mem_filter.1 hm).1
  | ends ended status =>
      obtain ⟨hm, hne⟩ := List.mem_filter.1 hm
      by_cases he : ended = process
      · simp [he] at hne
      · refine h ?_ stream hm
        simpa [Family.after, hasEnded, he] using hended
  | writes | takesInput => exact h hended stream hm

/-! ### Courses -/

/-- What has become of a family after this and that. -/
def afterAll (process : Nat) (f : Family) (course : List (Nat × Happening)) : Family :=
  course.foldl (fun f x => f.after process x.2) f

variable {course : List (Nat × Happening)}

/-- What stays so when something happens stays so. -/
theorem holds_afterAll {P : Family → Prop} (hp : ∀ f x, P f → P (after process f x)) (h : P f) :
    P (f.afterAll process course) := by
  induction course generalizing f with
  | nil => exact h
  | cons x rest ih => exact ih (hp f x.2 h)

theorem octets_afterAll (h : f.isClosed stream = true) :
    (f.afterAll process course).octets stream = f.octets stream :=
  (holds_afterAll (P := fun g => g.isClosed stream = true ∧ g.octets stream = f.octets stream)
    (fun _ x hg => ⟨isClosed_after hg.1 x, (octets_after hg.1 x).trans hg.2⟩) ⟨h, rfl⟩).2

theorem status?_afterAll {status : WaitStatus} (h : f.status? = some status) :
    (f.afterAll process course).status? = some status :=
  holds_afterAll (P := fun f => f.status? = some status) (fun _ x hf => status?_after hf x) h

theorem IsGone.afterAll (h : IsGone process f)
    (hfresh : ∀ time parent, (time, .starts parent process) ∉ course) :
    IsGone process (f.afterAll process course) := by
  induction course generalizing f with
  | nil => exact h
  | cons x rest ih =>
      refine ih (h.after fun parent hx => hfresh x.1 parent ?_) fun time parent hm =>
        hfresh time parent (List.mem_cons_of_mem _ hm)
      rw [← hx]
      exact List.mem_cons_self

/-! ### Times -/

/-- What is known at a limit. -/
def upTo (process : Nat) (limit : Duration) (f : Family) (course : List (Nat × Happening)) :
    Family :=
  f.afterAll process (course.takeWhile fun x => x.1 ≤ limit.nanoseconds)

/-- The time since when something is so, if it ever is. -/
def since (process : Nat) (p : Family → Bool) (f : Family) (now : Nat) :
    List (Nat × Happening) → Option Nat
  | [] => if p f then some now else none
  | x :: rest => if p f then some now else since process p (f.after process x.2) x.1 rest

/-- Nothing is so before the first time that is looked at. -/
theorem le_of_since {p : Family → Bool} {now time : Nat}
    (hordered : (now :: course.map Prod.fst).Pairwise (· ≤ ·))
    (h : since process p f now course = some time) : now ≤ time := by
  induction course generalizing f now with
  | nil =>
      unfold since at h
      split at h
      · exact Nat.le_of_eq (Option.some.inj h)
      · cases h
  | cons x rest ih =>
      unfold since at h
      split at h
      · exact Nat.le_of_eq (Option.some.inj h)
      · have hle : now ≤ x.1 := (List.pairwise_cons.1 hordered).1 x.1 (by simp)
        exact Nat.le_trans hle (ih (List.pairwise_cons.1 hordered).2 h)

/-- What stays as it is once it is so is so at a limit exactly if it is so since a time within the
    limit. -/
theorem within_since {p : Family → Bool} {now : Nat} {limit : Duration}
    (hp : ∀ f x, p f = true → p (after process f x) = true)
    (hordered : (now :: course.map Prod.fst).Pairwise (· ≤ ·)) (hnow : now ≤ limit.nanoseconds) :
    Session.within limit (since process p f now course) = p (f.upTo process limit course) := by
  unfold upTo
  induction course generalizing f now with
  | nil =>
      cases h : p f with
      | true => simpa [since, Session.within, afterAll, h] using hnow
      | false => simp [since, Session.within, afterAll, h]
  | cons x rest ih =>
      obtain ⟨-, hrest⟩ := List.pairwise_cons.1 hordered
      cases h : p f with
      | true =>
          have hstays (course : List (Nat × Happening)) : p (f.afterAll process course) = true :=
            holds_afterAll (P := fun f => p f = true) hp h
          simp [since, Session.within, h, hnow, hstays]
      | false =>
          have hsince : since process p f now (x :: rest) =
              since process p (f.after process x.2) x.1 rest := by
            simp [since, h]
          by_cases hx : x.1 ≤ limit.nanoseconds
          · rw [hsince, ih hrest hx, List.takeWhile_cons_of_pos (by simpa using hx)]
            rfl
          · -- all that follows comes too late
            rw [hsince, List.takeWhile_cons_of_neg (by simpa using hx)]
            change _ = p f
            rw [h]
            cases hs : since process p (f.after process x.2) x.1 rest with
            | none => rfl
            | some time =>
                have hle := le_of_since hrest hs
                simp only [Session.within, decide_eq_false_iff_not]
                omega

end Family

/-! ## Sessions without a fault -/

namespace Session

variable {s : Session} {limit : Duration}

/-- The later of two times, if both are known. -/
def later (a b : Option Nat) : Option Nat := do return max (← a) (← b)

theorem within_later (a b : Option Nat) :
    within limit (later a b) = (within limit a && within limit b) := by
  cases a with
  | none => rfl
  | some x =>
      cases b with
      | none => exact (Bool.and_false _).symm
      | some y =>
          change decide (max x y ≤ limit.nanoseconds) =
            (decide (x ≤ limit.nanoseconds) && decide (y ≤ limit.nanoseconds))
          simp only [Nat.max_le, Bool.decide_and]

theorem completion?_eq :
    s.completion? =
      later (later (s.ended.map Prod.fst) s.stdout.closed) (later s.stderr.closed s.fed) := by
  unfold completion?
  cases s.ended <;> cases s.stdout.closed <;> cases s.stderr.closed <;> cases s.fed <;> rfl

/-- All four have happened within the limit if each of them has. -/
theorem within_completion? :
    within limit s.completion? = (within limit (s.ended.map Prod.fst) &&
      within limit s.stdout.closed && within limit s.stderr.closed && within limit s.fed) := by
  rw [completion?_eq, within_later, within_later, within_later, Bool.and_assoc _ _ (within _ s.fed)]

theorem result_of_late (hf : s.fault = none) (h : within limit s.completion? = false) :
    s.result limit = .overrun := by
  unfold result
  rw [hf]
  cases s.ended with
  | none => rfl
  | some ended => simp [h]

theorem result_of_ended {time : Nat} {status : WaitStatus} (hf : s.fault = none)
    (he : s.ended = some (time, status)) (h : within limit s.completion? = true) :
    s.result limit = .finished ⟨status, s.stdout.text, s.stderr.text⟩ := by
  simp [result, hf, he, h]

end Session

/-! ## Timelines -/

/-- What happens after a process was started, and when. Times are nanoseconds after the start. -/
structure Timeline where
  process : Nat
  course : List (Nat × Happening)
  ordered : (course.map Prod.fst).Pairwise (· ≤ ·)
  /-- No other process gets the number of the one that is watched. -/
  fresh : ∀ time parent, (time, .starts parent process) ∉ course

namespace Timeline

variable {t : Timeline} {input : Option String} {limit : Duration}

/-- What has become of the process and its descendants at a limit. -/
def upTo (t : Timeline) (input : Option String) (limit : Duration) : Family :=
  (Family.start t.process input).upTo t.process limit t.course

/-- What has become of them when all has happened. -/
def last (t : Timeline) (input : Option String) : Family :=
  (Family.start t.process input).afterAll t.process t.course

def since (t : Timeline) (input : Option String) (p : Family → Bool) : Option Nat :=
  Family.since t.process p (Family.start t.process input) 0 t.course

/-- What comes through a stream, which is closed once nobody holds it. -/
def captured (t : Timeline) (input : Option String) (stream : Stream) : Captured :=
  ⟨(t.last input).octets stream, t.since input (Family.isClosed stream)⟩

/-- What a watch gets to know. -/
def session (t : Timeline) (input : Option String) : Session where
  process := t.process
  ended := do return (← t.since input Family.hasEnded, ← (t.last input).status?)
  stdout := t.captured input .stdout
  stderr := t.captured input .stderr
  fed := t.since input Family.isFed
  fault := none

theorem last_eq (t : Timeline) (input : Option String) (limit : Duration) :
    ∃ rest, t.last input = (t.upTo input limit).afterAll t.process rest :=
  ⟨t.course.dropWhile fun x => x.1 ≤ limit.nanoseconds, by
    rw [last, upTo, Family.upTo, Family.afterAll, Family.afterAll, Family.afterAll,
      ← List.foldl_append, List.takeWhile_append_dropWhile]⟩

theorem within_since {p : Family → Bool}
    (hp : ∀ f x, p f = true → p (Family.after t.process f x) = true) :
    Session.within limit (t.since input p) = p (t.upTo input limit) :=
  Family.within_since hp (List.pairwise_cons.2 ⟨fun _ _ => Nat.zero_le _, t.ordered⟩)
    (Nat.zero_le _)

theorem status?_last {status : WaitStatus} (h : (t.upTo input limit).status? = some status) :
    (t.last input).status? = some status := by
  obtain ⟨rest, hrest⟩ := t.last_eq input limit
  rw [hrest]
  exact Family.status?_afterAll h

theorem text_captured {stream : Stream}
    (h : (t.upTo input limit).isClosed stream = true) :
    (t.captured input stream).text = (t.upTo input limit).text stream := by
  obtain ⟨rest, hrest⟩ := t.last_eq input limit
  rw [captured, Captured.text, Family.text, hrest, Family.octets_afterAll h]

theorem isGone_upTo : (t.upTo input limit).IsGone t.process := by
  refine Family.IsGone.afterAll (fun h => by cases h) fun time parent hm => ?_
  exact t.fresh time parent ((List.takeWhile_prefix _).subset hm)

theorem ended_session {status : WaitStatus} (h : (t.upTo input limit).status? = some status) :
    ∃ time, time ≤ limit.nanoseconds ∧ (t.session input).ended = some (time, status) := by
  have hended : Session.within limit (t.since input Family.hasEnded) = true := by
    rw [within_since fun _ x h => Family.hasEnded_after h x, Family.hasEnded, h]
    rfl
  cases hs : t.since input Family.hasEnded with
  | none => simp [hs, Session.within] at hended
  | some time =>
      refine ⟨time, ?_, by simp [session, hs, status?_last h]⟩
      simpa [hs, Session.within] using hended

theorem within_ended :
    Session.within limit ((t.session input).ended.map Prod.fst) =
      (t.upTo input limit).hasEnded := by
  cases hstatus : (t.upTo input limit).status? with
  | some status =>
      obtain ⟨time, hle, htime⟩ := ended_session hstatus
      simp [htime, Session.within, hle, Family.hasEnded, hstatus]
  | none =>
      have hlate : Session.within limit (t.since input Family.hasEnded) = false := by
        rw [within_since fun _ x h => Family.hasEnded_after h x, Family.hasEnded, hstatus]
        rfl
      have hnone : (t.upTo input limit).hasEnded = false := by rw [Family.hasEnded, hstatus]; rfl
      rw [hnone]
      cases hs : t.since input Family.hasEnded with
      | none => simp [session, hs, Session.within]
      | some time =>
          rw [hs] at hlate
          cases hlast : (t.last input).status? with
          | none => simp [session, hs, hlast, Session.within]
          | some status => simpa [session, hs, hlast] using hlate

theorem within_completion? :
    Session.within limit (t.session input).completion? =
      ((t.upTo input limit).hasEnded && (t.upTo input limit).isSilent) := by
  rw [Session.within_completion?, within_ended, Family.isSilent,
    ← within_since (p := Family.isClosed .stdout) fun _ x h => Family.isClosed_after h x,
    ← within_since (p := Family.isClosed .stderr) fun _ x h => Family.isClosed_after h x,
    ← within_since (p := Family.isFed) fun _ x h => Family.isFed_after h x]
  simp only [Bool.and_assoc]
  rfl

theorem result_of_silent {status : WaitStatus} (hstatus : (t.upTo input limit).status? = some status)
    (hsilent : (t.upTo input limit).isSilent = true) :
    (t.session input).result limit =
      .finished ⟨status, (t.upTo input limit).text .stdout, (t.upTo input limit).text .stderr⟩ := by
  obtain ⟨time, -, htime⟩ := ended_session hstatus
  obtain ⟨⟨hout, herr⟩, -⟩ : (_ ∧ _) ∧ (t.upTo input limit).isFed = true := by
    simpa only [Family.isSilent, Bool.and_eq_true] using hsilent
  have hwithin : Session.within limit (t.session input).completion? = true := by
    rw [within_completion?, hsilent, Family.hasEnded, hstatus]
    rfl
  rw [Session.result_of_ended rfl htime hwithin, session, text_captured hout, text_captured herr]

theorem result_of_late
    (h : (t.upTo input limit).status? = none ∨ (t.upTo input limit).isSilent = false) :
    (t.session input).result limit = .overrun := by
  refine Session.result_of_late rfl ?_
  rw [within_completion?]
  rcases h with h | h
  · rw [Family.hasEnded, h]
    rfl
  · rw [h, Bool.and_false]

/-- If a process has left nobody behind who holds a stream, its end is the end of everything. -/
theorem isSilent_of_alone (hended : (t.upTo input limit).hasEnded = true)
    (h : ∀ held ∈ (t.upTo input limit).holders, held.1 = t.process) :
    (t.upTo input limit).isSilent = true := by
  have hclosed (stream : Stream) : (t.upTo input limit).isClosed stream = true := by
    refine Family.isClosed_iff.2 fun holder hm => ?_
    obtain rfl : holder = t.process := h _ hm
    exact isGone_upTo hended stream hm
  simp [Family.isSilent, Family.isFed, hclosed]

end Timeline

/-! ## Running -/

namespace Workspace

open Plan (Environment Event)

variable {host : Environment} {past before : List Event} {w : Workspace} {command : Command}
  {input : Option String} {limit : Duration} {stage : Stage} {path : String}

/-- The group of a watched process is killed however its watch ended. -/
theorem follow_settle {session : Session} :
    (settle session stage limit).follow host past =
      match session.result limit with
      | .finished output => (past ++ [⟨.killGroup session.process, ()⟩], .ok output)
      | .faulted e =>
          (past ++ [⟨.killGroup session.process, ()⟩, ⟨.killProcess session.process, ()⟩],
            .error (streamFailure e))
      | .overrun =>
          (past ++ [⟨.killGroup session.process, ()⟩, ⟨.killProcess session.process, ()⟩],
            .error (.timeout stage)) := by
  unfold settle
  cases session.result limit with
  | finished output => rfl
  | faulted e | overrun =>
      change (past ++ [_] ++ [_], _) = _
      rw [List.append_assoc]
      rfl

theorem follow_resolve_of_isPath {program : String} (h : isPath program = true) :
    (resolve program).follow host past = (past, .ok program) := by
  rw [resolve, if_pos h]
  rfl

theorem follow_run_of_session {session : Session}
    (hpath : (resolve command.program).follow host past = (before, .ok path))
    (hwatch : host before (.watch ⟨path, command.arguments, w.path, input⟩ limit) = .ok session) :
    (w.run command input limit stage).follow host past =
      (settle session stage limit).follow host (before ++
        [⟨.watch ⟨path, command.arguments, w.path, input⟩ limit, .ok session⟩]) := by
  rw [Workspace.run, Plan.onSuccess, Plan.follow_bind, hpath]
  simp [Plan.request, Plan.follow, hwatch]

theorem follow_run (t : Timeline)
    (hpath : (resolve command.program).follow host past = (before, .ok path))
    (hwatch : host before (.watch ⟨path, command.arguments, w.path, input⟩ limit) =
      .ok (t.session input)) :
    (w.run command input limit stage).follow host past =
      (settle (t.session input) stage limit).follow host (before ++
        [⟨.watch ⟨path, command.arguments, w.path, input⟩ limit, .ok (t.session input)⟩]) :=
  follow_run_of_session hpath hwatch

/-- Whatever happens after a process was started: if it has ended within the limit and all is
    silent, the run gives its status and all that was written; if not, it has timed out. The group
    of the process is killed either way. So a process that has ended within the limit has timed out
    all the same if one that it left behind still holds a stream, but only then. -/
theorem follow_run_of_timeline (t : Timeline)
    (hpath : (resolve command.program).follow host past = (before, .ok path))
    (hwatch : host before (.watch ⟨path, command.arguments, w.path, input⟩ limit) =
      .ok (t.session input)) :
    let family := t.upTo input limit
    let watched : Event :=
      ⟨.watch ⟨path, command.arguments, w.path, input⟩ limit, .ok (t.session input)⟩
    (∀ status, family.status? = some status → family.isSilent = true →
      (w.run command input limit stage).follow host past =
        (before ++ [watched, ⟨.killGroup t.process, ()⟩],
          .ok ⟨status, family.text .stdout, family.text .stderr⟩)) ∧
    (family.status? = none ∨ family.isSilent = false →
      (w.run command input limit stage).follow host past =
        (before ++ [watched, ⟨.killGroup t.process, ()⟩, ⟨.killProcess t.process, ()⟩],
          .error (.timeout stage))) ∧
    (family.hasEnded = true → (∀ held ∈ family.holders, held.1 = t.process) →
      family.isSilent = true) := by
  intro family watched
  have hrun : (w.run command input limit stage).follow host past = _ := follow_run t hpath hwatch
  rw [follow_settle] at hrun
  simp only [List.append_assoc, List.singleton_append] at hrun
  refine ⟨fun status hstatus hsilent => ?_, fun hlate => ?_, Timeline.isSilent_of_alone⟩
  · rw [hrun, Timeline.result_of_silent hstatus hsilent]
    rfl
  · rw [hrun, Timeline.result_of_late hlate]
    rfl

/-- A host that looks nothing up and fails at nothing. -/
def watching (session : Session) : Environment
  | _, .locate _ => none
  | _, .drawId => ""
  | _, .createTree _ => .ok ()
  | _, .createPrivate _ => .ok ()
  | _, .write _ _ => .ok ()
  | _, .watch _ _ => .ok session
  | _, .killGroup _ => ()
  | _, .killProcess _ => ()
  | _, .remove _ => ()

/-- A shell writes and ends, and leaves behind what has closed its streams before. -/
def detached : Timeline where
  process := 1
  course := [(1000000, .starts 1 2), (2000000, .closes 2 .stdin), (2000000, .closes 2 .stdout),
    (2000000, .closes 2 .stderr), (3000000, .writes 1 .stdout [98, 103, 10]),
    (4000000, .ends 1 (.exited 0))]
  ordered := by decide
  fresh := by simp

theorem follow_run_of_timeline_detached :
    let w : Workspace := ⟨"/tmp/polyglot-7", "7"⟩
    let command : Command := ⟨"/bin/sh", ["-c", "sleep 5 <&- >&- 2>&- & echo bg"]⟩
    let host := watching (detached.session none)
    let limit : Duration := .ofMilliseconds 150
    (resolve command.program).follow host [] = ([], .ok "/bin/sh") ∧
      (detached.upTo none limit).status? = some (.exited 0) ∧
      (detached.upTo none limit).isSilent = true ∧
      (w.run command none limit .run).follow host [] =
        ([⟨.watch ⟨"/bin/sh", command.arguments, w.path, none⟩ limit, .ok (detached.session none)⟩,
          ⟨.killGroup 1, ()⟩], .ok ⟨.exited 0, "bg\n", ""⟩) := by
  intro w command host limit
  have hpath : (resolve command.program).follow host [] = ([], .ok "/bin/sh") :=
    follow_resolve_of_isPath (by decide)
  have hstatus : (detached.upTo none limit).status? = some (.exited 0) := by decide
  have hsilent : (detached.upTo none limit).isSilent = true := by decide
  have hout : (detached.upTo none limit).text .stdout = "bg\n" := by decide
  have herr : (detached.upTo none limit).text .stderr = "" := by decide
  have hrun : (w.run command none limit .run).follow host [] = _ :=
    (follow_run_of_timeline detached hpath rfl).1 _ hstatus hsilent
  rw [hout, herr] at hrun
  exact ⟨hpath, hstatus, hsilent, hrun⟩

/-- The same, but that what is left behind keeps its streams. -/
def lingering : Timeline where
  process := 1
  course := [(1000000, .starts 1 2), (3000000, .writes 1 .stdout [98, 103, 10]),
    (4000000, .ends 1 (.exited 0)), (5004000000, .ends 2 (.exited 0))]
  ordered := by decide
  fresh := by simp

theorem timeout_of_lingering :
    let w : Workspace := ⟨"/tmp/polyglot-7", "7"⟩
    let command : Command := ⟨"/bin/sh", ["-c", "sleep 5 & echo bg"]⟩
    let limit : Duration := .ofMilliseconds 150
    (lingering.upTo none limit).status? = some (.exited 0) ∧
      (lingering.upTo none limit).text .stdout = "bg\n" ∧
      ((w.run command none limit .run).follow (watching (lingering.session none)) []).2 =
        .error (.timeout .run) := by
  intro w command limit
  have hpath : (resolve command.program).follow (watching (lingering.session none)) [] =
      ([], .ok "/bin/sh") := follow_resolve_of_isPath (by decide)
  refine ⟨by decide, by decide, ?_⟩
  have hlate : (lingering.session none).result limit = .overrun :=
    Timeline.result_of_late (.inr (by decide))
  rw [follow_run lingering hpath rfl, follow_settle, hlate]

end Workspace

end Playground
