import Playground.Proofs.Machine.Attending

set_option autoImplicit false

/-! # Streams are captured as a whole

What a watch tells of an exchange is what has come out so far. A run is over in good order only if
all of the exchange is done, and then nothing is missing: what has come out is what was written, and
that is what the process writes by itself. A process that does not read its input, or closes it,
is no exception. -/

namespace Playground

/-! ## Sessions -/

namespace Session

variable {s : Session} {limit : Duration} {output : ProcessOutput}

theorem isSome_of_within {time : Option Nat} (h : within limit time = true) :
    time.isSome = true := by
  cases time with
  | none => cases h
  | some t => rfl

/-- Without a fault a watch is finished if all four have happened within the limit, and then what
    came through the streams is what there is. -/
theorem result_eq_finished_iff (hfault : s.fault = none) :
    s.result limit = .finished output ↔
      within limit s.completion? = true ∧ s.ended.map Prod.snd = some output.status ∧
        output.stdout = s.stdout.text ∧ output.stderr = s.stderr.text := by
  obtain ⟨status, out, err⟩ := output
  unfold result
  rw [hfault]
  cases hended : s.ended with
  | none => simp
  | some ended =>
      dsimp only
      split
      · next h => simp [h, eq_comm]
      · next h => simp [h]

end Session

namespace Exchange

variable {e : Exchange} {s : Session} {limit : Duration} {input : List UInt8}

/-- All four have happened if they have within some limit. -/
theorem isDone_of_tells (ht : s.Tells e) (h : Session.within limit s.completion? = true) :
    e.IsDone := by
  rw [Session.within_completion?, Bool.and_eq_true, Bool.and_eq_true, Bool.and_eq_true] at h
  obtain ⟨⟨⟨hended, hout⟩, herr⟩, hfed⟩ := h
  refine ⟨?_, fun o => ?_, ?_⟩
  · rw [← ht.ended, Option.isSome_map, ← Option.isSome_map]
    exact Session.isSome_of_within hended
  · cases o with
    | stdout => rw [← ht.stdoutClosed, Session.isSome_of_within hout]
    | stderr => rw [← ht.stderrClosed, Session.isSome_of_within herr]
  · rw [← ht.fed, Option.isNone_eq_false_iff]
    exact Session.isSome_of_within hfed

/-- An outlet that has been closed has given out all that was written to it. -/
theorem IsSound.drained_eq (h : e.IsSound input) {o : Outlet}
    (hclosed : (e.outflow o).isClosed = true) : (e.outflow o).drained = (e.outflow o).written := by
  have hout := h.outflow o
  rw [← hout.octets, (hout.closed hclosed).1, List.append_nil]

end Exchange

/-! ## Runs -/

namespace Workspace

open Plan (Environment Event)

variable {host : Environment} {past before : List Event} {w : Workspace} {command : Command}
  {input : Option String} {limit : Duration} {stage : Stage} {path : String} {s : Session}
  {output : ProcessOutput}

theorem follow_settle_eq_ok_iff :
    ((settle s stage limit).follow host past).2 = .ok output ↔
      s.result limit = .finished output := by
  rw [follow_settle]
  cases s.result limit <;> simp

end Workspace

/-! ## The promise -/

open Plan (Environment Event) in
/-- What holds of an exchange of a process with whoever watches it, at any time. -/
structure Exchange.Keeps (u : Uptake) (child : Child) (input : Option String) (e : Exchange) :
    Prop where
  /-- What has come out of an outlet is what the process wrote there first. -/
  drained : ∀ o, (e.outflow o).drained <+: (e.outflow o).written
  /-- What the process has read is what the input begins with. -/
  taken : e.inflow.taken <+: octetsOf input
  /-- Nobody is in the way of all others: before the process has ended, and after that until all is
      done, there is somebody who can go on. -/
  goesOn : e.status? = none ∨ ¬e.IsDone → ∃ e', Move u e e'
  /-- And whoever goes on, it is not for ever. -/
  ends : Acc (fun a b => Move u b a) e
  /-- The owner of the machine is one who watches like that, and what it tells is how far all has
      come. -/
  attended : ∀ {m : Machine.State} {w : Machine.Watch} {pipe : Nat}, w ∈ m.watches →
    m.Shows w pipe e → (Machine.State.Watch.session w).Tells e ∧
      ∃ w' e', MovesOn .free e e' ∧ w' ∈ (m.attend w).watches ∧ (m.attend w).Shows w' pipe e'
  /-- A run that is over in good order has all that was written to either outlet, and that is what
      the process writes by itself with the input in front of it. -/
  complete : ∀ {host : Environment} {past before : List Event} {w : Workspace} {command : Command}
      {limit : Duration} {stage : Stage} {path : String} {s : Session} {output : ProcessOutput},
    (Workspace.resolve command.program).follow host past = (before, .ok path) →
    host before (.watch ⟨path, command.arguments, w.path, input⟩ limit) = .ok s → s.Tells e →
    ((w.run command input limit stage).follow host past).2 = .ok output →
      s.stdout.octets = (e.outflow .stdout).written ∧
      s.stderr.octets = (e.outflow .stderr).written ∧
      output.stdout = s.stdout.text ∧ output.stderr = s.stderr.text ∧
      child.Performs (fun _ => true) (octetsOf input) e.inflow.left (fun o => (e.outflow o).written)
        output.status
  /-- A run is over in good order once all is done, if that is within the limit. -/
  succeeds : ∀ {host : Environment} {past before : List Event} {w : Workspace} {command : Command}
      {limit : Duration} {stage : Stage} {path : String} {s : Session},
    (Workspace.resolve command.program).follow host past = (before, .ok path) →
    host before (.watch ⟨path, command.arguments, w.path, input⟩ limit) = .ok s → s.Tells e →
    Session.within limit s.completion? = true →
    ∃ output, ((w.run command input limit stage).follow host past).2 = .ok output

/-- Whatever a process does with its streams, however pipes take what is written to them, whatever
    they hold, and however all who are concerned take turns: what comes out is never anything but
    what was written, nobody is stuck, and a run that is over in good order has missed nothing. -/
theorem streams_are_captured (u : Uptake) (child : Child) (input : Option String)
    {capacity : Stream → Nat} (hcapacity : ∀ stream, 0 < capacity stream) {e : Exchange}
    (hm : Exchange.MovesOn u (.start child input capacity) e) : e.Keeps u child input := by
  have hsound := (Exchange.isSound_start child input hcapacity).movesOn hm
  refine ⟨fun o => ⟨_, (hsound.outflow o).octets⟩, ⟨_, hsound.inflow.octets⟩, ?_,
    Exchange.acc_move u e, fun hw hshows => ⟨hshows.tells, Machine.State.movesOn_attend hshows hw⟩,
    ?_, ?_⟩
  · rintro (hrun | hdone)
    · exact hsound.exists_move_of_running hrun
    · exact hsound.exists_move hdone
  · intro host past before w command limit stage path s output hpath hwatch ht hok
    rw [Workspace.follow_run_of_session hpath hwatch, Workspace.follow_settle_eq_ok_iff,
      Session.result_eq_finished_iff ht.fault] at hok
    obtain ⟨hwithin, hstatus, hout, herr⟩ := hok
    have hdone := Exchange.isDone_of_tells ht hwithin
    have hended : e.status? = some output.status := by
      rw [ht.ended] at hstatus
      exact hsound.awaited _ hstatus
    refine ⟨?_, ?_, hout, herr, Exchange.performs_of_movesOn hcapacity hm hended⟩
    · rw [ht.stdout, hsound.drained_eq (hdone.closed .stdout)]
    · rw [ht.stderr, hsound.drained_eq (hdone.closed .stderr)]
  · intro host past before w command limit stage path s hpath hwatch ht hwithin
    have hdone := Exchange.isDone_of_tells ht hwithin
    obtain ⟨status, hstatus⟩ := Option.isSome_iff_exists.1 hdone.awaited
    refine ⟨⟨status, s.stdout.text, s.stderr.text⟩, ?_⟩
    rw [Workspace.follow_run_of_session hpath hwatch, Workspace.follow_settle_eq_ok_iff,
      Session.result_eq_finished_iff ht.fault]
    exact ⟨hwithin, ht.ended.trans hstatus, rfl, rfl⟩

/-- A process that writes and ends, without a look at its input. -/
def Child.unread : Child := .writes .stdout [104, 105] (.exits (.exited 0))

/-- What is told of it in the end. -/
def Session.ofUnread : Session where
  process := 7
  ended := some (2, .exited 0)
  stdout := ⟨[104, 105], some 3⟩
  stderr := ⟨[], some 3⟩
  fed := some 4
  fault := none

theorem streams_are_captured_unread :
    let w : Workspace := ⟨"/tmp/polyglot-7", "7"⟩
    let command : Command := ⟨"/bin/echo", ["-n", "hi"]⟩
    ∃ e, Exchange.MovesOn .whole (.start .unread (some "abc") fun _ => 1) e ∧
      e.Keeps .whole .unread (some "abc") ∧ e.inflow.pending = [98, 99] ∧
      Session.ofUnread.Tells e ∧
      ((w.run command (some "abc") (.ofMilliseconds 150) .run).follow
          (Workspace.watching .ofUnread) []).2 =
        .ok ⟨.exited 0, "hi", ""⟩ ∧
      Session.ofUnread.stdout.octets = (e.outflow .stdout).written := by
  intro w command
  -- A pipe of one octet has to be emptied before the second octet can be written.
  have h₀ : Exchange.MovesOn .whole (.start .unread (some "abc") fun _ => 1) _ := .refl
  have h₁ := h₀.tail (.child rfl (.writes (n := 1) rfl rfl ⟨by decide, by decide⟩))
  have h₂ := h₁.tail (.parent (.feeds (n := 1) rfl rfl ⟨by decide, by decide⟩))
  have h₃ := h₂.tail (.parent (.drains (o := .stdout) (n := 1) rfl (by decide) (by decide)))
  have h₄ := h₃.tail (.child rfl (.writes (n := 1) rfl rfl ⟨by decide, by decide⟩))
  have h₅ := h₄.tail (.child rfl (.hasWritten rfl (.inl rfl)))
  have h₆ := h₅.tail (.child rfl (.exits rfl))
  have h₇ := h₆.tail (.parent (.awaits rfl rfl))
  have h₈ := h₇.tail (.parent (.drains (o := .stdout) (n := 1) rfl (by decide) (by decide)))
  have h₉ := h₈.tail (.parent (.seesEnd (o := .stdout) rfl rfl rfl))
  have h₁₀ := h₉.tail (.parent (.seesEnd (o := .stderr) rfl rfl rfl))
  have h := h₁₀.tail (.parent (.stopsFeeding rfl (.inr rfl)))
  have hkeeps := streams_are_captured .whole .unread (some "abc") (fun _ => Nat.one_pos) h
  have hpath : (Workspace.resolve command.program).follow (Workspace.watching .ofUnread) [] =
      ([], .ok "/bin/echo") := Workspace.follow_resolve_of_isPath (by decide)
  have hrun : ((w.run command (some "abc") (.ofMilliseconds 150) .run).follow
      (Workspace.watching .ofUnread) []).2 = .ok ⟨.exited 0, "hi", ""⟩ := by
    rw [Workspace.follow_run_of_session hpath rfl]
    rfl
  refine ⟨_, h, hkeeps, rfl, ⟨rfl, rfl, rfl, rfl, rfl, rfl, rfl⟩, hrun, ?_⟩
  exact (hkeeps.complete hpath rfl ⟨rfl, rfl, rfl, rfl, rfl, rfl, rfl⟩ hrun).1

end Playground
