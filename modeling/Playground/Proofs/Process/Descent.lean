import Playground.Machine.Owner
import Playground.Proofs.Execution.Step
import Playground.Proofs.Machine.Lineage

set_option autoImplicit false

/-! # What is left when a run has returned

A run starts a process, watches it, and kills its group; if the process has not finished, it is
killed by its number too. All this time the process and those that descend from it do what they
like: `Happens` says what has become of everybody when something was asked of the host, and
`Unfolds` says so of all that was asked.

Killing a group kills those who are in it at that moment. So, when a run has returned, the process
is gone, and so is everybody who descends from it if none of them has ever left the group
(`KillsItsGroup`). Whoever has left it may live on, and so may what it starts, since nothing that
is asked for ends it (`Spares`). This is so however the watch ended. -/

namespace Playground

open Machine (Lineage Process Processes)
open Machine.Lineage (Moves MovesOn)
open Plan (Event Runs)

variable {leaves : Nat → Prop} {l m before after : Lineage} {process : Nat} {session : Session}
  {e : Event} {events : List Event}

/-! ## What happens while a plan is followed -/

/-- What has become of everybody when something was asked, up to the time when something else is.
    Others go on meanwhile; those that may leave their groups are given. -/
inductive Happens (leaves : Nat → Prop) : Event → Lineage → Lineage → Prop where
  /-- A process leads a group of its own from the start. When it is known to have ended, it has. -/
  | started {launch : Launch} {limit : Duration} {session : Session} {l m : Lineage} {p : Process}
      (hid : p.id = session.process) (hgroup : p.group = p.id) (hnew : l.IsNew p.id)
      (hmoves : MovesOn leaves (l.start p) m)
      (hended : session.ended.isSome = true → ∀ q, m.Alive q → q.id ≠ p.id) :
      Happens leaves ⟨.watch launch limit, .ok session⟩ l m
  | notStarted {launch : Launch} {limit : Duration} {error : HostError} {l m : Lineage}
      (hmoves : MovesOn leaves l m) : Happens leaves ⟨.watch launch limit, .error error⟩ l m
  | killedGroup {group : Nat} {l m : Lineage} (hmoves : MovesOn leaves (l.killGroup group) m) :
      Happens leaves ⟨.killGroup group, ()⟩ l m
  | killed {id : Nat} {l m : Lineage} (hmoves : MovesOn leaves (l.kill id) m) :
      Happens leaves ⟨.killProcess id, ()⟩ l m
  /-- Nothing else that is asked for is about processes. -/
  | other {e : Event} {l m : Lineage} (hwatch : ∀ launch limit, e.action ≠ .watch launch limit)
      (hgroup : ∀ group, e.action ≠ .killGroup group) (hkill : ∀ id, e.action ≠ .killProcess id)
      (hmoves : MovesOn leaves l m) : Happens leaves e l m

inductive Unfolds (leaves : Nat → Prop) : Lineage → List Event → Lineage → Prop where
  | nil (l : Lineage) : Unfolds leaves l [] l
  | cons {e : Event} {events : List Event} {l m k : Lineage} (h : Happens leaves e l m)
      (rest : Unfolds leaves m events k) : Unfolds leaves l (e :: events) k

theorem Unfolds.of_cons {k : Lineage} (h : Unfolds leaves l (e :: events) k) :
    ∃ m, Happens leaves e l m ∧ Unfolds leaves m events k := by
  cases h with
  | cons h rest => exact ⟨_, h, rest⟩

theorem Unfolds.of_append {first rest : List Event} {k : Lineage}
    (h : Unfolds leaves l (first ++ rest) k) :
    ∃ m, Unfolds leaves l first m ∧ Unfolds leaves m rest k := by
  induction first generalizing l with
  | nil => exact ⟨l, .nil l, h⟩
  | cons e first ih =>
      obtain ⟨m, he, htail⟩ := h.of_cons
      obtain ⟨k', hfirst, hrest⟩ := ih htail
      exact ⟨k', .cons he hfirst, hrest⟩

theorem Unfolds.of_singleton (h : Unfolds leaves l [e] m) : Happens leaves e l m := by
  obtain ⟨k, he, hrest⟩ := h.of_cons
  cases hrest
  exact he

theorem Happens.movesOn_of_killGroup (h : Happens leaves ⟨.killGroup process, ()⟩ l m) :
    MovesOn leaves (l.killGroup process) m := by
  cases h with
  | killedGroup hmoves => exact hmoves
  | other _ hgroup _ _ => exact absurd rfl (hgroup process)

theorem Happens.movesOn_of_kill (h : Happens leaves ⟨.killProcess process, ()⟩ l m) :
    MovesOn leaves (l.kill process) m := by
  cases h with
  | killed hmoves => exact hmoves
  | other _ _ hkill _ => exact absurd rfl (hkill process)

/-- The kills of the machine are these. -/
theorem happens_of_perform_killGroup (software : Machine.Software) (owner group : Nat)
    (state : Machine.State) (starts : List (Nat × Nat)) :
    Happens leaves ⟨.killGroup group, ()⟩ ⟨state.processes, starts⟩
      ⟨(state.perform software owner (.killGroup group)).2.processes, starts⟩ :=
  .killedGroup .refl

theorem happens_of_perform_killProcess (software : Machine.Software) (owner id : Nat)
    (state : Machine.State) (starts : List (Nat × Nat)) :
    Happens leaves ⟨.killProcess id, ()⟩ ⟨state.processes, starts⟩
      ⟨(state.perform software owner (.killProcess id)).2.processes, starts⟩ :=
  .killed .refl

/-! ## What a run makes of it -/

/-- A process that was started, before anybody is killed. -/
structure IsFollowed (leaves : Nat → Prop) (process : Nat) (l : Lineage) : Prop where
  knows : l.Knows process
  same_group : (∀ n, l.Descends process n → ¬leaves n) →
    ∀ q, l.Alive q → l.Descends process q.id → q.group = process

theorem Happens.isFollowed {launch : Launch} {limit : Duration}
    (h : Happens leaves ⟨.watch launch limit, .ok session⟩ l m) :
    IsFollowed leaves session.process m ∧
      (session.ended.isSome = true → ∀ q, m.Alive q → q.id ≠ session.process) := by
  cases h with
  | @started _ _ _ _ _ p hid hgroup hnew hmoves hended =>
      rw [← hid]
      refine ⟨⟨Lineage.knows_start.mono hmoves.subset_starts, fun hstay q hq hd => ?_⟩, hended⟩
      refine hmoves.same_group Lineage.knows_start (fun r hr hdr => ?_) hstay hq hd
      rw [Lineage.eq_of_alive_start hnew hr (Lineage.eq_of_descends_start hnew hdr), hgroup]
  | other hwatch _ _ _ => exact absurd rfl (hwatch launch limit)

/-- What is left of those who descend from a process, if its group was killed once (`before`) and
    time has passed since (`after`). -/
structure KillsItsGroup (leaves : Nat → Prop) (process : Nat) (before after : Lineage) : Prop where
  /-- The process itself is not alive. -/
  itself : ∀ q, after.Alive q → q.id ≠ process
  /-- Those who are left descend from those who had left the group. -/
  escaped : ∀ q, after.Alive q → after.Descends process q.id →
    ∃ p, before.Alive p ∧ before.Descends process p.id ∧ p.group ≠ process ∧
      after.Descends p.id q.id
  /-- If nobody has left the group, nobody is left. -/
  together : (∀ n, after.Descends process n → ¬leaves n) →
    ∀ q, after.Alive q → ¬after.Descends process q.id

/-- Nothing that is asked for ends another process that has left the group of this one. -/
def Spares (leaves : Nat → Prop) (process : Nat) (before : Lineage) (events : List Event) : Prop :=
  ∀ p, before.Alive p → p.group ≠ process → p.id ≠ process →
    ∃ after q, Unfolds leaves before events after ∧ after.Alive q ∧ q.id = p.id

theorem IsFollowed.killsItsGroup (h : IsFollowed leaves process before)
    (hmoves : MovesOn leaves (before.killGroup process) after)
    (hitself : ∀ q, after.Alive q → q.id ≠ process) :
    KillsItsGroup leaves process before after := by
  have hescaped : ∀ q, after.Alive q → after.Descends process q.id →
      ∃ p, before.Alive p ∧ before.Descends process p.id ∧ p.group ≠ process ∧
        after.Descends p.id q.id := by
    intro q hq hd
    obtain ⟨r, hr, hdr, hrq⟩ := hmoves.descendant h.knows hq hd
    obtain ⟨p, hp, hne, hid⟩ := Lineage.alive_killGroup_iff.1 ⟨r, hr, rfl⟩
    rw [← hid] at hdr hrq
    exact ⟨p, hp, hdr, hne, hrq⟩
  refine ⟨hitself, hescaped, fun hstay q hq hd => ?_⟩
  obtain ⟨p, hp, hdp, hne, -⟩ := hescaped q hq hd
  have hstarts : before.starts ⊆ after.starts := hmoves.subset_starts
  exact hne (h.same_group (fun n hn => hstay n (hn.mono hstarts)) p hp hdp)

theorem spares_killGroup : Spares leaves process before [⟨.killGroup process, ()⟩] := by
  intro p hp hne _
  obtain ⟨q, hq, hid⟩ := Lineage.alive_killGroup_iff.2 ⟨p, hp, hne, rfl⟩
  exact ⟨_, q, .cons (.killedGroup .refl) (.nil _), hq, hid⟩

theorem spares_killGroup_killProcess :
    Spares leaves process before [⟨.killGroup process, ()⟩, ⟨.killProcess process, ()⟩] := by
  intro p hp hne hid
  obtain ⟨q, hq, hqid⟩ := Lineage.alive_killGroup_iff.2 ⟨p, hp, hne, rfl⟩
  obtain ⟨r, hr, hrid⟩ := Lineage.exists_alive_kill hq (hqid ▸ hid)
  exact ⟨_, r, .cons (.killedGroup .refl) (.cons (.killed .refl) (.nil _)), hr, hrid.trans hqid⟩

namespace Workspace

variable {w : Workspace} {command : Command} {input : Option String} {limit time : Duration}
  {stage : Stage} {launch : Launch}

theorem isSome_ended_of_finished {output : ProcessOutput}
    (h : session.result limit = .finished output) : session.ended.isSome = true := by
  unfold Session.result at h
  split at h
  · split at h <;> cases h
  · next heq => simp [heq]
  · cases h

/-- After a process was started, its group is killed at once. Nothing else is asked for if it is
    known to have ended; otherwise it is killed too. -/
theorem Watches.eq_of_started {result : Except Outcome ProcessOutput}
    (h : Watches w command input limit stage events result)
    (hs : ⟨.watch launch time, .ok session⟩ ∈ events) :
    ∃ found last,
      events = found ++ [⟨.watch launch time, .ok session⟩] ++
        ⟨.killGroup session.process, ()⟩ :: last ∧
      ((last = [] ∧ session.ended.isSome = true) ∨
        last = [⟨.killProcess session.process, ()⟩]) := by
  cases h with
  | notFound =>
      rw [List.mem_singleton] at hs
      cases hs
  | notStarted hr =>
      rcases List.mem_append.1 hs with hs | hs
      · exact absurd rfl (hr.action_ne hs _ _)
      · rw [List.mem_singleton] at hs
        cases hs
  | @faulted found _ _ _ hr | @overrun found _ _ hr =>
      rcases List.mem_append.1 hs with hs | hs
      · exact absurd rfl (hr.action_ne hs _ _)
      · simp only [List.mem_cons, List.not_mem_nil, or_false] at hs
        rcases hs with hs | hs | hs <;> cases hs
        exact ⟨found, _, by simp, .inr rfl⟩
  | @finished found _ _ _ hr hend =>
      rcases List.mem_append.1 hs with hs | hs
      · exact absurd rfl (hr.action_ne hs _ _)
      · simp only [List.mem_cons, List.not_mem_nil, or_false] at hs
        rcases hs with hs | hs <;> cases hs
        exact ⟨found, [], by simp, .inl ⟨rfl, isSome_ended_of_finished hend⟩⟩

/-- However a run ended that has started a process: its group was killed, and when the run has
    returned, those who are left of the ones that descend from the process are those who had left
    the group by then and those that they have started since. -/
theorem descendants_of_run {result : Except Failure ProcessOutput}
    (h : Runs (w.run command input limit stage) events result)
    (hs : ⟨.watch launch time, .ok session⟩ ∈ events) (hu : Unfolds leaves l events after) :
    ∃ first rest before,
      events = first ++ ⟨.killGroup session.process, ()⟩ :: rest ∧
        Unfolds leaves l first before ∧
        Unfolds leaves before (⟨.killGroup session.process, ()⟩ :: rest) after ∧
        KillsItsGroup leaves session.process before after ∧
        Spares leaves session.process before (⟨.killGroup session.process, ()⟩ :: rest) := by
  obtain ⟨found, last, rfl, hlast⟩ := (watches_of_runs h).eq_of_started hs
  obtain ⟨before, hfirst, hrest⟩ := hu.of_append
  refine ⟨found ++ [⟨.watch launch time, .ok session⟩], last, before, rfl, hfirst, hrest, ?_⟩
  obtain ⟨k, -, hwatch⟩ := hfirst.of_append
  obtain ⟨hfollowed, hended⟩ := hwatch.of_singleton.isFollowed
  obtain ⟨m, hkilled, hlast'⟩ := hrest.of_cons
  have hmoves : MovesOn leaves (before.killGroup session.process) m :=
    hkilled.movesOn_of_killGroup
  have hboth : MovesOn leaves before m := hmoves.head Lineage.moves_killGroup
  rcases hlast with ⟨rfl, hsome⟩ | rfl
  · -- The process had ended, and nobody else gets its number.
    cases hlast'
    exact ⟨hfollowed.killsItsGroup hmoves (hboth.stays_gone hfollowed.knows (hended hsome)),
      spares_killGroup⟩
  · -- It is killed by its number, alive or not.
    have hafter : MovesOn leaves (m.kill session.process) after :=
      hlast'.of_singleton.movesOn_of_kill
    have hknows : m.Knows session.process := hfollowed.knows.mono hboth.subset_starts
    have hgone : ∀ q, after.Alive q → q.id ≠ session.process :=
      hafter.stays_gone hknows fun q hq => Lineage.ne_of_alive_kill hq
    exact ⟨hfollowed.killsItsGroup (hmoves.trans (Lineage.movesOn_kill.trans hafter)) hgone,
      spares_killGroup_killProcess⟩

/-- A run whose program is its own path, once its process was started. -/
theorem runs_run_of_isPath {result : Except Failure ProcessOutput}
    (hpath : isPath command.program = true) (h : Runs (settle session stage limit) events result) :
    Runs (w.run command input limit stage)
      (⟨.watch ⟨command.program, command.arguments, w.path, input⟩ limit, .ok session⟩ :: events)
      result := by
  unfold Workspace.run resolve
  rw [if_pos hpath]
  exact .ask _ h

/-- A process that was started and does not end by itself. -/
def leader (id : Nat) : Process where
  id := id
  parent := 0
  group := id
  session := 0
  command := []
  directory := []
  mask := 0
  descriptors := []
  ignored := []
  caught := []
  pending := []
  isStopped := false
  readyAt := 0
  alarm := none
  life := .running (.done 0)

/-- What a process has started, in its group at first. -/
def follower (id : Nat) : Process := (leader id).fork (id + 1) 0 (.done 0)

/-- When a process and what it has started are alive. -/
def pair : Lineage := ⟨[leader 7, follower 7], [(0, 7), (7, 8)]⟩

theorem movesOn_pair : MovesOn leaves (Lineage.start ⟨[], []⟩ (leader 7)) pair := by
  have halive : (Lineage.start ⟨[], []⟩ (leader 7)).Alive (leader 7) :=
    ⟨by simp [Lineage.start], rfl⟩
  have hnew : (Lineage.start ⟨[], []⟩ (leader 7)).IsNew 8 :=
    ⟨by simp [Lineage.start, leader], by simp [Lineage.start, leader]⟩
  exact .single (.forks 0 (.done 0) halive hnew)

/-- The shell waits for its time to be over, and so does what it has started. -/
theorem descendants_of_run_together :
    let w : Workspace := ⟨"/tmp/polyglot-7", "7"⟩
    let command : Command := ⟨"/bin/sh", ["-c", "sleep 60 & sleep 60"]⟩
    let session : Session := ⟨7, none, ⟨[], none⟩, ⟨[], none⟩, some 0, none⟩
    let events : List Event :=
      [⟨.watch ⟨"/bin/sh", command.arguments, w.path, none⟩ (.ofMilliseconds 100), .ok session⟩,
        ⟨.killGroup 7, ()⟩, ⟨.killProcess 7, ()⟩]
    Runs (w.run command none (.ofMilliseconds 100) .run) events (.error (.timeout .run)) ∧
      ∃ after, Unfolds (fun _ => False) ⟨[], []⟩ events after ∧ after.Knows 8 ∧
        ∀ q, after.Alive q → ¬after.Descends 7 q.id := by
  intro w command session events
  have hruns : Runs (w.run command none (.ofMilliseconds 100) .run) events
      (.error (.timeout .run)) :=
    runs_run_of_isPath (by decide) (.ask _ (.ask _ (.done _)))
  have hunfolds : Unfolds (fun _ => False) ⟨[], []⟩ events ((pair.killGroup 7).kill 7) :=
    .cons (.started (p := leader 7) rfl rfl ⟨by simp, by simp⟩ movesOn_pair (by simp [session]))
      (.cons (.killedGroup .refl) (.cons (.killed .refl) (.nil _)))
  obtain ⟨_, _, _, -, -, -, hkills, -⟩ := descendants_of_run hruns List.mem_cons_self hunfolds
  exact ⟨hruns, _, hunfolds, ⟨7, by simp [pair, Lineage.kill, Lineage.killGroup]⟩,
    hkills.together fun _ _ h => h⟩

/-- The shell starts a program that becomes the leader of a session of its own, and ends: its
    status is returned, and the program lives on. -/
theorem alive_of_setsid :
    let w : Workspace := ⟨"/tmp/polyglot-7", "7"⟩
    let command : Command := ⟨"/bin/sh", ["-c", "setsid sleep 60 <&- >&- 2>&- & sleep 1"]⟩
    let session : Session :=
      ⟨7, some (1000000000, .exited 0), ⟨[], some 1000000000⟩, ⟨[], some 1000000000⟩, some 0, none⟩
    let events : List Event :=
      [⟨.watch ⟨"/bin/sh", command.arguments, w.path, none⟩ (.ofSeconds 10), .ok session⟩,
        ⟨.killGroup 7, ()⟩]
    Runs (w.run command none (.ofSeconds 10) .run) events (.ok ⟨.exited 0, "", ""⟩) ∧
      ∃ after q, Unfolds (fun n => n = 8) ⟨[], []⟩ events after ∧ after.Alive q ∧
        after.Descends 7 q.id := by
  intro w command session events
  have hruns : Runs (w.run command none (.ofSeconds 10) .run) events (.ok ⟨.exited 0, "", ""⟩) :=
    runs_run_of_isPath (by decide) (.ask _ (.done _))
  let stray : Process := (follower 7).newSession
  let left : Lineage := ⟨[leader 7, stray], pair.starts⟩
  let before : Lineage := ⟨[{ stray with parent := 1 }], pair.starts⟩
  have hleaves : Moves (fun n => n = 8) pair left :=
    .regroups (p := follower 7) 8 8 ⟨by simp [pair], rfl⟩ rfl
  have hends : Moves (fun n => n = 8) left { left with table := left.table.exit 7 0 } :=
    .exits left 7 0
  have hreaped : Moves (fun n => n = 8) { left with table := left.table.exit 7 0 } before := by
    refine .reaps 7 fun p hp hid => ?_
    cases hrunning : p.isRunning with
    | false => rfl
    | true =>
        have hp : p ∈ left.table.exit 7 0 := hp
        obtain ⟨-, -, -, -, -, hne⟩ := Processes.exists_of_mem_exit hp hrunning
        exact absurd hid hne
  have hmoves : MovesOn (fun n => n = 8) (Lineage.start ⟨[], []⟩ (leader 7)) before :=
    ((movesOn_pair.tail hleaves).tail hends).tail hreaped
  have hended : ∀ q, before.Alive q → q.id ≠ 7 := by
    intro q hq
    obtain rfl := List.mem_singleton.1 hq.1
    decide
  refine ⟨hruns, before, { stray with parent := 1 }, ?_, ⟨List.mem_singleton.2 rfl, rfl⟩, ?_⟩
  · exact .cons (.started (p := leader 7) rfl rfl ⟨by simp, by simp⟩ hmoves fun _ => hended)
      (.cons (.killedGroup .refl) (.nil _))
  · exact .single (List.mem_cons_of_mem _ List.mem_cons_self)

end Workspace

end Playground
