import Playground.Proofs.Execution.FirstFailure

set_option autoImplicit false

/-! # What processes are started for

A process is started in a workspace for the command that compiles the source or for the one that runs
the code (`Step.Ends.cases_of_watch`). If the language is compiled, the source was written before,
and the compiler is started right after that: only programs are looked up in between
(`Proceeds.cases_of_watch`). -/

namespace Playground

open Plan (Event Runs)
open Execution (asked exists_eq_append_of_not_mem)

theorem not_mem_asked {lookups : List (String × Option String)} {launch : Launch} {limit : Duration}
    {reply : Except HostError Session} : ⟨.watch launch limit, reply⟩ ∉ asked lookups := by
  intro h
  obtain ⟨lookup, -, he⟩ := List.mem_map.1 h
  cases he

/-! ## Commands and what is started for them -/

namespace Workspace

/-- A process is started for a command. -/
structure Launches (w : Workspace) (command : Command) (launch : Launch) : Prop where
  directory : launch.directory = w.path
  arguments : launch.arguments = command.arguments
  program : isPath command.program = true → launch.program = command.program

variable {w : Workspace} {command : Command} {input : Option String} {limit time : Duration}
  {stage : Stage} {events before after rest : List Event} {launch : Launch}
  {reply : Except HostError Session} {result : Except Outcome ProcessOutput}

theorem Resolves.eq_asked {program path : String} (h : Resolves program events path) :
    (∃ lookups, events = asked lookups) ∧ (isPath program = true → path = program) := by
  cases h with
  | asWritten => exact ⟨⟨[], rfl⟩, fun _ => rfl⟩
  | located hp => exact ⟨⟨[(program, some path)], rfl⟩, fun h => by simp [hp] at h⟩

/-- For a command one process is started at most, after its program was looked up. -/
theorem Watches.exists_eq (h : Watches w command input limit stage events result) :
    ∃ lookups tail, events = asked lookups ++ tail ∧ (tail = [] ∨
      ∃ launch reply kills, tail = ⟨.watch launch limit, reply⟩ :: kills ∧
        w.Launches command launch ∧ ∀ e ∈ kills, ∀ launch time, e.action ≠ .watch launch time) := by
  cases h with
  | notFound => exact ⟨[(command.program, none)], [], rfl, .inl rfl⟩
  | notStarted hr =>
      obtain ⟨⟨lookups, rfl⟩, hpath⟩ := hr.eq_asked
      exact ⟨lookups, _, rfl, .inr ⟨_, _, [], rfl, ⟨rfl, rfl, hpath⟩, List.forall_mem_nil _⟩⟩
  | faulted hr | overrun hr | finished hr =>
      obtain ⟨⟨lookups, rfl⟩, hpath⟩ := hr.eq_asked
      exact ⟨lookups, _, rfl, .inr ⟨_, _, _, rfl, ⟨rfl, rfl, hpath⟩, by simp⟩⟩

/-- Where a process is started while a command is watched, or later. -/
theorem Watches.cases_of_append (h : Watches w command input limit stage events result)
    (hevents : events ++ rest = before ++ ⟨.watch launch time, reply⟩ :: after) :
    (w.Launches command launch ∧ ∃ lookups, before = asked lookups) ∨
      ∃ between, rest = between ++ ⟨.watch launch time, reply⟩ :: after := by
  obtain ⟨lookups, tail, rfl, htail⟩ := h.exists_eq
  rw [List.append_assoc] at hevents
  -- looking up starts nothing: what is started comes first after it, or after the command
  obtain ⟨between, rfl, hrest⟩ := exists_eq_append_of_not_mem hevents not_mem_asked
  obtain rfl | ⟨launch', reply', kills, rfl, hlaunch, hkills⟩ := htail
  · exact .inr ⟨between, hrest⟩
  · cases between with
    | nil =>
        obtain ⟨he, -⟩ := List.cons.inj hrest
        cases he
        exact .inl ⟨hlaunch, lookups, by simp⟩
    | cons e between =>
        obtain ⟨-, hrest⟩ := List.cons.inj hrest
        obtain ⟨between', -, hrest⟩ := exists_eq_append_of_not_mem hrest
          fun hm => hkills _ hm _ _ rfl
        exact .inr ⟨between', hrest⟩

theorem Watches.launches_of_mem (h : Watches w command input limit stage events result)
    (hm : ⟨.watch launch time, reply⟩ ∈ events) : w.Launches command launch := by
  obtain ⟨before, after, rfl⟩ := List.append_of_mem hm
  obtain ⟨hlaunch, -⟩ | ⟨between, hnil⟩ := h.cases_of_append (List.append_nil _)
  · exact hlaunch
  · simp at hnil

end Workspace

namespace Execution

open Workspace (Launches)

variable {s : Settings} {t : Toolchain} {r : Request} {w : Workspace} {step : Step}
  {steps : List Step} {events before after : List Event} {verdict : Option Outcome}
  {outcome : Outcome} {log log' : List Done} {launch : Launch} {limit : Duration}
  {reply : Except HostError Session} {name : String} {command : Command}

/-! ## When processes are started -/

/-- A process is started to compile or to run. -/
theorem Step.Ends.cases_of_watch (h : step.Ends s t r w events verdict)
    (hm : ⟨.watch launch limit, reply⟩ ∈ events) :
    (step = .compile ∧ ∃ command, t.compileCommand? w.path = some command ∧
      w.Launches command launch) ∨
      (step = .run ∧ w.Launches (t.runCommand w.path r.code) launch) := by
  cases h with
  | toolsFound | toolsMissing => exact absurd hm not_mem_asked
  | sourcePassed => cases hm
  | rootRefused | directoryRefused | workspaceMade | sourceWritten | sourceRefused =>
      simp only [List.mem_cons, List.not_mem_nil, or_false] at hm
      rcases hm with hm | hm | hm <;> cases hm
  | compiled hc hw | sourceFaulty hc hw | compilerStopped hc hw =>
      exact .inl ⟨rfl, _, hc, hw.launches_of_mem hm⟩
  | ran hw | programFailed hw | programStopped hw => exact .inr ⟨rfl, hw.launches_of_mem hm⟩

theorem Step.Ends.watches_of_compile (h : Step.Ends s t r w .compile events verdict) :
    ∃ command result, t.compileCommand? w.path = some command ∧
      w.Watches command none s.compileLimit .compile events result := by
  cases h with
  | compiled hc hw | sourceFaulty hc hw | compilerStopped hc hw => exact ⟨_, _, hc, hw⟩

theorem mem_of_eq_append {α : Type} {list before after : List α} {x : α}
    (h : list = before ++ x :: after) : x ∈ list := by
  simp [h]

theorem not_mem_removal : ⟨.watch launch limit, reply⟩ ∉ removal w log := by
  intro hm
  cases mem_removal hm

theorem removal_ne_append : removal w log ≠ before ++ ⟨.watch launch limit, reply⟩ :: after := by
  intro h
  exact not_mem_removal (mem_of_eq_append h)

/-- What is started in an execution is started by one of its steps. -/
theorem Proceeds.exists_of_watch (h : Proceeds s t r w steps log outcome)
    (hm : ⟨.watch launch limit, reply⟩ ∈ log.flatMap Done.events ++ removal w log') :
    ∃ step ∈ steps, ∃ events verdict, step.Ends s t r w events verdict ∧
      ⟨.watch launch limit, reply⟩ ∈ events := by
  obtain ⟨d, hd, hm⟩ := List.mem_flatMap.1 ((List.mem_append.1 hm).resolve_right not_mem_removal)
  exact ⟨d.step, h.in_order.subset (List.mem_map_of_mem hd), d.events, d.verdict, h.ends d hd, hm⟩

/-- It is started in the workspace. -/
theorem Proceeds.directory_eq (h : Proceeds s t r w steps log outcome)
    (hm : ⟨.watch launch limit, reply⟩ ∈ log.flatMap Done.events ++ removal w log') :
    launch.directory = w.path := by
  obtain ⟨step, -, events, verdict, hends, hm⟩ := h.exists_of_watch hm
  obtain ⟨-, command, -, hlaunch⟩ | ⟨-, hlaunch⟩ := hends.cases_of_watch hm
  · exact hlaunch.directory
  · exact hlaunch.directory

/-- The first of some steps does not start what is started in the course of them, if it is neither to
    compile nor to run. -/
theorem Proceeds.skip (h : Proceeds s t r w (step :: steps) log outcome)
    (hcompile : step ≠ .compile) (hrun : step ≠ .run)
    (hevents : log.flatMap Done.events ++ removal w log' =
      before ++ ⟨.watch launch limit, reply⟩ :: after) :
    ∃ events rest between, step.Ends s t r w events none ∧ Proceeds s t r w steps rest outcome ∧
      before = events ++ between ∧ rest.flatMap Done.events ++ removal w log' =
        between ++ ⟨.watch launch limit, reply⟩ :: after := by
  have hnot {events : List Event} {verdict : Option Outcome}
      (hends : step.Ends s t r w events verdict) : ⟨.watch launch limit, reply⟩ ∉ events := by
    intro hm
    obtain ⟨rfl, -⟩ | ⟨rfl, -⟩ := hends.cases_of_watch hm
    · exact hcompile rfl
    · exact hrun rfl
  obtain ⟨events, rfl, hends⟩ | ⟨events, rest, rfl, hends, hrest⟩ := h.of_cons
  · rw [List.flatMap_singleton] at hevents
    obtain ⟨between, -, htail⟩ := exists_eq_append_of_not_mem hevents (hnot hends)
    exact absurd htail removal_ne_append
  · rw [List.flatMap_cons, List.append_assoc] at hevents
    obtain ⟨between, rfl, hbetween⟩ := exists_eq_append_of_not_mem hevents (hnot hends)
    exact ⟨events, rest, between, hends, hrest, rfl, hbetween⟩

/-- Of compiling and running, one starts a process, and before that only programs are looked up if it
    is compiling. -/
theorem Proceeds.cases_of_compile (h : Proceeds s t r w [.compile, .run] log outcome)
    (hevents : log.flatMap Done.events ++ removal w log' =
      before ++ ⟨.watch launch limit, reply⟩ :: after) :
    (∃ command lookups, t.compileCommand? w.path = some command ∧ w.Launches command launch ∧
      before = asked lookups) ∨ w.Launches (t.runCommand w.path r.code) launch := by
  obtain ⟨events, rfl, hends⟩ | ⟨events, rest, rfl, hends, hrest⟩ := h.of_cons
  · rw [List.flatMap_singleton] at hevents
    obtain ⟨command, result, hc, hw⟩ := hends.watches_of_compile
    obtain ⟨hlaunch, lookups, rfl⟩ | ⟨between, htail⟩ := hw.cases_of_append hevents
    · exact .inl ⟨command, lookups, hc, hlaunch, rfl⟩
    · exact absurd htail removal_ne_append
  · rw [List.flatMap_cons, List.append_assoc] at hevents
    obtain ⟨command, result, hc, hw⟩ := hends.watches_of_compile
    obtain ⟨hlaunch, lookups, rfl⟩ | ⟨between, hrest'⟩ := hw.cases_of_append hevents
    · exact .inl ⟨command, lookups, hc, hlaunch, rfl⟩
    · obtain ⟨step, hstep, events, verdict, hends, hm⟩ :=
        hrest.exists_of_watch (mem_of_eq_append hrest')
      rw [List.mem_singleton] at hstep
      subst hstep
      obtain ⟨⟨⟩, -⟩ | ⟨-, hlaunch⟩ := hends.cases_of_watch hm
      exact .inr hlaunch

/-- Before a process is started for a source that is compiled, the source was written. Only programs
    were looked up since then if it is compiled now. -/
theorem Proceeds.cases_of_watch (h : Proceeds s t r w (Step.sequence t w) log outcome)
    (hname : t.sourceName? = some name) (hc : t.compileCommand? w.path = some command)
    (hevents : log.flatMap Done.events ++ removal w log =
      before ++ ⟨.watch launch limit, reply⟩ :: after) :
    ∃ first between, before = first ++ ⟨.write (w.filePath name) r.code, .ok ()⟩ :: between ∧
      ((w.Launches command launch ∧ ∃ lookups, between = asked lookups) ∨
        w.Launches (t.runCommand w.path r.code) launch) := by
  have hsteps : Step.sequence t w = [.findTools, .makeWorkspace, .writeSource, .compile, .run] := by
    simp [Step.sequence, hc]
  rw [hsteps] at h
  -- the first three steps start nothing, and the last of them is the writing
  obtain ⟨found, _, _, -, hmake, rfl, hafter⟩ := h.skip (by decide) (by decide) hevents
  obtain ⟨made, _, _, -, hwrite, rfl, hafter'⟩ := hmake.skip (by decide) (by decide) hafter
  obtain ⟨written, rest, between, hwritten, hrest, rfl, hbetween⟩ :=
    hwrite.skip (by decide) (by decide) hafter'
  have hwritten : written = [⟨.write (w.filePath name) r.code, .ok ()⟩] := by
    cases hwritten with
    | sourcePassed hnone => cases hname.symm.trans hnone
    | sourceWritten hsome =>
        cases hname.symm.trans hsome
        rfl
  subst hwritten
  refine ⟨found ++ made, between, by simp, ?_⟩
  obtain ⟨command', lookups, hc', hlaunch, rfl⟩ | hlaunch := hrest.cases_of_compile hbetween
  · cases hc.symm.trans hc'
    exact .inl ⟨hlaunch, lookups, rfl⟩
  · exact .inr hlaunch

end Execution

end Playground
