import Playground.Proofs.Execution.Step

set_option autoImplicit false

/-! # The first failure decides

Whatever the host replies, an execution does the steps of `Step.sequence` one after the other, and
the first of them that fails is the last that is done: its words and its kind are the outcome. The
outcome is a success only if all steps were done and the program ended well; it is then what the
program wrote, as it stands. A program is not started whose source did not compile.

The outcome is decided step by step (`Proceeds`); what holds of all executions follows by induction
on that. -/

namespace Playground.Execution

open Plan (Event Runs)

/-- A step that was done: what was asked and replied, and the outcome that it decided, if it decided
    one. -/
structure Done where
  step : Step
  events : List Event
  verdict : Option Outcome

/-- Steps are done in order until one of them decides the outcome. -/
inductive Proceeds (s : Settings) (t : Toolchain) (r : Request) (w : Workspace) :
    List Step → List Done → Outcome → Prop where
  | decided {step : Step} {steps : List Step} {events : List Event} {outcome : Outcome}
      (h : step.Ends s t r w events (some outcome)) :
      Proceeds s t r w (step :: steps) [⟨step, events, some outcome⟩] outcome
  | next {step : Step} {steps : List Step} {events : List Event} {log : List Done}
      {outcome : Outcome} (h : step.Ends s t r w events none)
      (rest : Proceeds s t r w steps log outcome) :
      Proceeds s t r w (step :: steps) (⟨step, events, none⟩ :: log) outcome

/-- The removal of a workspace, if one was made. -/
def removal (w : Workspace) (log : List Done) : List Event :=
  if log.any fun d => d.step == .makeWorkspace && d.verdict.isNone then [⟨.remove w.path, ()⟩]
  else []

/-- How the steps that were done, all that was asked and replied, and the outcome belong together
    when the first failure decides. -/
structure FirstFailureDecides (s : Settings) (t : Toolchain) (r : Request) (w : Workspace)
    (log : List Done) (trace : List Event) (outcome : Outcome) : Prop where
  /-- Each step asked what it has to ask, and ended as the replies say. -/
  ends : ∀ d ∈ log, d.step.Ends s t r w d.events d.verdict
  /-- What was done is the beginning of the sequence. -/
  in_order : log.map Done.step <+: Step.sequence t w
  /-- Apart from the steps, nothing happened but the removal of the workspace. -/
  nothing_else : trace = log.flatMap Done.events ++ removal w log
  /-- Only the last step decided, and it decided the outcome. -/
  decided_by_last : ∃ earlier last, log = earlier ++ [last] ∧
    (∀ d ∈ earlier, d.verdict = none) ∧ last.verdict = some outcome
  /-- It is a success exactly if all steps were done and the program ended well; then it is what the
      program wrote. -/
  success_iff : ∀ output, outcome = .success output ↔
    log.map Done.step = Step.sequence t w ∧ ∃ path session o,
      ⟨.watch ⟨path, (t.runCommand w.path r.code).arguments, w.path, r.input⟩ s.runLimit,
        .ok session⟩ ∈ trace ∧
      session.result s.runLimit = .finished o ∧ o.status.isSuccess = true ∧ o.stdout = output
  /-- Before the program of a compiled language was started, its compiler had ended well. -/
  compiled_before : ∀ command, t.compileCommand? w.path = some command →
    ∀ before launch limit reply after, trace = before ++ ⟨.watch launch limit, reply⟩ :: after →
      launch.arguments = (t.runCommand w.path r.code).arguments →
      ∃ path session o,
        ⟨.watch ⟨path, command.arguments, w.path, none⟩ s.compileLimit, .ok session⟩ ∈ before ∧
        session.result s.compileLimit = .finished o ∧ o.status.isSuccess = true

variable {s : Settings} {t : Toolchain} {r : Request} {w : Workspace} {steps : List Step}
  {log : List Done} {outcome : Outcome}

/-! ## From step to step -/

theorem Proceeds.of_cons {step : Step} (h : Proceeds s t r w (step :: steps) log outcome) :
    (∃ events, log = [⟨step, events, some outcome⟩] ∧ step.Ends s t r w events (some outcome)) ∨
      ∃ events rest, log = ⟨step, events, none⟩ :: rest ∧ step.Ends s t r w events none ∧
        Proceeds s t r w steps rest outcome := by
  cases h with
  | decided h => exact .inl ⟨_, rfl, h⟩
  | next h rest => exact .inr ⟨_, _, rfl, h, rest⟩

theorem Proceeds.ends (h : Proceeds s t r w steps log outcome) :
    ∀ d ∈ log, d.step.Ends s t r w d.events d.verdict := by
  induction h with
  | decided h =>
      intro d hd
      rw [List.mem_singleton] at hd
      subst hd
      exact h
  | next h rest ih =>
      intro d hd
      rcases List.mem_cons.1 hd with rfl | hd
      · exact h
      · exact ih d hd

theorem Proceeds.in_order (h : Proceeds s t r w steps log outcome) :
    log.map Done.step <+: steps := by
  induction h with
  | decided h => simp
  | next h rest ih => simpa using ih

theorem Proceeds.decided_by_last (h : Proceeds s t r w steps log outcome) :
    ∃ earlier last, log = earlier ++ [last] ∧ (∀ d ∈ earlier, d.verdict = none) ∧
      last.verdict = some outcome := by
  induction h with
  | decided h => exact ⟨[], _, rfl, by simp, rfl⟩
  | next h rest ih =>
      obtain ⟨earlier, last, rfl, hearlier, hlast⟩ := ih
      refine ⟨_ :: earlier, last, rfl, ?_, hlast⟩
      intro d hd
      rcases List.mem_cons.1 hd with rfl | hd
      · rfl
      · exact hearlier d hd

theorem proceeds_of_runs_inWorkspace {events : List Event} {result : Except Failure String}
    (h : Runs (inWorkspace s t r.code r.input w) events result) :
    ∃ log, Proceeds s t r w
        (.writeSource :: ((if (t.compileCommand? w.path).isSome then [.compile] else []) ++ [.run]))
        log (.ofExcept result) ∧
      events = log.flatMap Done.events := by
  rcases Runs.of_onSuccess h with ⟨f, rfl, hf⟩ | ⟨writing, _, rest, rfl, hwriting, hrest⟩
  · exact ⟨_, .decided (ends_of_runs_writeSource hf), by simp⟩
  · have hwritten := ends_of_runs_writeSource (s := s) hwriting
    cases hc : t.compileCommand? w.path with
    | none =>
        rw [compile, hc] at hrest
        have hrun := ends_of_runs_run hrest
        exact ⟨_, .next hwritten (.decided hrun), by simp⟩
    | some command =>
        rcases Runs.of_onSuccess hrest with
          ⟨f, rfl, hf⟩ | ⟨compiling, _, running, rfl, hcompiling, hrunning⟩
        · exact ⟨_, .next hwritten (.decided (ends_of_runs_compile hc hf)), by simp⟩
        · have hcompiled := ends_of_runs_compile (r := r) hc hcompiling
          have hrun := ends_of_runs_run hrunning
          exact ⟨_, .next hwritten (.next hcompiled (.decided hrun)), by simp⟩

/-- An execution proceeds through the whole sequence, and removes what it has made. -/
theorem proceeds_of_runs {l : Language} {trace : List Event}
    (h : Runs (Service.execution s l r) trace outcome) :
    ∃ w log, Proceeds s (Toolchain.ofSettings s l) r w
        (Step.sequence (Toolchain.ofSettings s l) w) log outcome ∧
      trace = log.flatMap Done.events ++ removal w log := by
  obtain ⟨_, result, _, rfl, hplan, hdone⟩ := Runs.of_bind h
  obtain ⟨rfl, rfl⟩ := Runs.of_done hdone
  rcases Runs.of_onSuccess hplan with ⟨f, rfl, hf⟩ | ⟨looking, _, rest, rfl, hlooking, hrest⟩
  · exact ⟨⟨"", ""⟩, _, .decided (ends_of_runs_checkTools hf), by simp [removal]⟩
  · obtain ⟨making, made, rest, rfl, hmaking, hmade⟩ := Runs.of_bind hrest
    obtain ⟨w, hworkspace, hw⟩ :=
      ends_of_runs_create (t := Toolchain.ofSettings s l) (r := r) hmaking
    have hfound := ends_of_runs_checkTools (s := s) (r := r) (w := w) hlooking
    cases made with
    | error f =>
        obtain ⟨rfl, rfl⟩ := Runs.of_done hmade
        exact ⟨w, _, .next hfound (.decided hworkspace), by simp [removal]⟩
    | ok made =>
        obtain rfl := hw made rfl
        obtain ⟨inside, result', removing, rfl, hinside, hremoving⟩ := Runs.of_bind hmade
        obtain ⟨⟨⟩, last, rfl, hlast⟩ := Runs.of_request_bind hremoving
        obtain ⟨rfl, rfl⟩ := Runs.of_done hlast
        obtain ⟨log, hlog, rfl⟩ := proceeds_of_runs_inWorkspace hinside
        exact ⟨made, _, .next hfound (.next hworkspace hlog), by simp [removal]⟩

/-! ## Where the program is started -/

theorem eq_sequence_of_mem {done : List Step} (h : done <+: Step.sequence t w) (hr : .run ∈ done) :
    done = Step.sequence t w := by
  rcases List.prefix_concat_iff.1 h with h | h
  · exact h
  · have hrun := h.subset hr
    split at hrun <;> simp at hrun

theorem compile_mem_sequence {command : Command} (h : t.compileCommand? w.path = some command) :
    .compile ∈ Step.sequence t w := by
  simp [Step.sequence, h]

/-- No compiler is started with the arguments that a program is started with. -/
theorem compile_arguments_ne {command : Command} (h : t.compileCommand? w.path = some command) :
    command.arguments ≠ (t.runCommand w.path r.code).arguments := by
  cases t with
  | python => cases h
  | java => cases h; simp [Toolchain.runCommand]
  | cpp => cases h; simp [Toolchain.runCommand]

section Started

variable {step : Step} {events : List Event} {verdict : Option Outcome}

theorem Step.Ends.eq_run (h : step.Ends s t r w events verdict) {e : Event} (he : e ∈ events)
    {launch : Launch} {limit : Duration} (hl : e.action = .watch launch limit)
    (ha : launch.arguments = (t.runCommand w.path r.code).arguments) : step = .run := by
  have hcompile {command : Command} {result : Except Outcome ProcessOutput}
      (hc : t.compileCommand? w.path = some command)
      (hw : w.Watches command none s.compileLimit .compile events result) : False :=
    compile_arguments_ne hc ((hw.arguments_eq he hl).symm.trans ha)
  cases h with
  | toolsFound | toolsMissing =>
      obtain ⟨entry, -, rfl⟩ := List.mem_map.1 he
      cases hl
  | sourcePassed => cases he
  | rootRefused | directoryRefused | workspaceMade | sourceWritten | sourceRefused =>
      simp only [List.mem_cons, List.not_mem_nil, or_false] at he
      rcases he with rfl | rfl | rfl <;> cases hl
  | compiled hc hw | sourceFaulty hc hw | compilerStopped hc hw => exact (hcompile hc hw).elim
  | ran | programFailed | programStopped => rfl

/-- Running is the last step: it never leaves the outcome open. -/
theorem Step.Ends.isSome_of_run (h : Step.Ends s t r w .run events verdict) :
    verdict.isSome = true := by
  cases h <;> rfl

/-- Only a program that ended well makes a success. -/
theorem Step.Ends.of_success {output : String}
    (h : step.Ends s t r w events (some (.success output))) :
    step = .run ∧ ∃ path session o,
      ⟨.watch ⟨path, (t.runCommand w.path r.code).arguments, w.path, r.input⟩ s.runLimit,
        .ok session⟩ ∈ events ∧
      session.result s.runLimit = .finished o ∧ o.status.isSuccess = true ∧ o.stdout = output := by
  cases h with
  | compilerStopped hc hw => cases hw.isSuccess_eq_false
  | programStopped hw => cases hw.isSuccess_eq_false
  | @ran _ o hw hs =>
      obtain ⟨path, session, hm, hr⟩ := hw.exists_session
      exact ⟨rfl, path, session, o, hm, hr, hs, rfl⟩

theorem Step.Ends.eq_success {outcome : Outcome} {launch : Launch} {limit : Duration}
    {session : Session} {o : ProcessOutput}
    (h : Step.Ends s t r w .run events (some outcome))
    (hm : ⟨.watch launch limit, .ok session⟩ ∈ events)
    (hr : session.result s.runLimit = .finished o) (ho : o.status.isSuccess = true) :
    outcome = .success o.stdout := by
  cases h with
  | ran hw hs =>
      cases hw.eq_ok_of_mem hm hr
      rfl
  | programFailed hw hs =>
      cases hw.eq_ok_of_mem hm hr
      rw [ho] at hs
      cases hs
  | programStopped hw => cases hw.eq_ok_of_mem hm hr

theorem Step.Ends.exists_compiled {command : Command}
    (h : Step.Ends s t r w .compile events none) (hc : t.compileCommand? w.path = some command) :
    ∃ path session o,
      ⟨.watch ⟨path, command.arguments, w.path, none⟩ s.compileLimit, .ok session⟩ ∈ events ∧
      session.result s.compileLimit = .finished o ∧ o.status.isSuccess = true := by
  cases h with
  | @compiled command' _ o hc' hw hs =>
      obtain rfl : command' = command := Option.some.inj (hc'.symm.trans hc)
      obtain ⟨path, session, hm, hr⟩ := hw.exists_session
      exact ⟨path, session, o, hm, hr, hs⟩

end Started

/-! ## All executions -/

/-- Nothing that earlier steps did is started as the program is. -/
theorem not_mem_flatMap_of_started {earlier : List Done}
    (hends : ∀ d ∈ earlier, d.step.Ends s t r w d.events none) {e : Event} {launch : Launch}
    {limit : Duration} (hl : e.action = .watch launch limit)
    (ha : launch.arguments = (t.runCommand w.path r.code).arguments) :
    e ∉ earlier.flatMap Done.events := by
  intro he
  obtain ⟨d, hd, he⟩ := List.mem_flatMap.1 he
  have hend := hends d hd
  rw [hend.eq_run he hl ha] at hend
  cases hend.isSome_of_run

theorem mem_removal {log : List Done} {e : Event} (he : e ∈ removal w log) :
    e.action = .remove w.path := by
  unfold removal at he
  split at he
  · rw [List.mem_singleton] at he
    subst he
    rfl
  · cases he

/-- Of a list that goes on with `x` somewhere, a beginning without `x` lies before `x`. -/
theorem exists_eq_append_of_not_mem {α : Type} {first rest before after : List α} {x : α}
    (h : first ++ rest = before ++ x :: after) (hx : x ∉ first) :
    ∃ between, before = first ++ between ∧ rest = between ++ x :: after := by
  rcases List.append_eq_append_iff.1 h with ⟨between, hb, hr⟩ | ⟨between, hf, hr⟩
  · exact ⟨between, hb, hr⟩
  · cases between with
    | nil => exact ⟨[], by simpa using hf.symm, by simpa using hr.symm⟩
    | cons y ys =>
        cases hr
        simp [hf] at hx

section Split

variable {earlier : List Done} {last : Done} {trace : List Event}

/-- Whatever is started as the program is, the last step started it, and that step is `run`. -/
theorem mem_last_of_started (hopen : ∀ d ∈ earlier, d.step.Ends s t r w d.events none)
    (hdecided : last.step.Ends s t r w last.events (some outcome))
    (htrace : trace = (earlier ++ [last]).flatMap Done.events ++ removal w (earlier ++ [last]))
    {e : Event} {launch : Launch} {limit : Duration} (hl : e.action = .watch launch limit)
    (ha : launch.arguments = (t.runCommand w.path r.code).arguments) (he : e ∈ trace) :
    e ∈ last.events ∧ last.step = .run := by
  rw [htrace, List.flatMap_append, List.flatMap_singleton] at he
  rcases List.mem_append.1 he with he | he
  · rcases List.mem_append.1 he with he | he
    · exact absurd he (not_mem_flatMap_of_started hopen hl ha)
    · exact ⟨he, hdecided.eq_run he hl ha⟩
  · simp [mem_removal he] at hl

theorem map_step_eq_sequence (hordered : (earlier ++ [last]).map Done.step <+: Step.sequence t w)
    (hrun : last.step = .run) : (earlier ++ [last]).map Done.step = Step.sequence t w :=
  eq_sequence_of_mem hordered (by simp [hrun])

theorem eq_success_iff (hopen : ∀ d ∈ earlier, d.step.Ends s t r w d.events none)
    (hdecided : last.step.Ends s t r w last.events (some outcome))
    (hordered : (earlier ++ [last]).map Done.step <+: Step.sequence t w)
    (htrace : trace = (earlier ++ [last]).flatMap Done.events ++ removal w (earlier ++ [last]))
    (output : String) :
    outcome = .success output ↔
      (earlier ++ [last]).map Done.step = Step.sequence t w ∧ ∃ path session o,
        ⟨.watch ⟨path, (t.runCommand w.path r.code).arguments, w.path, r.input⟩ s.runLimit,
          .ok session⟩ ∈ trace ∧
        session.result s.runLimit = .finished o ∧ o.status.isSuccess = true ∧
        o.stdout = output := by
  constructor
  · rintro rfl
    obtain ⟨hrun, path, session, o, hm, hr, ho, hout⟩ := hdecided.of_success
    refine ⟨map_step_eq_sequence hordered hrun, path, session, o, ?_, hr, ho, hout⟩
    rw [htrace]
    simp [hm]
  · rintro ⟨-, path, session, o, hm, hr, ho, rfl⟩
    obtain ⟨hm, hrun⟩ := mem_last_of_started hopen hdecided htrace rfl rfl hm
    rw [hrun] at hdecided
    exact hdecided.eq_success hm hr ho

/-- The step that compiles is one of those that came through before the program was started. -/
theorem exists_compiled_before (hopen : ∀ d ∈ earlier, d.step.Ends s t r w d.events none)
    (hdecided : last.step.Ends s t r w last.events (some outcome))
    (hordered : (earlier ++ [last]).map Done.step <+: Step.sequence t w)
    (htrace : trace = (earlier ++ [last]).flatMap Done.events ++ removal w (earlier ++ [last]))
    {command : Command} (hc : t.compileCommand? w.path = some command)
    {before after : List Event} {launch : Launch} {limit : Duration}
    {reply : (Action.watch launch limit).Reply}
    (hsplit : trace = before ++ ⟨.watch launch limit, reply⟩ :: after)
    (ha : launch.arguments = (t.runCommand w.path r.code).arguments) :
    ∃ path session o,
      ⟨.watch ⟨path, command.arguments, w.path, none⟩ s.compileLimit, .ok session⟩ ∈ before ∧
      session.result s.compileLimit = .finished o ∧ o.status.isSuccess = true := by
  obtain ⟨-, hrun⟩ := mem_last_of_started hopen hdecided htrace
    (e := ⟨.watch launch limit, reply⟩) rfl ha (by simp [hsplit])
  have hmem : .compile ∈ (earlier ++ [last]).map Done.step := by
    rw [map_step_eq_sequence hordered hrun]
    exact compile_mem_sequence hc
  obtain ⟨d, hd, hcompile⟩ : ∃ d ∈ earlier, d.step = .compile := by
    simpa [hrun] using hmem
  have hcompiled := hopen d hd
  rw [hcompile] at hcompiled
  obtain ⟨path, session, o, hm, hr, ho⟩ := hcompiled.exists_compiled hc
  refine ⟨path, session, o, ?_, hr, ho⟩
  rw [htrace, List.flatMap_append, List.append_assoc] at hsplit
  obtain ⟨between, rfl, -⟩ := exists_eq_append_of_not_mem hsplit
    (not_mem_flatMap_of_started hopen rfl ha)
  exact List.mem_append_left _ (List.mem_flatMap.2 ⟨d, hd, hm⟩)

end Split

theorem Proceeds.firstFailureDecides {trace : List Event}
    (h : Proceeds s t r w (Step.sequence t w) log outcome)
    (htrace : trace = log.flatMap Done.events ++ removal w log) :
    FirstFailureDecides s t r w log trace outcome := by
  have hends := h.ends
  have hordered := h.in_order
  obtain ⟨earlier, last, rfl, hearlier, hlast⟩ := h.decided_by_last
  have hopen : ∀ d ∈ earlier, d.step.Ends s t r w d.events none := by
    intro d hd
    rw [← hearlier d hd]
    exact hends d (List.mem_append_left _ hd)
  have hdecided : last.step.Ends s t r w last.events (some outcome) := by
    rw [← hlast]
    exact hends last (by simp)
  refine ⟨hends, hordered, htrace, ⟨earlier, last, rfl, hearlier, hlast⟩, ?_, ?_⟩
  · exact eq_success_iff hopen hdecided hordered htrace
  · intro command hc before launch limit reply after hsplit ha
    exact exists_compiled_before hopen hdecided hordered htrace hc hsplit ha

/-- Whatever a host replies, an execution does its steps in order, and the first that fails decides
    what is answered. -/
theorem follow_execution_decided_by_first_failure (s : Settings) (l : Language) (r : Request)
    (host : Plan.Environment) (past : List Event) :
    ∃ w log trace,
      ((Service.execution s l r).follow host past).1 = past ++ trace ∧
      FirstFailureDecides s (Toolchain.ofSettings s l) r w log trace
        ((Service.execution s l r).follow host past).2 := by
  obtain ⟨trace, hpast, hruns⟩ := Plan.runs_follow host past (Service.execution s l r)
  obtain ⟨w, log, hlog, htrace⟩ := proceeds_of_runs hruns
  exact ⟨w, log, trace, hpast, hlog.firstFailureDecides htrace⟩

end Playground.Execution
