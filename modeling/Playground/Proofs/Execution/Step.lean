import Playground.Proofs.Plan
import Playground.Service

set_option autoImplicit false

/-! # The steps of an execution

An execution is up to five steps: find the tools, make a workspace, write the source, compile it,
run it. `Step.Ends` says for each of them what it asks of the host, and what the replies make of it:
either the next step is to be done, or the outcome of the whole execution is decided. It says so
rule by rule and in the words that the caller gets, without a plan. The second part of the module
shows that the plans do nothing else. -/

namespace Playground

open Plan (Event Runs)

/-! ## Watching a command -/

namespace Workspace

/-- How a program is found: it is its own path, or the host knows one for it. -/
inductive Resolves (program : String) : List Event → String → Prop where
  | asWritten (h : isPath program = true) : Resolves program [] program
  | located {path : String} (h : isPath program = false) :
      Resolves program [⟨.locate program, some path⟩] path

/-- What is asked when a command is run in a workspace, and what comes of it: an output, or the
    outcome that this decides. -/
inductive Watches (w : Workspace) (command : Command) (input : Option String) (limit : Duration)
    (stage : Stage) : List Event → Except Outcome ProcessOutput → Prop where
  | notFound (h : isPath command.program = false) :
      Watches w command input limit stage [⟨.locate command.program, none⟩]
        (.error (.failure ("Required tool not found: " ++ command.program) .internalFault))
  | notStarted {found : List Event} {path : String} {e : HostError}
      (h : Resolves command.program found path) :
      Watches w command input limit stage
        (found ++ [⟨.watch ⟨path, command.arguments, w.path, input⟩ limit, .error e⟩])
        (.error (.failure
          ("System error: Failed to spawn " ++ command.program ++ ": " ++ e.message)
          .internalFault))
  | faulted {found : List Event} {path : String} {session : Session} {e : HostError}
      (h : Resolves command.program found path) (hs : session.result limit = .faulted e) :
      Watches w command input limit stage
        (found ++ [⟨.watch ⟨path, command.arguments, w.path, input⟩ limit, .ok session⟩,
          ⟨.killGroup session.process, ()⟩, ⟨.killProcess session.process, ()⟩])
        (.error (.failure ("System error: Process I/O failed: " ++ e.message) .internalFault))
  | overrun {found : List Event} {path : String} {session : Session}
      (h : Resolves command.program found path) (hs : session.result limit = .overrun) :
      Watches w command input limit stage
        (found ++ [⟨.watch ⟨path, command.arguments, w.path, input⟩ limit, .ok session⟩,
          ⟨.killGroup session.process, ()⟩, ⟨.killProcess session.process, ()⟩])
        (.error (.failure (stage.name ++ " timed out") .timeout))
  | finished {found : List Event} {path : String} {session : Session} {output : ProcessOutput}
      (h : Resolves command.program found path) (hs : session.result limit = .finished output) :
      Watches w command input limit stage
        (found ++ [⟨.watch ⟨path, command.arguments, w.path, input⟩ limit, .ok session⟩,
          ⟨.killGroup session.process, ()⟩])
        (.ok output)

/-- Nothing is started by looking a program up. -/
theorem Resolves.action_ne {program path : String} {events : List Event}
    (h : Resolves program events path) {e : Event} (he : e ∈ events) (launch : Launch)
    (limit : Duration) : e.action ≠ .watch launch limit := by
  cases h with
  | asWritten => simp at he
  | located =>
      rw [List.mem_singleton] at he
      subst he
      simp

section Watches

variable {w : Workspace} {command : Command} {input : Option String} {limit : Duration}
  {stage : Stage} {events : List Event}

/-- The only process that is started is that of the command. -/
theorem Watches.arguments_eq {result : Except Outcome ProcessOutput}
    (h : Watches w command input limit stage events result) {e : Event} (he : e ∈ events)
    {launch : Launch} {time : Duration} (hl : e.action = .watch launch time) :
    launch.arguments = command.arguments := by
  cases h with
  | notFound => simp_all
  | notStarted hr =>
      rcases List.mem_append.1 he with he | he
      · exact absurd hl (hr.action_ne he _ _)
      · simp only [List.mem_singleton] at he
        subst he
        cases hl
        rfl
  | faulted hr | overrun hr | finished hr =>
      rcases List.mem_append.1 he with he | he
      · exact absurd hl (hr.action_ne he _ _)
      · simp only [List.mem_cons, List.not_mem_nil, or_false] at he
        rcases he with rfl | rfl | rfl <;> cases hl
        rfl

theorem Watches.exists_session {output : ProcessOutput}
    (h : Watches w command input limit stage events (.ok output)) :
    ∃ path session,
      ⟨.watch ⟨path, command.arguments, w.path, input⟩ limit, .ok session⟩ ∈ events ∧
        session.result limit = .finished output := by
  cases h with
  | @finished found path session _ hr hs => exact ⟨path, session, by simp, hs⟩

/-- What the session of a command came to is what its watch comes to. -/
theorem Watches.eq_ok_of_mem {result : Except Outcome ProcessOutput}
    (h : Watches w command input limit stage events result) {launch : Launch} {time : Duration}
    {session : Session} {output : ProcessOutput}
    (hm : ⟨.watch launch time, .ok session⟩ ∈ events)
    (hs : session.result limit = .finished output) : result = .ok output := by
  cases h with
  | notFound =>
      rw [List.mem_singleton] at hm
      cases hm
  | notStarted hr =>
      rcases List.mem_append.1 hm with hm | hm
      · exact absurd rfl (hr.action_ne hm _ _)
      · rw [List.mem_singleton] at hm
        cases hm
  | faulted hr hs' | overrun hr hs' | finished hr hs' =>
      rcases List.mem_append.1 hm with hm | hm
      · exact absurd rfl (hr.action_ne hm _ _)
      · simp only [List.mem_cons, List.not_mem_nil, or_false] at hm
        rcases hm with hm | hm | hm <;> cases hm
        simp_all

theorem Watches.isSuccess_eq_false {outcome : Outcome}
    (h : Watches w command input limit stage events (.error outcome)) :
    outcome.isSuccess = false := by
  cases h <;> rfl

end Watches

theorem resolves_of_runs {program : String} {events : List Event} {result : Except Failure String}
    (h : Runs (resolve program) events result) :
    (∃ path, result = .ok path ∧ Resolves program events path) ∨
      (isPath program = false ∧ events = [⟨.locate program, none⟩] ∧
        result = .error (.missingTools [program])) := by
  unfold resolve at h
  split at h
  · next hp =>
      obtain ⟨rfl, rfl⟩ := Runs.of_done h
      exact .inl ⟨program, rfl, .asWritten hp⟩
  · next hp =>
      have hp : isPath program = false := by simpa using hp
      obtain ⟨reply, rest, rfl, hrest⟩ := Runs.of_request_bind h
      cases reply with
      | none =>
          obtain ⟨rfl, rfl⟩ := Runs.of_done hrest
          exact .inr ⟨hp, rfl, rfl⟩
      | some path =>
          obtain ⟨rfl, rfl⟩ := Runs.of_done hrest
          exact .inl ⟨path, rfl, .located hp⟩

/-- The group of a process is killed however its watch ended, and the process too unless it
    finished. -/
theorem eq_of_runs_settle {session : Session} {stage : Stage} {limit : Duration}
    {events : List Event} {result : Except Failure ProcessOutput}
    (h : Runs (settle session stage limit) events result) :
    match session.result limit with
    | .finished output => events = [⟨.killGroup session.process, ()⟩] ∧ result = .ok output
    | .faulted e =>
        events = [⟨.killGroup session.process, ()⟩, ⟨.killProcess session.process, ()⟩] ∧
          result = .error (streamFailure e)
    | .overrun =>
        events = [⟨.killGroup session.process, ()⟩, ⟨.killProcess session.process, ()⟩] ∧
          result = .error (.timeout stage) := by
  obtain ⟨⟨⟩, rest, rfl, hrest⟩ := Runs.of_request_bind h
  cases hs : session.result limit with
  | finished output =>
      simp only [hs] at hrest ⊢
      obtain ⟨rfl, rfl⟩ := Runs.of_done hrest
      exact ⟨rfl, rfl⟩
  | faulted e =>
      simp only [hs] at hrest ⊢
      obtain ⟨⟨⟩, last, rfl, hlast⟩ := Runs.of_request_bind hrest
      obtain ⟨rfl, rfl⟩ := Runs.of_done hlast
      exact ⟨rfl, rfl⟩
  | overrun =>
      simp only [hs] at hrest ⊢
      obtain ⟨⟨⟩, last, rfl, hlast⟩ := Runs.of_request_bind hrest
      obtain ⟨rfl, rfl⟩ := Runs.of_done hlast
      exact ⟨rfl, rfl⟩

theorem watches_of_runs {w : Workspace} {command : Command} {input : Option String}
    {limit : Duration} {stage : Stage} {events : List Event} {result : Except Failure ProcessOutput}
    (h : Runs (w.run command input limit stage) events result) :
    Watches w command input limit stage events (result.mapError Outcome.ofFailure) := by
  rcases Runs.of_onSuccess h with ⟨e, rfl, he⟩ | ⟨found, path, rest, rfl, hfound, hrest⟩
  · rcases resolves_of_runs he with ⟨path, hr, -⟩ | ⟨hp, rfl, hr⟩
    · cases hr
    · cases hr
      exact .notFound hp
  · have hp : Resolves command.program found path := by
      rcases resolves_of_runs hfound with ⟨path', hr, hp⟩ | ⟨-, -, hr⟩
      · cases hr
        exact hp
      · cases hr
    obtain ⟨reply, last, rfl, hlast⟩ := Runs.of_request_bind hrest
    cases reply with
    | error e =>
        obtain ⟨rfl, rfl⟩ := Runs.of_done hlast
        exact .notStarted hp
    | ok session =>
        have hend := eq_of_runs_settle hlast
        cases hs : session.result limit with
        | finished output =>
            obtain ⟨rfl, rfl⟩ := by simpa only [hs] using hend
            exact .finished hp hs
        | faulted e =>
            obtain ⟨rfl, rfl⟩ := by simpa only [hs] using hend
            exact .faulted hp hs
        | overrun =>
            obtain ⟨rfl, rfl⟩ := by simpa only [hs] using hend
            exact .overrun hp hs

end Workspace

namespace Execution

/-! ## The steps -/

inductive Step where
  | findTools
  | makeWorkspace
  | writeSource
  | compile
  | run
  deriving DecidableEq, Repr

/-- The steps in the order in which they are done. Only some languages are compiled. -/
def Step.sequence (t : Toolchain) (w : Workspace) : List Step :=
  [.findTools, .makeWorkspace, .writeSource] ++
    (if (t.compileCommand? w.path).isSome then [.compile] else []) ++ [.run]

/-- The programs that were looked up in vain. -/
def unknown (lookups : List (String × Option String)) : List String :=
  (lookups.filter fun entry => entry.2.isNone).map Prod.fst

/-- What was asked to look programs up, and replied. -/
def asked (lookups : List (String × Option String)) : List Event :=
  lookups.map fun entry => ⟨.locate entry.1, entry.2⟩

/-- What a step asks for a request in a workspace, and the outcome that it decides; none if the next
    step is to be done. -/
inductive Step.Ends (s : Settings) (t : Toolchain) (r : Request) (w : Workspace) :
    Step → List Event → Option Outcome → Prop where
  | toolsFound {lookups : List (String × Option String)}
      (h : lookups.map Prod.fst = t.requiredTools) (hu : unknown lookups = []) :
      Ends s t r w .findTools (asked lookups) none
  | toolsMissing {lookups : List (String × Option String)}
      (h : lookups.map Prod.fst = t.requiredTools) (hu : unknown lookups ≠ []) :
      Ends s t r w .findTools (asked lookups)
        (some (.failure ("Required tool not found: " ++ ", ".intercalate (unknown lookups))
          .internalFault))
  | rootRefused {id : String} {e : HostError} :
      Ends s t r w .makeWorkspace
        [⟨.drawId, id⟩, ⟨.createTree s.workspaceRoot, .error e⟩]
        (some (.failure ("Workspace error: Failed to create workspace root " ++ s.workspaceRoot ++
          ": " ++ e.message) .internalFault))
  | directoryRefused {id : String} {e : HostError} :
      Ends s t r w .makeWorkspace
        [⟨.drawId, id⟩, ⟨.createTree s.workspaceRoot, .ok ()⟩,
          ⟨.createPrivate (Workspace.pathOf s.workspaceRoot id), .error e⟩]
        (some (.failure ("Workspace error: Failed to create workspace directory: " ++ e.message)
          .internalFault))
  | workspaceMade (h : w.path = Workspace.pathOf s.workspaceRoot w.id) :
      Ends s t r w .makeWorkspace
        [⟨.drawId, w.id⟩, ⟨.createTree s.workspaceRoot, .ok ()⟩, ⟨.createPrivate w.path, .ok ()⟩]
        none
  | sourcePassed (h : t.sourceName? = none) : Ends s t r w .writeSource [] none
  | sourceWritten {name : String} (h : t.sourceName? = some name) :
      Ends s t r w .writeSource [⟨.write (w.filePath name) r.code, .ok ()⟩] none
  | sourceRefused {name : String} {e : HostError} (h : t.sourceName? = some name) :
      Ends s t r w .writeSource [⟨.write (w.filePath name) r.code, .error e⟩]
        (some (.failure
          ("Workspace error: Failed to write " ++ w.filePath name ++ ": " ++ e.message)
          .internalFault))
  | compiled {command : Command} {events : List Event} {output : ProcessOutput}
      (h : t.compileCommand? w.path = some command)
      (hw : w.Watches command none s.compileLimit .compile events (.ok output))
      (hs : output.status.isSuccess = true) :
      Ends s t r w .compile events none
  | sourceFaulty {command : Command} {events : List Event} {output : ProcessOutput}
      (h : t.compileCommand? w.path = some command)
      (hw : w.Watches command none s.compileLimit .compile events (.ok output))
      (hs : output.status.isSuccess = false) :
      Ends s t r w .compile events
        (some (.failure ("Compilation error:\n" ++ output.diagnostics) .compileFailure))
  | compilerStopped {command : Command} {events : List Event} {outcome : Outcome}
      (h : t.compileCommand? w.path = some command)
      (hw : w.Watches command none s.compileLimit .compile events (.error outcome)) :
      Ends s t r w .compile events (some outcome)
  | ran {events : List Event} {output : ProcessOutput}
      (hw : w.Watches (t.runCommand w.path r.code) r.input s.runLimit .run events (.ok output))
      (hs : output.status.isSuccess = true) :
      Ends s t r w .run events (some (.success output.stdout))
  | programFailed {events : List Event} {output : ProcessOutput}
      (hw : w.Watches (t.runCommand w.path r.code) r.input s.runLimit .run events (.ok output))
      (hs : output.status.isSuccess = false) :
      Ends s t r w .run events (some (.failure output.diagnostics .runtimeFailure))
  | programStopped {events : List Event} {outcome : Outcome}
      (hw : w.Watches (t.runCommand w.path r.code) r.input s.runLimit .run events
        (.error outcome)) :
      Ends s t r w .run events (some outcome)

/-! ## The plans take these steps -/

variable {s : Settings} {t : Toolchain} {r : Request} {w : Workspace} {events : List Event}

/-- The outcome that a part of an execution decides by failing. -/
def failure? {α : Type} : Except Failure α → Option Outcome
  | .ok _ => none
  | .error f => some (.ofFailure f)

theorem asked_of_runs_missingTools {tools missing : List String}
    (h : Runs (missingTools tools) events missing) :
    ∃ lookups : List (String × Option String),
      lookups.map Prod.fst = tools ∧ events = asked lookups ∧ missing = unknown lookups := by
  induction tools generalizing events missing with
  | nil =>
      obtain ⟨rfl, rfl⟩ := Runs.of_done h
      exact ⟨[], rfl, rfl, rfl⟩
  | cons tool tools ih =>
      obtain ⟨found, rest, rfl, hrest⟩ := Runs.of_request_bind h
      obtain ⟨first, others, last, rfl, hothers, hlast⟩ := Runs.of_bind hrest
      obtain ⟨rfl, rfl⟩ := Runs.of_done hlast
      obtain ⟨lookups, rfl, rfl, rfl⟩ := ih hothers
      refine ⟨(tool, found) :: lookups, rfl, by simp [asked], ?_⟩
      cases found <;> simp [unknown]

theorem ends_of_runs_checkTools {result : Except Failure Unit}
    (h : Runs (checkTools t) events result) :
    Step.Ends s t r w .findTools events (failure? result) := by
  obtain ⟨first, missing, rest, rfl, hfirst, hrest⟩ := Runs.of_bind h
  obtain ⟨lookups, hl, rfl, rfl⟩ := asked_of_runs_missingTools hfirst
  cases hu : unknown lookups with
  | nil =>
      rw [hu] at hrest
      obtain ⟨rfl, rfl⟩ := Runs.of_done hrest
      rw [List.append_nil]
      exact .toolsFound hl hu
  | cons tool tools =>
      rw [hu] at hrest
      obtain ⟨rfl, rfl⟩ := Runs.of_done hrest
      rw [List.append_nil, ← hu]
      exact .toolsMissing hl (by simp [hu])

theorem ends_of_runs_create {result : Except Failure Workspace}
    (h : Runs (Workspace.create s.workspaceRoot) events result) :
    ∃ w, Step.Ends s t r w .makeWorkspace events (failure? result) ∧
      ∀ made, result = .ok made → made = w := by
  obtain ⟨id, rest, rfl, hrest⟩ := Runs.of_request_bind h
  obtain ⟨tree, rest, rfl, htree⟩ := Runs.of_request_bind hrest
  refine ⟨⟨Workspace.pathOf s.workspaceRoot id, id⟩, ?_⟩
  cases tree with
  | error e =>
      obtain ⟨rfl, rfl⟩ := Runs.of_done htree
      exact ⟨.rootRefused, by simp⟩
  | ok =>
      obtain ⟨directory, rest, rfl, hdirectory⟩ := Runs.of_request_bind htree
      cases directory with
      | error e =>
          obtain ⟨rfl, rfl⟩ := Runs.of_done hdirectory
          exact ⟨.directoryRefused, by simp⟩
      | ok =>
          obtain ⟨rfl, rfl⟩ := Runs.of_done hdirectory
          exact ⟨.workspaceMade rfl, by simp [eq_comm]⟩

theorem ends_of_runs_writeSource {result : Except Failure Unit}
    (h : Runs (w.writeSource t r.code) events result) :
    Step.Ends s t r w .writeSource events (failure? result) := by
  unfold Workspace.writeSource at h
  split at h
  · next hn =>
      obtain ⟨rfl, rfl⟩ := Runs.of_done h
      exact .sourcePassed hn
  · next name hn =>
      obtain ⟨first, written, rest, rfl, hfirst, hrest⟩ := Runs.of_bind h
      obtain ⟨reply, last, rfl, hlast⟩ := Runs.of_request_bind hfirst
      cases reply with
      | error e =>
          obtain ⟨rfl, rfl⟩ := Runs.of_done hlast
          obtain ⟨rfl, rfl⟩ := Runs.of_done hrest
          exact .sourceRefused hn
      | ok =>
          obtain ⟨rfl, rfl⟩ := Runs.of_done hlast
          obtain ⟨rfl, rfl⟩ := Runs.of_done hrest
          exact .sourceWritten hn

theorem ends_of_runs_compile {command : Command} {result : Except Failure Unit}
    (hc : t.compileCommand? w.path = some command) (h : Runs (compile s t w) events result) :
    Step.Ends s t r w .compile events (failure? result) := by
  simp only [compile, hc] at h
  rcases Runs.of_onSuccess h with ⟨f, rfl, hf⟩ | ⟨first, output, rest, rfl, hfirst, hrest⟩
  · exact .compilerStopped hc (Workspace.watches_of_runs hf)
  · have hw := Workspace.watches_of_runs hfirst
    obtain ⟨rfl, rfl⟩ := Runs.of_done hrest
    rw [List.append_nil]
    cases hs : output.status.isSuccess with
    | true => exact .compiled hc hw hs
    | false => exact .sourceFaulty hc hw hs

theorem ends_of_runs_run {result : Except Failure String}
    (h : Runs (run s t w r.code r.input) events result) :
    Step.Ends s t r w .run events (some (.ofExcept result)) := by
  rcases Runs.of_onSuccess h with ⟨f, rfl, hf⟩ | ⟨first, output, rest, rfl, hfirst, hrest⟩
  · exact .programStopped (Workspace.watches_of_runs hf)
  · have hw := Workspace.watches_of_runs hfirst
    obtain ⟨rfl, rfl⟩ := Runs.of_done hrest
    rw [List.append_nil]
    cases hs : output.status.isSuccess with
    | true => exact .ran hw hs
    | false => exact .programFailed hw hs

end Execution

end Playground
