import Playground.Machine.FileAction
import Playground.Proofs.Execution.FirstFailure

set_option autoImplicit false

/-! # Whose fault a failure is

On a host that does what it is asked for, a failure is the submitted program's: it did not compile,
it failed, or it took too long. There is one thing that no host does: it starts no process with a
NUL among its arguments (`wentWell`). The only text of a request that ever is an argument is the
code of a language without a file for it; in a file or as input a NUL does not matter. So a failure
is an internal fault exactly if such code, or the language standard that the settings name, has a
NUL in it. -/

namespace Playground

open Plan (Event Runs)
open Machine (hasNul)

/-! ## Texts with a NUL -/

namespace Machine

theorem hasNul_append (a b : String) : hasNul (a ++ b) = (hasNul a || hasNul b) := by
  simp [hasNul, String.toList_append]

theorem hasNul_join {directory name : String} (hd : hasNul directory = false)
    (hn : hasNul name = false) : hasNul (Path.join directory name) = false := by
  have hslash : hasNul "/" = false := by decide
  unfold Path.join
  split
  · exact hn
  · split
    · simp [hasNul_append, hd, hn, hslash]
    · simp [hasNul_append, hd, hn]

end Machine

/-- Is there a NUL among the arguments? -/
def Command.holdsNul (command : Command) : Bool := command.arguments.any hasNul

namespace Toolchain

variable {t : Toolchain} {workspace : String}

/-- A compiler is told of the standard and of files in the workspace. -/
theorem holdsNul_compileCommand {command : Command} (hw : hasNul workspace = false)
    (h : t.compileCommand? workspace = some command) :
    command.holdsNul = true ↔ ∃ standard compiler,
      t = .cpp standard compiler ∧ hasNul standard = true := by
  have hfile (name : String) (hn : hasNul name = false) :
      hasNul (Path.join workspace name) = false := Machine.hasNul_join hw hn
  cases t with
  | python => cases h
  | java =>
      cases h
      simp [Command.holdsNul, hfile "Main.java" (by decide)]
  | cpp standard compiler =>
      cases h
      have hflag : hasNul "-std=c++" = false := by decide
      have hout : hasNul "-o" = false := by decide
      simp [Command.holdsNul, Machine.hasNul_append, hflag, hout,
        hfile "main.cpp" (by decide), hfile "main" (by decide)]

/-- Code is an argument if it is passed inline. -/
theorem holdsNul_runCommand {code : String} (hw : hasNul workspace = false) :
    (t.runCommand workspace code).holdsNul = true ↔
      (∃ interpreter, t = .python interpreter) ∧ hasNul code = true := by
  cases t with
  | python =>
      have hflag : hasNul "-c" = false := by decide
      simp [Command.holdsNul, runCommand, hflag]
  | java =>
      have hflag : hasNul "-cp" = false := by decide
      have hmain : hasNul "Main" = false := by decide
      simp [Command.holdsNul, runCommand, hw, hflag, hmain]
  | cpp => simp [Command.holdsNul, runCommand]

end Toolchain

/-! ## Hosts that do what they are asked for -/

/-- Programs are found, a compiled one among them, directories and files are made, and processes are
    started and listened to, unless there is a NUL in a path or an argument. -/
def wentWell : Event → Prop
  | ⟨.locate _, path⟩ => path.isSome = true
  | ⟨.createTree _, reply⟩ => reply = .ok ()
  | ⟨.createPrivate path, reply⟩ => reply = .ok () ∧ hasNul path = false
  | ⟨.write _ _, reply⟩ => reply = .ok ()
  | ⟨.watch launch _, .error _⟩ => launch.arguments.any hasNul = true
  | ⟨.watch launch _, .ok session⟩ =>
      launch.arguments.any hasNul = false ∧ session.fault = none
  | _ => True

def IsObliging (events : List Event) : Prop := ∀ e ∈ events, wentWell e

theorem IsObliging.of_append {first rest : List Event} (h : IsObliging (first ++ rest)) :
    IsObliging first ∧ IsObliging rest :=
  ⟨fun e he => h e (List.mem_append_left _ he), fun e he => h e (List.mem_append_right _ he)⟩

/-! ## Blame -/

/-- The kinds of failures that the submitted program is to blame for. -/
def Kind.ofPrograms : List Kind := [.compileFailure, .runtimeFailure, .timeout]

/-- A failure is ours if something is so, and the program's otherwise. -/
structure Outcome.IsOursIff (ours : Prop) (outcome : Outcome) : Prop where
  internal : ours → outcome.kind? = some .internalFault
  programs : ¬ours → ∀ kind, outcome.kind? = some kind → kind ∈ Kind.ofPrograms

theorem Outcome.IsOursIff.of_not {ours : Prop} {outcome : Outcome} (hno : ¬ours)
    (h : ∀ kind, outcome.kind? = some kind → kind ∈ Kind.ofPrograms) : outcome.IsOursIff ours :=
  ⟨fun hyes => absurd hyes hno, fun _ => h⟩

theorem Outcome.IsOursIff.congr {ours ours' : Prop} {outcome : Outcome}
    (h : outcome.IsOursIff ours) (hiff : ours ↔ ours') : outcome.IsOursIff ours' := by
  rwa [← propext hiff]

/-- Streams without a fault do not end a watch. -/
theorem Session.result_ne_faulted {session : Session} {limit : Duration} {e : HostError}
    (h : session.fault = none) : session.result limit ≠ .faulted e := by
  unfold Session.result
  rw [h]
  cases session.ended with
  | none => exact nofun
  | some ended =>
      dsimp only
      split <;> exact nofun

namespace Workspace

variable {w : Workspace} {command : Command} {input : Option String} {limit : Duration}
  {stage : Stage} {events : List Event}

/-- What came of a command shows whether it could be started. -/
theorem Watches.holdsNul_eq_false {output : ProcessOutput}
    (h : Watches w command input limit stage events (.ok output)) (ho : IsObliging events) :
    command.holdsNul = false := by
  obtain ⟨path, session, hm, -⟩ := h.exists_session
  exact (ho _ hm).1

theorem Watches.isOursIff {outcome : Outcome}
    (h : Watches w command input limit stage events (.error outcome)) (ho : IsObliging events) :
    outcome.IsOursIff (command.holdsNul = true) := by
  cases h with
  | notFound =>
      have hfound : (none : Option String).isSome = true := ho _ (List.mem_singleton_self _)
      cases hfound
  | @notStarted found path e hr =>
      have hnul : command.arguments.any hasNul = true :=
        ho ⟨.watch ⟨path, command.arguments, w.path, input⟩ limit, .error e⟩ (by simp)
      exact ⟨fun _ => rfl, fun hno => absurd hnul hno⟩
  | @faulted found path session e hr hs =>
      obtain ⟨-, hfault⟩ : command.arguments.any hasNul = false ∧ session.fault = none :=
        ho ⟨.watch ⟨path, command.arguments, w.path, input⟩ limit, .ok session⟩ (by simp)
      exact absurd hs (Session.result_ne_faulted hfault)
  | @overrun found path session hr hs =>
      obtain ⟨hnul, -⟩ : command.arguments.any hasNul = false ∧ session.fault = none :=
        ho ⟨.watch ⟨path, command.arguments, w.path, input⟩ limit, .ok session⟩ (by simp)
      refine .of_not (Bool.eq_false_iff.1 hnul) fun kind hkind => ?_
      cases hkind
      decide

end Workspace

namespace Execution

variable {s : Settings} {t : Toolchain} {r : Request} {w : Workspace} {step : Step}
  {events : List Event} {verdict : Option Outcome} {outcome : Outcome} {log : List Done}

/-! ## Steps on an obliging host -/

/-- Up to the source being written nothing is decided. -/
theorem Step.Ends.eq_none (h : step.Ends s t r w events verdict) (ho : IsObliging events)
    (hcompile : step ≠ .compile) (hrun : step ≠ .run) : verdict = none := by
  cases h with
  | toolsFound | workspaceMade | sourcePassed | sourceWritten => rfl
  | @toolsMissing lookups _ hu =>
      obtain ⟨tool, htool⟩ := List.exists_mem_of_ne_nil _ hu
      obtain ⟨lookup, hlookup, -⟩ := List.mem_map.1 htool
      obtain ⟨hmem, hnone⟩ := List.mem_filter.1 hlookup
      have hfound : lookup.2.isSome = true := ho _ (List.mem_map.2 ⟨lookup, hmem, rfl⟩)
      rw [Option.isNone_iff_eq_none.1 hnone] at hfound
      cases hfound
  | @rootRefused id e =>
      have hmade : (.error e : Except HostError Unit) = .ok () :=
        ho ⟨.createTree s.workspaceRoot, .error e⟩ (by simp)
      cases hmade
  | @directoryRefused id e =>
      obtain ⟨hmade, -⟩ : (.error e : Except HostError Unit) = .ok () ∧ _ :=
        ho ⟨.createPrivate (Workspace.pathOf s.workspaceRoot id), .error e⟩ (by simp)
      cases hmade
  | @sourceRefused name e =>
      have hwritten : (.error e : Except HostError Unit) = .ok () :=
        ho ⟨.write (w.filePath name) r.code, .error e⟩ (by simp)
      cases hwritten
  | compiled | sourceFaulty | compilerStopped => exact absurd rfl hcompile
  | ran | programFailed | programStopped => exact absurd rfl hrun

theorem Step.Ends.hasNul_path (h : Step.Ends s t r w .makeWorkspace events none)
    (ho : IsObliging events) : hasNul w.path = false := by
  cases h with
  | workspaceMade =>
      obtain ⟨-, hnul⟩ : (.ok () : Except HostError Unit) = .ok () ∧ hasNul w.path = false :=
        ho ⟨.createPrivate w.path, .ok ()⟩ (by simp)
      exact hnul

/-- Compiling is our fault if the compiler cannot be started. -/
theorem Step.Ends.cases_of_compile (h : Step.Ends s t r w .compile events verdict)
    (ho : IsObliging events) :
    ∃ command, t.compileCommand? w.path = some command ∧
      ((verdict = none ∧ command.holdsNul = false) ∨
        ∃ outcome, verdict = some outcome ∧ outcome.IsOursIff (command.holdsNul = true)) := by
  cases h with
  | compiled hc hw => exact ⟨_, hc, .inl ⟨rfl, hw.holdsNul_eq_false ho⟩⟩
  | sourceFaulty hc hw =>
      have hnul := Bool.eq_false_iff.1 (hw.holdsNul_eq_false ho)
      refine ⟨_, hc, .inr ⟨_, rfl, .of_not hnul fun kind hkind => ?_⟩⟩
      cases hkind
      decide
  | compilerStopped hc hw => exact ⟨_, hc, .inr ⟨_, rfl, hw.isOursIff ho⟩⟩

/-- Running is our fault if the program cannot be started. -/
theorem Step.Ends.isOursIff_of_run (h : Step.Ends s t r w .run events (some outcome))
    (ho : IsObliging events) :
    outcome.IsOursIff ((t.runCommand w.path r.code).holdsNul = true) := by
  cases h with
  | ran hw =>
      refine .of_not (Bool.eq_false_iff.1 (hw.holdsNul_eq_false ho)) fun kind hkind => ?_
      cases hkind
  | programFailed hw =>
      refine .of_not (Bool.eq_false_iff.1 (hw.holdsNul_eq_false ho)) fun kind hkind => ?_
      cases hkind
      decide
  | programStopped hw => exact hw.isOursIff ho

/-! ## All executions -/

/-- On an obliging host a step that is neither compiling nor running comes through. -/
theorem Proceeds.exists_next {steps : List Step}
    (h : Proceeds s t r w (step :: steps) log outcome) (ho : IsObliging (log.flatMap Done.events))
    (hcompile : step ≠ .compile) (hrun : step ≠ .run) :
    ∃ events rest, step.Ends s t r w events none ∧ IsObliging events ∧
      Proceeds s t r w steps rest outcome ∧ IsObliging (rest.flatMap Done.events) := by
  obtain ⟨events, rfl, hends⟩ | ⟨events, rest, rfl, hends, hrest⟩ := h.of_cons
  · rw [List.flatMap_singleton] at ho
    cases hends.eq_none ho hcompile hrun
  · rw [List.flatMap_cons] at ho
    obtain ⟨hfirst, hlater⟩ := ho.of_append
    exact ⟨events, rest, hends, hfirst, hrest, hlater⟩

/-- So do the first three steps. -/
theorem Proceeds.exists_rest {steps : List Step}
    (h : Proceeds s t r w (.findTools :: .makeWorkspace :: .writeSource :: steps) log outcome)
    (ho : IsObliging (log.flatMap Done.events)) :
    hasNul w.path = false ∧ ∃ rest, Proceeds s t r w steps rest outcome ∧
      IsObliging (rest.flatMap Done.events) := by
  obtain ⟨_, _, -, -, hmake, ho⟩ := h.exists_next ho (by decide) (by decide)
  obtain ⟨made, _, hmade, hmaking, hwrite, ho⟩ := hmake.exists_next ho (by decide) (by decide)
  obtain ⟨_, rest, -, -, hrest, ho⟩ := hwrite.exists_next ho (by decide) (by decide)
  exact ⟨hmade.hasNul_path hmaking, rest, hrest, ho⟩

theorem Proceeds.isOursIff_of_run (h : Proceeds s t r w [.run] log outcome)
    (ho : IsObliging (log.flatMap Done.events)) :
    outcome.IsOursIff ((t.runCommand w.path r.code).holdsNul = true) := by
  obtain ⟨events, rfl, hrun⟩ | ⟨events, rest, rfl, hrun, -⟩ := h.of_cons
  · exact hrun.isOursIff_of_run (by simpa using ho)
  · cases hrun.isSome_of_run

theorem Proceeds.isOursIff_of_compile {command : Command}
    (hc : t.compileCommand? w.path = some command)
    (hrun : (t.runCommand w.path r.code).holdsNul = false)
    (h : Proceeds s t r w [.compile, .run] log outcome)
    (ho : IsObliging (log.flatMap Done.events)) :
    outcome.IsOursIff (command.holdsNul = true) := by
  obtain ⟨events, rfl, hcompile⟩ | ⟨events, rest, rfl, hcompile, h⟩ := h.of_cons
  · obtain ⟨command', hc', ⟨hnone, -⟩ | ⟨_, hsome, hours⟩⟩ :=
      hcompile.cases_of_compile (by simpa using ho)
    · cases hnone
    · cases hc.symm.trans hc'
      cases hsome
      exact hours
  · obtain ⟨hcompiling, ho⟩ := IsObliging.of_append (List.flatMap_cons ▸ ho)
    obtain ⟨command', hc', ⟨-, hnul⟩ | ⟨_, hsome, -⟩⟩ := hcompile.cases_of_compile hcompiling
    · cases hc.symm.trans hc'
      exact (h.isOursIff_of_run ho).congr (by rw [hrun, hnul])
    · cases hsome

/-- On an obliging host a failure is an internal fault exactly if inline code, or the standard that
    a compiler is told of, has a NUL in it. Whatever else the code and the input are, all failures
    are the program's. -/
theorem isOursIff_of_runs {l : Language} (h : Runs (Service.execution s l r) events outcome)
    (ho : IsObliging events) :
    outcome.IsOursIff
      ((l = .python ∧ hasNul r.code = true) ∨ (l = .cpp ∧ hasNul s.cppStandard = true)) := by
  obtain ⟨w, log, hproceeds, rfl⟩ := proceeds_of_runs h
  obtain ⟨hw, rest, hrest, ho⟩ := hproceeds.exists_rest ho.of_append.1
  cases l with
  | python =>
      refine (hrest.isOursIff_of_run ho).congr ?_
      rw [Toolchain.holdsNul_runCommand hw]
      simp [Toolchain.ofSettings]
  | java =>
      have hrun : ((Toolchain.ofSettings s .java).runCommand w.path r.code).holdsNul = false := by
        rw [Bool.eq_false_iff, ne_eq, Toolchain.holdsNul_runCommand hw]
        simp [Toolchain.ofSettings]
      refine (hrest.isOursIff_of_compile rfl hrun ho).congr ?_
      rw [Toolchain.holdsNul_compileCommand (t := .ofSettings s .java) hw rfl]
      simp [Toolchain.ofSettings]
  | cpp =>
      have hrun : ((Toolchain.ofSettings s .cpp).runCommand w.path r.code).holdsNul = false := by
        rw [Bool.eq_false_iff, ne_eq, Toolchain.holdsNul_runCommand hw]
        simp [Toolchain.ofSettings]
      refine (hrest.isOursIff_of_compile rfl hrun ho).congr ?_
      rw [Toolchain.holdsNul_compileCommand (t := .ofSettings s .cpp) hw rfl]
      simp [Toolchain.ofSettings]

/-- A class with a NUL after it, which is to read a NUL. -/
def nulEverywhere : Request := ⟨"class Main\x00", some .java, some "\x00"⟩

/-- It is compiled and run; that it never ends is its own fault. -/
theorem isOursIff_of_runs_java :
    let path := Workspace.pathOf "/tmp" "7"
    let events : List Event := [⟨.locate "javac", some "/usr/bin/javac"⟩,
      ⟨.locate "java", some "/usr/bin/java"⟩, ⟨.drawId, "7"⟩, ⟨.createTree "/tmp", .ok ()⟩,
      ⟨.createPrivate path, .ok ()⟩,
      ⟨.write (Path.join path "Main.java") nulEverywhere.code, .ok ()⟩,
      ⟨.locate "javac", some "/usr/bin/javac"⟩,
      ⟨.watch ⟨"/usr/bin/javac", [Path.join path "Main.java"], path, none⟩ (.ofSeconds 30),
        .ok ⟨1, some (9, .exited 0), ⟨[], some 9⟩, ⟨[], some 9⟩, some 0, none⟩⟩,
      ⟨.killGroup 1, ()⟩, ⟨.locate "java", some "/usr/bin/java"⟩,
      ⟨.watch ⟨"/usr/bin/java", ["-cp", path, "Main"], path, nulEverywhere.input⟩ (.ofSeconds 5),
        .ok ⟨2, none, ⟨[], none⟩, ⟨[], none⟩, some 0, none⟩⟩,
      ⟨.killGroup 2, ()⟩, ⟨.killProcess 2, ()⟩, ⟨.remove path, ()⟩]
    let outcome : Outcome := .failure "Execution timed out" .timeout
    hasNul nulEverywhere.code = true ∧ IsObliging events ∧
      Runs (Service.execution .default .java nulEverywhere) events outcome ∧
      outcome.IsOursIff ((Language.java = .python ∧ hasNul nulEverywhere.code = true) ∨
        (Language.java = .cpp ∧ hasNul Settings.default.cppStandard = true)) := by
  intro path events outcome
  have hobliging : IsObliging events := by
    simp only [IsObliging, events, List.forall_mem_cons]
    exact ⟨rfl, rfl, trivial, rfl, ⟨rfl, by decide⟩, rfl, rfl, ⟨by decide, rfl⟩, trivial, rfl,
      ⟨by decide, rfl⟩, trivial, trivial, trivial, List.forall_mem_nil _⟩
  have hruns : Runs (Service.execution .default .java nulEverywhere) events outcome :=
    .ask _ (.ask _ (.ask _ (.ask _ (.ask _ (.ask _ (.ask _ (.ask _ (.ask _ (.ask _ (.ask _
      (.ask _ (.ask _ (.ask _ (.done _))))))))))))))
  exact ⟨by decide, hobliging, hruns, isOursIff_of_runs hruns hobliging⟩

/-- All is found and made for Python code with a NUL in it. -/
theorem internalFault_of_inline_nul :
    let path := Workspace.pathOf "/tmp" "7"
    let events : List Event := [⟨.locate "python3", some "/usr/bin/python3"⟩, ⟨.drawId, "7"⟩,
      ⟨.createTree "/tmp", .ok ()⟩, ⟨.createPrivate path, .ok ()⟩,
      ⟨.locate "python3", some "/usr/bin/python3"⟩,
      ⟨.watch ⟨"/usr/bin/python3", ["-c", "a\x00b"], path, none⟩ (.ofSeconds 5),
        .error .nulInArgument⟩,
      ⟨.remove path, ()⟩]
    IsObliging events ∧
      Runs (Service.execution .default .python (.inLanguage .python "a\x00b")) events (.failure
        "System error: Failed to spawn python3: nul byte found in provided data"
        .internalFault) := by
  intro path events
  have hobliging : IsObliging events := by
    simp only [IsObliging, events, List.forall_mem_cons]
    exact ⟨rfl, trivial, rfl, ⟨rfl, by decide⟩, rfl, rfl, trivial, List.forall_mem_nil _⟩
  exact ⟨hobliging, .ask _ (.ask _ (.ask _ (.ask _ (.ask _ (.ask _ (.ask _ (.done _)))))))⟩

end Execution

end Playground
