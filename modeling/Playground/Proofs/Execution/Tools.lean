import Playground.Proofs.Execution.Paths
import Playground.Proofs.Machine.Lookup

set_option autoImplicit false

/-! # The tools that are found are the ones that are started

The tools of a language are looked up before anything is made, from the directory of the service. A
tool is started later and from another directory, the workspace, by its path as it is written or by
the path that looking it up again has returned. Files have been added in between.

If a tool is anchored, all that does not matter: it is started by the path that was found
(`eq_of_resolves`), and from the workspace this path leads to the same file
(`isSameProgram_of_within`). If its path begins with `./`, it is started as it is written, so it is
looked for in one directory and started from another. -/

namespace Playground

open Plan (Event Runs)
open Machine FileSystem
open Workspace (oneDirectory pathOf)

/-- Texts that begin with different characters are different. -/
theorem append_ne_append {a b x y : String}
    (h : a.toList.head?.isSome ∧ b.toList.head?.isSome ∧ a.toList.head? ≠ b.toList.head?) :
    a ++ x ≠ b ++ y := by
  obtain ⟨ha, hb, hne⟩ := h
  intro he
  have hheads := congrArg (fun text => text.toList.head?) he
  simp only [String.toList_append, List.head?_append] at hheads
  obtain ⟨c, hc⟩ := Option.isSome_iff_exists.1 ha
  obtain ⟨d, hd⟩ := Option.isSome_iff_exists.1 hb
  rw [hc, hd] at hheads hne
  exact hne hheads

theorem eq_append_of_missing {text : String} {kind : Kind} {names : List String}
    (h : Outcome.failure text kind = .ofFailure (.missingTools names)) :
    text = "Required tool not found: " ++ ", ".intercalate names ∧ kind = .internalFault :=
  Outcome.failure.inj h

/-! ## By which path a command is started -/

namespace Workspace

variable {w : Workspace} {command : Command} {input : Option String} {limit time : Duration}
  {stage : Stage} {events : List Event} {launch : Launch} {reply : Except HostError Session}
  {result : Except Outcome ProcessOutput}

/-- It is started by the path that its program was resolved to. -/
theorem Watches.exists_resolves (h : Watches w command input limit stage events result)
    (hm : ⟨.watch launch time, reply⟩ ∈ events) :
    ∃ found, Resolves command.program found launch.program ∧ found ⊆ events := by
  cases h with
  | notFound =>
      rw [List.mem_singleton] at hm
      cases hm
  | notStarted hr =>
      refine ⟨_, ?_, List.subset_append_left _ _⟩
      rcases List.mem_append.1 hm with hm | hm
      · exact absurd rfl (hr.action_ne hm _ _)
      · rw [List.mem_singleton] at hm
        cases hm
        exact hr
  | faulted hr | overrun hr | finished hr =>
      refine ⟨_, ?_, List.subset_append_left _ _⟩
      rcases List.mem_append.1 hm with hm | hm
      · exact absurd rfl (hr.action_ne hm _ _)
      · simp only [List.mem_cons, List.not_mem_nil, or_false] at hm
        rcases hm with hm | hm | hm <;> cases hm
        exact hr

/-- If something is said to be missing, it is the program of the command. -/
theorem Watches.eq_of_missing {outcome : Outcome} {names : List String}
    (h : Watches w command input limit stage events (.error outcome))
    (ho : outcome = .ofFailure (.missingTools names)) :
    ", ".intercalate names = command.program ∧ ⟨.locate command.program, none⟩ ∈ events := by
  cases h with
  | notFound =>
      obtain ⟨htext, -⟩ := eq_append_of_missing ho
      exact ⟨(String.append_right_inj _).1 htext.symm, List.mem_singleton.2 rfl⟩
  | notStarted =>
      obtain ⟨htext, -⟩ := eq_append_of_missing ho
      rw [String.append_assoc, String.append_assoc] at htext
      exact absurd htext (append_ne_append (by decide))
  | faulted => exact absurd (eq_append_of_missing ho).1 (append_ne_append (by decide))
  | overrun => cases (eq_append_of_missing ho).2

end Workspace

namespace Execution

variable {m : State} {s : Settings} {l : Language} {t : Toolchain} {r : Request} {w : Workspace}
  {step : Step} {events : List Event} {verdict : Option Outcome} {outcome : Outcome}
  {launch : Launch} {limit : Duration} {reply : Except HostError Session} {fs files : FileSystem}
  {here : Location} {path program tool : String} {command : Command}

/-- The commands of a toolchain in a workspace. -/
def IsCommand (t : Toolchain) (path code : String) (command : Command) : Prop :=
  t.compileCommand? path = some command ∨ command = t.runCommand path code

theorem Step.Ends.exists_command (h : step.Ends s t r w events verdict)
    (hm : ⟨.watch launch limit, reply⟩ ∈ events) :
    ∃ command found, IsCommand t w.path r.code command ∧ w.Launches command launch ∧
      Workspace.Resolves command.program found launch.program ∧ found ⊆ events := by
  cases h with
  | toolsFound | toolsMissing => exact absurd hm not_mem_asked
  | sourcePassed => cases hm
  | rootRefused | directoryRefused | workspaceMade | sourceWritten | sourceRefused =>
      simp only [List.mem_cons, List.not_mem_nil, or_false] at hm
      rcases hm with hm | hm | hm <;> cases hm
  | compiled hc hw | sourceFaulty hc hw | compilerStopped hc hw =>
      obtain ⟨found, hfound⟩ := hw.exists_resolves hm
      exact ⟨_, found, .inl hc, hw.launches_of_mem hm, hfound⟩
  | ran hw | programFailed hw | programStopped hw =>
      obtain ⟨found, hfound⟩ := hw.exists_resolves hm
      exact ⟨_, found, .inr rfl, hw.launches_of_mem hm, hfound⟩

/-! ## Tools that are there -/

/-- The machine finds all tools. -/
def HasTools (m : State) (t : Toolchain) : Prop :=
  ∀ tool ∈ t.requiredTools, (m.locateProgram tool).isSome = true

/-- Whenever a tool is looked up, the machine finds what it finds now. -/
def FindsTools (m : State) (t : Toolchain) (events : List Event) : Prop :=
  ∀ tool ∈ t.requiredTools, ∀ reply, ⟨.locate tool, reply⟩ ∈ events → reply = m.locateProgram tool

theorem hasTools_python (h : m.locateProgram program = some path) :
    HasTools m (.python program) := by
  intro tool htool
  obtain rfl := List.mem_singleton.1 htool
  exact Option.isSome_iff_exists.2 ⟨path, h⟩

theorem FindsTools.mono {events' : List Event} (h : FindsTools m t events')
    (hsub : events ⊆ events') : FindsTools m t events :=
  fun tool htool reply hm => h tool htool reply (hsub hm)

/-- No tool is looked up in vain. -/
theorem FindsTools.not_mem (h : FindsTools m t events) (hhas : HasTools m t)
    (htool : tool ∈ t.requiredTools) : ⟨.locate tool, none⟩ ∉ events := by
  intro hm
  have hsome := hhas tool htool
  rw [← h tool htool none hm] at hsome
  cases hsome

theorem program_mem_requiredTools (h : t.compileCommand? path = some command) :
    command.program ∈ t.requiredTools := by
  cases t with
  | python => cases h
  | java => cases h; simp [Toolchain.requiredTools]
  | cpp => cases h; simp [Toolchain.requiredTools]

/-- If something is said to be missing, it is a program that was built. -/
theorem Step.Ends.eq_of_missing {names : List String}
    (h : step.Ends s t r w events (some outcome)) (ho : outcome = .ofFailure (.missingTools names))
    (hhas : HasTools m t) (hfinds : FindsTools m t events) :
    ", ".intercalate names ∉ t.requiredTools ∧
      ", ".intercalate names = (t.runCommand w.path r.code).program := by
  cases h with
  | toolsMissing hl hu =>
      obtain ⟨tool, htool⟩ := List.exists_mem_of_ne_nil _ hu
      obtain ⟨⟨tool', found⟩, hentry, rfl⟩ := List.mem_map.1 htool
      obtain ⟨hentry, hnone⟩ := List.mem_filter.1 hentry
      obtain rfl := Option.isNone_iff_eq_none.1 hnone
      have hrequired : tool' ∈ t.requiredTools := hl ▸ List.mem_map_of_mem hentry
      exact absurd (List.mem_map_of_mem hentry) (hfinds.not_mem hhas hrequired)
  | rootRefused | sourceRefused =>
      obtain ⟨htext, -⟩ := eq_append_of_missing ho
      rw [String.append_assoc, String.append_assoc] at htext
      exact absurd htext (append_ne_append (by decide))
  | directoryRefused => exact absurd (eq_append_of_missing ho).1 (append_ne_append (by decide))
  | sourceFaulty | programFailed => cases (eq_append_of_missing ho).2
  | ran => cases ho
  | compilerStopped hc hw =>
      exact absurd (hw.eq_of_missing ho).2 (hfinds.not_mem hhas (program_mem_requiredTools hc))
  | programStopped hw =>
      obtain ⟨hnames, hm⟩ := hw.eq_of_missing ho
      refine ⟨fun hrequired => ?_, hnames⟩
      rw [hnames] at hrequired
      exact hfinds.not_mem hhas hrequired hm

/-! ## What is started -/

/-- An anchored program that the machine finds is started by the path that was found. -/
theorem eq_of_resolves {found : List Event} (h : Workspace.Resolves program found path)
    (hfinds : ∀ reply, ⟨.locate program, reply⟩ ∈ found → reply = m.locateProgram program)
    (hhas : (m.locateProgram program).isSome = true) (hanchored : m.IsAnchored program) :
    m.locateProgram program = some path := by
  obtain ⟨path', hpath'⟩ := Option.isSome_iff_exists.1 hhas
  cases h with
  | asWritten hp =>
      -- only an absolute path is left, and that is found as it is written
      have habs : Path.isAbsolute path = true := by
        simpa [Workspace.isPath, hanchored.not_here] using hp
      rw [hpath', State.eq_of_locateProgram habs hpath']
  | located => exact (hfinds _ (by simp)).symm

/-- When a process is started there is a workspace, and nothing has gone that was there. -/
theorem exists_within_of_starts (ht : fs.IsTree)
    (hr : Runs (Service.execution s l r) events outcome)
    (hstarts : Starts here fs events launch files) :
    ∃ k, files.locate here launch.directory true = .ok k ∧ Within fs files := by
  obtain ⟨before, limit, reply, after, reach, rfl, hpass⟩ := hstarts
  obtain ⟨phase, hstands, hne⟩ := exists_stands_before ht hr hpass
  obtain ⟨id, isFresh, rfl, hdirectory⟩ := exists_working_of_watch hne
  obtain ⟨-, fs₁, k, hlaid, hw, -⟩ := hstands
  have htree : fs₁.IsTree := hlaid.grows.tree ht
  refine ⟨k, ?_, hlaid.grows.within.trans (hw.spares.within (hw.free_below htree))⟩
  rw [hdirectory]
  exact (hw.placed_now htree).locate_follow_eq hw.spares.linkAt?_eq_none

/-- The path leads to the same program from the directory that the tool was found from and, when the
    process is started, from the one that the process is in. -/
structure IsSameProgram (m : State) (path : String) (k : Location) (files : FileSystem) : Prop where
  same : ∃ loc n, FindsProgram m.files m.directory path loc n ∧ FindsProgram files k path loc n
  /-- If the machine says that something is missing, it is an interpreter that the program names. -/
  starts : ∀ (m' : State) (depth : Nat) (arguments : List (List UInt8)), m'.files = files →
    m'.load k depth path arguments = .error .notFound →
      ∃ loc n, FindsProgram m.files m.directory path loc n ∧ n.isScript = true

theorem isSameProgram_of_within {k : Location} (hanchored : m.IsAnchored tool)
    (hl : m.locateProgram tool = some path) (hw : Within m.files files) :
    IsSameProgram m path k files := by
  obtain ⟨loc, n, hfinds⟩ := State.exists_findsProgram_of_locateProgram hl
  have hthere : FindsProgram files k path loc n :=
    (hfinds.mono hw).of_isAbsolute (hanchored.isAbsolute hl)
  refine ⟨⟨loc, n, hfinds, hthere⟩, ?_⟩
  rintro m' depth arguments rfl hload
  exact ⟨loc, n, hfinds, State.isScript_of_load_eq hthere hload⟩

/-- What is started for a command. -/
structure StartsTool (m : State) (t : Toolchain) (command : Command) (launch : Launch)
    (files : FileSystem) (k : Location) : Prop where
  /-- It is started in the workspace. -/
  directory : files.locate m.directory launch.directory true = .ok k
  arguments : launch.arguments = command.arguments
  /-- A path that begins with the directory is followed from the workspace. -/
  as_written : Path.startsHere command.program = true → launch.program = command.program
  /-- An anchored tool is started by the path that was found, which leads to the same program. -/
  as_found : command.program ∈ t.requiredTools → m.IsAnchored command.program →
    m.locateProgram command.program = some launch.program ∧
      IsSameProgram m launch.program k files

/-- What an execution does with tools that are there. -/
structure UsesToolsFound (m : State) (s : Settings) (l : Language) (r : Request)
    (events : List Event) (outcome : Outcome) : Prop where
  /-- Only a program that was built can be missing. -/
  none_missing : ∀ names, outcome = .ofFailure (.missingTools names) →
    ", ".intercalate names ∉ (Toolchain.ofSettings s l).requiredTools ∧
      ∃ path, ", ".intercalate names =
        ((Toolchain.ofSettings s l).runCommand path r.code).program
  started : ∀ launch files, Starts m.directory m.files events launch files →
    ∃ command k, IsCommand (Toolchain.ofSettings s l) launch.directory r.code command ∧
      StartsTool m (Toolchain.ofSettings s l) command launch files k

/-- If the machine finds all tools and nothing happens to what it finds, no tool is missing, and
    every anchored tool that is started is the program that was found. -/
theorem usesToolsFound_of_runs (ht : m.files.IsTree)
    (hr : Runs (Service.execution s l r) events outcome)
    (hhas : HasTools m (Toolchain.ofSettings s l))
    (hfinds : FindsTools m (Toolchain.ofSettings s l) events) :
    UsesToolsFound m s l r events outcome := by
  obtain ⟨w, log, hsteps, hlog⟩ := proceeds_of_runs hr
  have hsub : ∀ d ∈ log, d.events ⊆ events := by
    intro d hd e he
    rw [hlog]
    exact List.mem_append_left _ (List.mem_flatMap.2 ⟨d, hd, he⟩)
  refine ⟨?_, fun launch files hstarts => ?_⟩
  · intro names ho
    obtain ⟨earlier, last, rfl, -, hlast⟩ := hsteps.decided_by_last
    have hmem : last ∈ earlier ++ [last] := by simp
    have hends := hsteps.ends last hmem
    rw [hlast] at hends
    obtain ⟨hnot, hnames⟩ := hends.eq_of_missing ho hhas (hfinds.mono (hsub last hmem))
    exact ⟨hnot, w.path, hnames⟩
  · obtain ⟨k, hdirectory, hwithin⟩ := exists_within_of_starts ht hr hstarts
    obtain ⟨before, limit, reply, after, reach, hevents, -⟩ := hstarts
    have hm := mem_of_eq_append hevents
    rw [hlog] at hm
    obtain ⟨d, hd, hm⟩ := List.mem_flatMap.1 ((List.mem_append.1 hm).resolve_right not_mem_removal)
    obtain ⟨command, found, hcommand, hlaunch, hresolves, hfound⟩ :=
      (hsteps.ends d hd).exists_command hm
    refine ⟨command, k, hlaunch.directory ▸ hcommand, hdirectory, hlaunch.arguments,
      fun hhere => ?_, fun htool hanchored => ?_⟩
    · exact hlaunch.program (by simp [Workspace.isPath, hhere])
    · have hpath : m.locateProgram command.program = some launch.program :=
        eq_of_resolves hresolves
          (fun reply hreply => hfinds _ htool reply (hsub d hd (hfound hreply)))
          (hhas _ htool) hanchored
      exact ⟨hpath, isSameProgram_of_within hanchored hpath hwithin⟩

/-! ## Two executions -/

def toolNode : Node := ⟨.file State.programMark, 0o755⟩

/-- Files with a tool that is in no directory of the search path. -/
def withTool : FileSystem :=
  ((oneDirectory "tmp").put ["tools"] ⟨.directory, 0o755⟩).put ["tools", "py"] toolNode

/-- The files when the interpreter is started. -/
def withToolAndWorkspace : FileSystem :=
  withTool.put ["tmp", "polyglot-7"] ⟨.directory, 0o700⟩

def toolMachine : State where
  now := 0
  files := withTool
  directory := []
  searchPath := ["/usr/bin"]
  processes := []
  descriptions := []
  pipes := []
  watches := []
  next := 1
  drawn := 0

/-- Settings with an interpreter that is named by its path. -/
def interpretedBy (tool : String) : Settings := { Settings.default with pythonInterpreter := tool }

def printing : Request := .inLanguage .python "print(1)"

/-- How the interpreter is started. -/
def interpreting (program : String) : Launch :=
  ⟨program, ["-c", printing.code], pathOf "/tmp" "7", none⟩

/-- What is asked and replied until the workspace is made. -/
def upToWorkspace (tool path : String) : List Event :=
  [⟨.locate tool, some path⟩, ⟨.drawId, "7"⟩, ⟨.createTree "/tmp", .ok ()⟩,
    ⟨.createPrivate (pathOf "/tmp" "7"), .ok ()⟩]

theorem leadsTo_tmp_withTool : LeadsTo withTool [] "/tmp" ["tmp"] :=
  Workspace.leadsTo_top (by decide) ⟨by decide, by decide, by decide⟩ rfl rfl

theorem placed_withTool : Placed withTool [] (pathOf "/tmp" "7") ["tmp", "polyglot-7"] :=
  Workspace.placed_of_leadsTo (by decide) leadsTo_tmp_withTool rfl (by decide) (by decide)

theorem locate_withToolAndWorkspace :
    withToolAndWorkspace.locate [] (pathOf "/tmp" "7") true = .ok ["tmp", "polyglot-7"] :=
  (placed_withTool.mono (grows_put rfl rfl).within).locate_follow_eq rfl

theorem passes_upToWorkspace (tool path : String) :
    Passes [] ⟨withTool, []⟩ (upToWorkspace tool path) ⟨withToolAndWorkspace, []⟩ := by
  have htree : withTool.createTree [] "/tmp" 0o755 = (.ok (), withTool) :=
    createTree_of_leadsTo (by decide) (by decide) leadsTo_tmp_withTool rfl
  exact .cons (.located tool _ _) .refl <|
    .cons (.drew "7" _ (by decide)) .refl <|
    .cons (serves_createTree (by decide) htree) .refl <|
    .cons (serves_createPrivate (by decide) (placed_withTool.makeDirectory_eq rfl rfl)) .refl <|
    .nil _

/-- The tool is found from the root, with a dot in the path or without one. -/
theorem findsProgram_tool (hpath : path = "/tools/py" ∨ path = "/./tools/py") :
    FindsProgram withTool [] path ["tools", "py"] toolNode := by
  have hleads : Leads withTool maxLinks [] ["tools", "py"] maxLinks ["tools", "py"] :=
    .down rfl ⟨by decide, by decide, by decide⟩ rfl
      (.down rfl ⟨by decide, by decide, by decide⟩ rfl .nil)
  have hnames : Leads withTool maxLinks [] (Path.names path) maxLinks ["tools", "py"] := by
    rcases hpath with rfl | rfl
    · exact hleads
    · exact .dot rfl hleads
  have hends : Path.endsInSlash path = false := by rcases hpath with rfl | rfl <;> decide
  have hfits : path ≠ "" ∧ path.utf8ByteSize ≤ maxPathSize := by
    rcases hpath with rfl | rfl <;> decide
  have horigin : origin [] path = [] := ite_self _
  exact findsProgram_of_leads hfits.1 hfits.2 hends (by rwa [horigin]) rfl (by decide)

theorem locateProgram_tool : toolMachine.locateProgram "tools/py" = some "/tools/py" := by
  have hfinds : FindsProgram withTool [] (Path.join "/" "tools/py") ["tools", "py"] toolNode :=
    findsProgram_tool (.inl (by decide))
  exact State.locateProgram_of_parts (by decide) (by decide) hfinds

theorem locateProgram_tool_here :
    toolMachine.locateProgram "./tools/py" = some "/./tools/py" := by
  have hfinds : FindsProgram withTool [] (Path.join "/" "./tools/py") ["tools", "py"] toolNode :=
    findsProgram_tool (.inr (by decide))
  exact State.locateProgram_of_parts (by decide) (by decide) hfinds

/-- An interpreter with a relative path is found in the directory of the service, and started by the
    path that it was found by. -/
theorem usesToolsFound_of_runs_relative :
    let t := Toolchain.ofSettings (interpretedBy "tools/py") .python
    let events : List Event := [⟨.locate "tools/py", some "/tools/py"⟩, ⟨.drawId, "7"⟩,
      ⟨.createTree "/tmp", .ok ()⟩, ⟨.createPrivate (pathOf "/tmp" "7"), .ok ()⟩,
      ⟨.locate "tools/py", some "/tools/py"⟩,
      ⟨.watch (interpreting "/tools/py") (.ofSeconds 5), .ok (silent 0)⟩, ⟨.killGroup 1, ()⟩,
      ⟨.remove (pathOf "/tmp" "7"), ()⟩]
    toolMachine.files.IsTree ∧
      Runs (Service.execution (interpretedBy "tools/py") .python printing) events (.success "") ∧
      HasTools toolMachine t ∧ FindsTools toolMachine t events ∧
      toolMachine.IsAnchored "tools/py" ∧
      Starts [] withTool events (interpreting "/tools/py") withToolAndWorkspace ∧
      UsesToolsFound toolMachine (interpretedBy "tools/py") .python printing events
        (.success "") := by
  intro t events
  have htree : toolMachine.files.IsTree := by decide
  have hruns : Runs (Service.execution (interpretedBy "tools/py") .python printing) events
      (.success "") :=
    .ask _ (.ask _ (.ask _ (.ask _ (.ask _ (.ask _ (.ask _ (.ask _ (.done _))))))))
  have hhas : HasTools toolMachine t := hasTools_python locateProgram_tool
  have hfinds : FindsTools toolMachine t events := by
    intro tool htool reply hm
    obtain rfl := List.mem_singleton.1 htool
    simp only [events, List.mem_cons, List.not_mem_nil, or_false] at hm
    rcases hm with hm | hm | hm | hm | hm | hm | hm | hm <;> cases hm <;>
      exact locateProgram_tool.symm
  have hstarts : Starts [] withTool events (interpreting "/tools/py") withToolAndWorkspace :=
    ⟨upToWorkspace "tools/py" "/tools/py" ++ [_], _, _, _, _, rfl,
      (passes_upToWorkspace _ _).append (.cons (.located _ _ _) .refl (.nil _))⟩
  exact ⟨htree, hruns, hhas, hfinds, ⟨by decide, by decide⟩, hstarts,
    usesToolsFound_of_runs htree hruns hhas hfinds⟩

/-- The same interpreter with `./` before its path is found as well, and then looked for in the
    workspace. -/
theorem tool_missed_of_here :
    let t := Toolchain.ofSettings (interpretedBy "./tools/py") .python
    let events : List Event := [⟨.locate "./tools/py", some "/./tools/py"⟩, ⟨.drawId, "7"⟩,
      ⟨.createTree "/tmp", .ok ()⟩, ⟨.createPrivate (pathOf "/tmp" "7"), .ok ()⟩,
      ⟨.watch (interpreting "./tools/py") (.ofSeconds 5), .error .notFound⟩,
      ⟨.remove (pathOf "/tmp" "7"), ()⟩]
    (interpretedBy "./tools/py").validate = .ok (interpretedBy "./tools/py") ∧
      toolMachine.files.IsTree ∧
      Runs (Service.execution (interpretedBy "./tools/py") .python printing) events
        (.failure "System error: Failed to spawn ./tools/py: No such file or directory (os error 2)"
          .internalFault) ∧
      HasTools toolMachine t ∧ FindsTools toolMachine t events ∧
      FindsProgram withTool [] "/./tools/py" ["tools", "py"] toolNode ∧
      Starts [] withTool events (interpreting "./tools/py") withToolAndWorkspace ∧
      withToolAndWorkspace.locate [] (pathOf "/tmp" "7") true = .ok ["tmp", "polyglot-7"] ∧
      withToolAndWorkspace.find ["tmp", "polyglot-7"] "./tools/py" true = .error .notFound := by
  intro t events
  have hruns : Runs (Service.execution (interpretedBy "./tools/py") .python printing) events
      (.failure "System error: Failed to spawn ./tools/py: No such file or directory (os error 2)"
        .internalFault) :=
    .ask _ (.ask _ (.ask _ (.ask _ (.ask _ (.ask _ (.done _))))))
  have hhas : HasTools toolMachine t := hasTools_python locateProgram_tool_here
  have hfinds : FindsTools toolMachine t events := by
    intro tool htool reply hm
    obtain rfl := List.mem_singleton.1 htool
    simp only [events, List.mem_cons, List.not_mem_nil, or_false] at hm
    rcases hm with hm | hm | hm | hm | hm | hm <;> cases hm
    exact locateProgram_tool_here.symm
  have hwalk : withToolAndWorkspace.walk true maxLinks ["tmp", "polyglot-7"]
      [".", "tools", "py"] = .error .notFound := by
    rw [walk_dot rfl, walk_down rfl ⟨by decide, by decide, by decide⟩ rfl, walk]
    rfl
  have hlocate : withToolAndWorkspace.locate ["tmp", "polyglot-7"] "./tools/py" true =
      .error .notFound := hwalk
  refine ⟨by decide, by decide, hruns, hhas, hfinds, findsProgram_tool (.inr rfl),
    ⟨upToWorkspace "./tools/py" "/./tools/py", _, _, _, _, rfl, passes_upToWorkspace _ _⟩,
    locate_withToolAndWorkspace, ?_⟩
  rw [find, hlocate]

end Execution

end Playground
