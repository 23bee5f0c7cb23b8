import Playground.Proofs.Path
import Playground.Proofs.Plan
import Playground.Service

set_option autoImplicit false

/-! # The phases of an execution

An execution looks for its tools, draws an identifier, makes the root and its workspace, works in
it and removes it. `Phase.after` says which of its actions lead from one phase to which other one;
all others lead astray, and so does looking up a program that is none of its own (`lookedUp`). An
execution never goes astray, whatever the replies are, and it ends before it has made a directory of
its own or after it has removed it (`phased_execution`). -/

namespace Playground.Execution

open Plan
open Workspace (pathOf)

variable {α β ε : Type}

inductive Phase where
  /-- Tools are being looked for, and nothing has been made. -/
  | looking
  | drawn (id : String)
  /-- The root is there. -/
  | rooted (id : String)
  /-- The workspace is there. As long as it is fresh nothing has been written and no process been
      started in it. -/
  | working (id : String) (isFresh : Bool)
  /-- The root could not be made. -/
  | refused (e : HostError)
  | ended
  | astray
  deriving DecidableEq

/-- The programs that are looked up in a workspace: the tools, and what has been built there, unless
    it is started by its path as it is written. -/
def lookedUp (t : Toolchain) (path : String) : List String :=
  t.requiredTools ++ [(t.runCommand path "").program].filter fun program =>
    !Workspace.isPath program

/-- The phase after an action of an execution in a toolchain, with workspaces under a root. -/
def Phase.after (root : String) (t : Toolchain) :
    Phase → (action : Action) → action.Reply → Phase
  | .looking, .locate program, _ => if program ∈ t.requiredTools then .looking else .astray
  | .looking, .drawId, id => .drawn id
  | .drawn id, .createTree path, reply =>
      if path = root then
        match reply with
        | .ok () => .rooted id
        | .error e => .refused e
      else .astray
  | .rooted id, .createPrivate path, reply =>
      if path = pathOf root id then
        match reply with
        | .ok () => .working id true
        | .error _ => .ended
      else .astray
  | .working id isFresh, .locate program, _ =>
      if program ∈ lookedUp t (pathOf root id) then .working id isFresh else .astray
  | .working id true, .write path _, _ =>
      if t.sourceName?.map (Path.join (pathOf root id)) = some path then .working id false
      else .astray
  | .working id _, .watch launch _, _ =>
      if launch.directory = pathOf root id then .working id false else .astray
  | .working id isFresh, .killGroup _, _ => .working id isFresh
  | .working id isFresh, .killProcess _, _ => .working id isFresh
  | .working id _, .remove path, _ => if path = pathOf root id then .ended else .astray
  | _, _, _ => .astray

/-- The plan does not go astray if it starts in a phase, and ends as `post` says. -/
abbrev Phased (root : String) (t : Toolchain) (post : α → Phase → Prop) (phase : Phase)
    (p : Plan α) : Prop :=
  p.Keeps (Phase.after root t) (· ≠ .astray) post phase

variable {root id : String} {t : Toolchain}

/-- One action leads to the phase in which the plan goes on. -/
theorem phased_ask {post : α → Phase → Prop} {phase : Phase} {action : Action}
    {next : action.Reply → Plan α} (hne : phase ≠ .astray)
    (h : ∀ reply, ∃ phase', Phase.after root t phase action reply = phase' ∧
      Phased root t post phase' (next reply)) : Phased root t post phase (.ask action next) := by
  refine ⟨hne, fun reply => ?_⟩
  obtain ⟨phase', hafter, hnext⟩ := h reply
  rwa [hafter]

/-! ## Before there is a workspace -/

theorem after_looking_locate {program : String} (h : program ∈ t.requiredTools)
    (reply : (Action.locate program).Reply) :
    Phase.after root t .looking (.locate program) reply = .looking := if_pos h

theorem mem_requiredTools_of_locate {program : String} {reply : (Action.locate program).Reply}
    (h : Phase.after root t .looking (.locate program) reply ≠ .astray) :
    program ∈ t.requiredTools :=
  Decidable.byContradiction fun hnot => h (if_neg hnot)

theorem phased_missingTools {tools : List String} (htools : tools ⊆ t.requiredTools) :
    Phased root t (fun _ phase => phase = .looking) .looking (missingTools tools) := by
  induction tools with
  | nil => exact ⟨by simp, rfl⟩
  | cons tool tools ih =>
      obtain ⟨htool, htools⟩ := List.cons_subset.1 htools
      refine phased_ask (by simp) fun found => ⟨.looking, after_looking_locate htool found,
        Keeps.bind (p := missingTools tools) ((ih htools).mono ?_)⟩
      rintro missing _ - rfl
      exact ⟨by simp, rfl⟩

theorem phased_checkTools :
    Phased root t (fun _ phase => phase = .looking) .looking (checkTools t) := by
  refine Keeps.bind ((phased_missingTools (List.Subset.refl _)).mono ?_)
  rintro missing _ - rfl
  cases missing <;> exact ⟨by simp, rfl⟩

/-- What can be said when no workspace could be made. -/
def IsTurnedAway (root : String) (f : Failure) (phase : Phase) : Prop :=
  phase = .ended ∨ ∃ e, phase = .refused e ∧ f = Workspace.rootFailure root e

theorem phased_create (root : String) :
    Phased root t (fun result phase =>
        match result with
        | .ok w => ∃ id, w = ⟨pathOf root id, id⟩ ∧ phase = .working id true
        | .error f => IsTurnedAway root f phase) .looking (Workspace.create root) := by
  refine ⟨by simp, fun id => ⟨by simp [Phase.after], fun tree => ?_⟩⟩
  cases tree with
  | error e => exact ⟨by simp [Phase.after], .inr ⟨e, by simp [Phase.after], rfl⟩⟩
  | ok =>
      refine ⟨by simp [Phase.after], fun directory => ?_⟩
      cases directory with
      | error e => exact ⟨by simp [Phase.after], .inl (by simp [Phase.after])⟩
      | ok => exact ⟨by simp [Phase.after], id, rfl, by simp [Phase.after]⟩

/-! ## In a workspace -/

/-- The plan works in the workspace with an identifier. -/
def Works (root : String) (t : Toolchain) (id : String) (p : Plan α) : Prop :=
  ∀ isFresh, Phased root t (fun _ phase => ∃ isFresh', phase = .working id isFresh')
    (.working id isFresh) p

namespace Works

theorem done (a : α) : Works root t id (.done a) := fun isFresh => ⟨by simp, isFresh, rfl⟩

theorem ask {action : Action} {next : action.Reply → Plan α}
    (ha : ∀ isFresh reply, ∃ isFresh',
      Phase.after root t (.working id isFresh) action reply = .working id isFresh')
    (h : ∀ reply, Works root t id (next reply)) : Works root t id (.ask action next) := by
  intro isFresh
  refine phased_ask (by simp) fun reply => ?_
  obtain ⟨isFresh', hafter⟩ := ha isFresh reply
  exact ⟨_, hafter, h reply isFresh'⟩

theorem bind {p : Plan α} {f : α → Plan β} (hp : Works root t id p)
    (hf : ∀ a, Works root t id (f a)) : Works root t id (p >>= f) := by
  intro isFresh
  refine Keeps.bind ((hp isFresh).mono ?_)
  rintro a _ - ⟨isFresh', rfl⟩
  exact hf a isFresh'

theorem onSuccess {p : Plan (Except ε α)} {f : α → Plan (Except ε β)} (hp : Works root t id p)
    (hf : ∀ a, Works root t id (f a)) : Works root t id (p.onSuccess f) := by
  refine hp.bind fun r => ?_
  cases r with
  | ok a => exact hf a
  | error e => exact done _

end Works

theorem after_locate {program : String} (h : program ∈ lookedUp t (pathOf root id))
    (isFresh : Bool) (reply : (Action.locate program).Reply) :
    Phase.after root t (.working id isFresh) (.locate program) reply = .working id isFresh := by
  cases isFresh <;> exact if_pos h

theorem mem_lookedUp_of_locate {program : String} {isFresh : Bool}
    {reply : (Action.locate program).Reply}
    (h : Phase.after root t (.working id isFresh) (.locate program) reply ≠ .astray) :
    program ∈ lookedUp t (pathOf root id) := by
  refine Decidable.byContradiction fun hnot => h ?_
  cases isFresh <;> exact if_neg hnot

/-- What has been built under an absolute path is not looked up. -/
theorem lookedUp_subset_requiredTools {path : String} (h : Path.isAbsolute path = true) :
    lookedUp t path ⊆ t.requiredTools := by
  intro program hmem
  rcases List.mem_append.1 hmem with htool | hbuilt
  · exact htool
  · obtain ⟨hprogram, hpath⟩ := List.mem_filter.1 hbuilt
    obtain rfl := List.mem_singleton.1 hprogram
    cases t with
    | python interpreter => exact List.mem_singleton.2 rfl
    | java compiler runtime => exact List.mem_cons_of_mem _ (List.mem_singleton.2 rfl)
    | cpp standard compiler =>
        simp [Toolchain.runCommand, Workspace.isPath, Path.isAbsolute_join_of_left h] at hpath

/-- Under an absolute root an execution looks its tools up and nothing else. -/
theorem mem_requiredTools_of_phased (habs : Path.isAbsolute root = true) {phase : Phase}
    {post : α → Phase → Prop} {program : String} {next : Option String → Plan α}
    (hp : Phased root t post phase (.ask (.locate program) next)) : program ∈ t.requiredTools := by
  have hne : Phase.after root t phase (.locate program) none ≠ .astray := (hp.2 none).holds
  cases phase with
  | looking => exact mem_requiredTools_of_locate hne
  | working id isFresh =>
      exact lookedUp_subset_requiredTools (Path.isAbsolute_join_of_left habs)
        (mem_lookedUp_of_locate hne)
  | _ => exact absurd rfl hne

theorem after_killGroup (isFresh : Bool) (group : Nat) (reply : (Action.killGroup group).Reply) :
    Phase.after root t (.working id isFresh) (.killGroup group) reply = .working id isFresh := by
  cases isFresh <;> rfl

theorem after_killProcess (isFresh : Bool) (process : Nat)
    (reply : (Action.killProcess process).Reply) :
    Phase.after root t (.working id isFresh) (.killProcess process) reply =
      .working id isFresh := by
  cases isFresh <;> rfl

theorem after_watch (isFresh : Bool) {launch : Launch} (h : launch.directory = pathOf root id)
    (limit : Duration) (reply : (Action.watch launch limit).Reply) :
    Phase.after root t (.working id isFresh) (.watch launch limit) reply = .working id false := by
  cases isFresh <;> simp [Phase.after, h]

theorem after_remove (isFresh : Bool) (reply : (Action.remove (pathOf root id)).Reply) :
    Phase.after root t (.working id isFresh) (.remove (pathOf root id)) reply = .ended := by
  cases isFresh <;> simp [Phase.after]

/-- Processes are started in the workspace only. -/
theorem exists_working_of_watch {phase : Phase} {launch : Launch} {limit : Duration}
    {reply : Except HostError Session}
    (h : Phase.after root t phase (.watch launch limit) reply ≠ .astray) :
    ∃ id isFresh, phase = .working id isFresh ∧ launch.directory = pathOf root id := by
  cases phase with
  | working id isFresh =>
      refine ⟨id, isFresh, rfl, Decidable.byContradiction fun hl => ?_⟩
      cases isFresh <;> simp [Phase.after, hl] at h
  | _ => exact absurd rfl h

/-- Only the source is written, into a fresh workspace. -/
theorem exists_working_of_write {phase : Phase} {path contents : String}
    {reply : Except HostError Unit}
    (h : Phase.after root t phase (.write path contents) reply ≠ .astray) :
    ∃ id, phase = .working id true ∧
      t.sourceName?.map (Path.join (pathOf root id)) = some path := by
  cases phase with
  | working id isFresh =>
      cases isFresh with
      | false => exact absurd rfl h
      | true =>
          refine ⟨id, rfl, Decidable.byContradiction fun hs => ?_⟩
          simp [Phase.after, hs] at h
  | _ => exact absurd rfl h

/-- A command of which the program is looked up only where that is in order. -/
def IsResolvable (t : Toolchain) (path : String) (command : Command) : Prop :=
  Workspace.isPath command.program = false → command.program ∈ lookedUp t path

theorem isResolvable_of_compileCommand? {path : String} {command : Command}
    (h : t.compileCommand? path = some command) : IsResolvable t path command := by
  intro _
  cases t with
  | python => cases h
  | java compiler runtime =>
      cases h
      simp [lookedUp, Toolchain.requiredTools]
  | cpp standard compiler =>
      cases h
      simp [lookedUp, Toolchain.requiredTools]

theorem isResolvable_runCommand (t : Toolchain) (path code : String) :
    IsResolvable t path (t.runCommand path code) := by
  intro hpath
  have hprogram : (t.runCommand path code).program = (t.runCommand path "").program := by
    cases t <;> rfl
  rw [hprogram] at hpath ⊢
  exact List.mem_append_right _ (List.mem_filter.2 ⟨List.mem_singleton.2 rfl, by simp [hpath]⟩)

theorem works_resolve {program : String}
    (h : Workspace.isPath program = false → program ∈ lookedUp t (pathOf root id)) :
    Works root t id (Workspace.resolve program) := by
  unfold Workspace.resolve
  split
  · exact .done _
  · next hpath =>
      have hprogram := h (by simpa using hpath)
      refine .ask (fun isFresh reply => ⟨isFresh, after_locate hprogram _ _⟩) fun reply => ?_
      cases reply <;> exact .done _

theorem works_settle (session : Session) (stage : Stage) (limit : Duration) :
    Works root t id (Workspace.settle session stage limit) := by
  refine .ask (fun isFresh _ => ⟨isFresh, after_killGroup _ _ _⟩) fun _ => ?_
  cases session.result limit with
  | finished output => exact .done _
  | faulted e => exact .ask (fun isFresh _ => ⟨isFresh, after_killProcess _ _ _⟩) fun _ => .done _
  | overrun => exact .ask (fun isFresh _ => ⟨isFresh, after_killProcess _ _ _⟩) fun _ => .done _

theorem works_watched {command : Command} (h : IsResolvable t (pathOf root id) command)
    (input : Option String) (limit : Duration) (stage : Stage) :
    Works root t id (Workspace.run ⟨pathOf root id, id⟩ command input limit stage) := by
  refine (works_resolve h).onSuccess fun program => ?_
  refine .ask (fun isFresh _ => ⟨false, after_watch isFresh rfl _ _⟩) fun reply => ?_
  cases reply with
  | error e => exact .done _
  | ok session => exact works_settle session stage limit

theorem works_compile (s : Settings) : Works root t id (compile s t ⟨pathOf root id, id⟩) := by
  unfold compile
  split
  · exact .done _
  · next hcommand =>
      exact (works_watched (isResolvable_of_compileCommand? hcommand) _ _ _).onSuccess
        fun _ => .done _

theorem works_run (s : Settings) (code : String) (input : Option String) :
    Works root t id (run s t ⟨pathOf root id, id⟩ code input) :=
  (works_watched (isResolvable_runCommand t _ code) _ _ _).onSuccess fun _ => .done _

/-- The source is written first, into a fresh workspace. -/
theorem phased_writeSource (code : String) :
    Phased root t (fun _ phase => ∃ isFresh, phase = .working id isFresh) (.working id true)
      (Workspace.writeSource ⟨pathOf root id, id⟩ t code) := by
  unfold Workspace.writeSource
  split
  · exact ⟨by simp, true, rfl⟩
  · next name hname =>
      have hafter : ∀ reply, Phase.after root t (.working id true)
          (.write (Path.join (pathOf root id) name) code) reply = .working id false := by
        intro reply
        simp [Phase.after, hname]
      refine Keeps.bind (phased_ask (by simp) fun reply => ⟨_, hafter reply, ?_⟩)
      cases reply <;> exact ⟨by simp, by simp, false, rfl⟩

theorem phased_inWorkspace (s : Settings) (code : String) (input : Option String) :
    Phased root t (fun _ phase => ∃ isFresh, phase = .working id isFresh) (.working id true)
      (inWorkspace s t code input ⟨pathOf root id, id⟩) := by
  refine Keeps.onSuccess ((phased_writeSource code).mono ?_)
  rintro result _ - ⟨isFresh, rfl⟩
  cases result with
  | error f => exact ⟨isFresh, rfl⟩
  | ok => exact (works_compile s).onSuccess (fun _ => works_run s code input) isFresh

/-! ## Executions -/

/-- How an execution can have ended: before it made anything, when it could not make the root, or
    after it removed its workspace. -/
def IsEnd (root : String) (outcome : Outcome) (phase : Phase) : Prop :=
  phase = .looking ∨ phase = .ended ∨
    ∃ e, phase = .refused e ∧ outcome = .ofFailure (Workspace.rootFailure root e)

theorem phased_within (s : Settings) (code : String) (input : Option String) :
    Phased root t (fun result phase => IsEnd root (.ofExcept result) phase) .looking
      (Workspace.within root (inWorkspace s t code input)) := by
  refine Keeps.bind ((phased_create root).mono ?_)
  intro result phase hne hphase
  cases result with
  | error f =>
      refine ⟨hne, ?_⟩
      rcases hphase with rfl | ⟨e, rfl, rfl⟩
      · exact .inr (.inl rfl)
      · exact .inr (.inr ⟨e, rfl, rfl⟩)
  | ok w =>
      obtain ⟨id, rfl, rfl⟩ := hphase
      refine Keeps.bind ((phased_inWorkspace s code input).mono ?_)
      rintro result _ - ⟨isFresh, rfl⟩
      exact phased_ask (by simp) fun _ => ⟨_, after_remove isFresh _, by simp, .inr (.inl rfl)⟩

theorem phased_execution (s : Settings) (l : Language) (r : Request) :
    Phased s.workspaceRoot (Toolchain.ofSettings s l) (IsEnd s.workspaceRoot) .looking
      (Service.execution s l r) := by
  refine Keeps.bind (Keeps.mono (Keeps.onSuccess (phased_checkTools.mono ?_))
    fun _ _ hne hend => ⟨hne, hend⟩)
  rintro result _ - rfl
  cases result with
  | error f => exact .inl rfl
  | ok => exact phased_within s r.code r.input

end Playground.Execution
