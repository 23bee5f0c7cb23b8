import Playground.Proofs.Execution.CleanUp
import Playground.Proofs.Execution.Launches
import Playground.Proofs.Workspace.Source

set_option autoImplicit false

/-! # Where the paths of commands lead

The commands of a compiled language name its files by the path of the workspace, as it was put
together from the root and the identifier. The host looks that path up from the directory of the
service when it makes the workspace and writes the source, but a process looks up what it is told
from its own directory, and that is the workspace.

If the root is absolute that is the same (`Placed.of_isAbsolute`): the compiler finds the source,
the program is written to where it is run from, and the classes are looked for where they were
compiled. If the root is relative, the path begins with names that are not in the workspace. There is nothing
but the source in it when the compiler is started, so then the source is not found
(`HoldsOnly.find_eq_error`). -/

namespace Playground.Execution

open Machine FileSystem
open Plan (Event Runs)
open Workspace (HoldsOnly Launches names_pathOf oneDirectory pathOf)

/-- A process is started in the course of an execution, and the files are these then. -/
def Starts (here : Location) (fs : FileSystem) (events : List Event) (launch : Launch)
    (files : FileSystem) : Prop :=
  ∃ before limit reply after reach,
    events = before ++ ⟨.watch launch limit, reply⟩ :: after ∧
      Passes here ⟨fs, []⟩ before ⟨files, reach⟩

/-- The argument of a compiler that is the path of the source. -/
def sourceArgument? : Language → List String → Option String
  | .java, [source] => some source
  | .cpp, [_, source, _, _] => some source
  | _, _ => none

/-- A path finds a file in a directory, with some contents. -/
def FindsFile (files : FileSystem) (k : Location) (path name contents : String) : Prop :=
  ∃ mode, files.find k path true =
    .ok (k ++ [name], ⟨.file (Text.Utf8.encode contents.toList), mode⟩)

/-- From the directory of a process, the source is where it was written, classes are in the
    directory, and a program is written to and started from the same place in it. A compiler and
    what it makes are told apart by their arguments. -/
def PathsAgree (files : FileSystem) (k : Location) (code program : String) :
    Language → List String → Prop
  | .python, _ => True
  | .java, [source] => FindsFile files k source "Main.java" code
  | .java, [_, classes, _] => files.locate k classes true = .ok k
  | .cpp, [_, source, _, target] =>
      FindsFile files k source "main.cpp" code ∧
        files.locate k target false = .ok (k ++ ["main"])
  | .cpp, [] =>
      files.directoryFault k = none → files.locate k program false = .ok (k ++ ["main"])
  | _, _ => False

/-- Where the paths lead that a process is told. -/
structure Agrees (here : Location) (s : Settings) (l : Language) (code : String) (k : Location)
    (launch : Launch) (files : FileSystem) : Prop where
  /-- The process is started in the workspace. -/
  directory : files.locate here launch.directory true = .ok k
  /-- Under an absolute root the paths agree. -/
  absolute : Path.isAbsolute s.workspaceRoot = true →
    PathsAgree files k code launch.program l launch.arguments
  /-- Under a relative root, unless it goes up, the source is not found. -/
  relative : Path.isAbsolute s.workspaceRoot = false → ".." ∉ Path.names s.workspaceRoot →
    ∀ source, sourceArgument? l launch.arguments = some source →
      ∃ e, files.find k source true = .error e

variable {here k k' : Location} {s : Settings} {l : Language} {r : Request} {w : Workspace}
  {t : Toolchain} {fs fs₁ files : FileSystem} {scene mid : Scene} {root path id name file : String}
  {events before between after : List Event} {e : Event} {outcome : Outcome} {log : List Done}
  {launch : Launch} {limit : Duration} {reply : Except HostError Session}

/-! ## The place of a workspace -/

/-- A path is at a location once the root has been made, in whatever way. -/
def EndsUpAt (here : Location) (root : String) (fs : FileSystem) (path : String) (k : Location) :
    Prop :=
  ∃ fs₁, IsLaidOut here root fs fs₁ ∧ Placed fs₁ here path k

/-- There is one such location, since no link is made. -/
theorem EndsUpAt.unique (h : EndsUpAt here root fs path k) (h' : EndsUpAt here root fs path k') :
    k' = k := by
  obtain ⟨fs₁, hlaid, hplaced⟩ := h
  obtain ⟨fs₁', hlaid', hplaced'⟩ := h'
  exact hplaced.unique hplaced' fun m => (hlaid'.grows.linkAt? m).trans (hlaid.grows.linkAt? m).symm

/-- What has become of the files before something is asked in an execution. -/
theorem exists_stands_before (ht : fs.IsTree)
    (hr : Runs (Service.execution s l r) (before ++ e :: after) outcome)
    (hpass : Passes here ⟨fs, []⟩ before scene) :
    ∃ phase, Stands here s.workspaceRoot fs phase scene ∧
      Phase.after s.workspaceRoot (Toolchain.ofSettings s l) phase e.action e.reply ≠ .astray := by
  obtain ⟨q, phase, hq, hrest, hstands⟩ :=
    stands_of_passes ht (phased_execution s l r) hr rfl hpass
  refine ⟨phase, hstands, ?_⟩
  cases hrest with
  | ask reply hrest => exact (hq.2 reply).holds

/-! ## The source -/

/-- When the source has been written, its path is not too long, and it is alone in the workspace
    as long as only programs are looked up. -/
theorem holdsOnly_of_passes (ht : fs.IsTree)
    (hr : Runs (Service.execution s l r)
      (before ++ ⟨.write (Path.join (pathOf s.workspaceRoot id) file) r.code, .ok ()⟩ :: after)
      outcome)
    (hpass : Passes here ⟨fs, []⟩
      (before ++ ⟨.write (Path.join (pathOf s.workspaceRoot id) file) r.code, .ok ()⟩ :: between)
      scene)
    (hid : '/' ∉ id.toList) (hfile : (Toolchain.ofSettings s l).sourceName? = some file)
    (hk : EndsUpAt here s.workspaceRoot fs (pathOf s.workspaceRoot id) k) :
    (Path.join (pathOf s.workspaceRoot id) file).utf8ByteSize ≤ maxPathSize ∧
      ∀ lookups, between = asked lookups →
        HoldsOnly scene.files k file (Text.Utf8.encode r.code.toList) := by
  have hsingle := Workspace.isSingle_of_sourceName? hfile
  obtain ⟨mid, hbefore, hafter⟩ := hpass.of_append
  obtain ⟨phase, hstands, hne⟩ := exists_stands_before ht hr hbefore
  obtain ⟨id', rfl, hpath⟩ := exists_working_of_write hne
  obtain ⟨hid', fs₁, k', hlaid, hw, hfresh⟩ := hstands
  -- the workspace is the same one
  obtain rfl : id' = id := by
    rw [hfile, Option.map_some, Option.some.injEq] at hpath
    have hnames := congrArg Path.names hpath
    rw [Path.names_join hsingle.1, Path.names_join hsingle.1, names_pathOf hid', names_pathOf hid]
      at hnames
    exact Workspace.nameOf_injective
      (List.singleton_inj.1 (List.append_cancel_left (List.append_cancel_right hnames)))
  obtain rfl := hk.unique ⟨fs₁, hlaid, hw.placed⟩
  obtain ⟨hempty, hreach⟩ := hfresh rfl
  cases hafter with
  | cons served stirred rest =>
      have hwrite := write_of_serves served
      obtain ⟨l, hl, -⟩ := written_of_write hwrite
      refine ⟨(locateNew_eq_ok_iff.1 hl).2.1, ?_⟩
      rintro lookups rfl
      -- no process has been started yet, so nothing has changed but by the writing
      have hstirs : Stirs mid.reach _ _ := stirred
      have hrest : Passes here ⟨_, mid.reach⟩ _ _ := rest
      rw [hreach] at hstirs hrest
      obtain rfl := Stirs.eq_of_nil hstirs
      obtain rfl := eq_of_passes_asked hrest
      exact Workspace.holdsOnly_of_write (hw.placed_now (hlaid.grows.tree ht)) hempty hsingle hwrite

/-! ## Where the paths lead -/

/-- What there is when a process is started for a source that has a file. -/
structure Meets (here k : Location) (t : Toolchain) (w : Workspace) (code : String)
    (launch : Launch) (files : FileSystem) : Prop where
  placed : Placed files here w.path k
  no_link : files.linkAt? k = none
  /-- The source could be written, so its path is not too long. -/
  fits : ∀ file, t.sourceName? = some file → (w.filePath file).utf8ByteSize ≤ maxPathSize
  /-- When it is the compiler, there is nothing but the source. -/
  launches : (∃ command, t.compileCommand? w.path = some command ∧ w.Launches command launch ∧
      ∀ file, t.sourceName? = some file →
        HoldsOnly files k file (Text.Utf8.encode code.toList)) ∨
    w.Launches (t.runCommand w.path code) launch

theorem isStep_of_sourceName? (h : t.sourceName? = some file) : IsStep file := by
  have hne := Workspace.isSingle_of_sourceName? h
  refine ⟨?_, hne.2.1, hne.2.2⟩
  cases t with
  | python => cases h
  | java => cases h; decide
  | cpp => cases h; decide

namespace Meets

variable (h : Meets here k t w r.code launch files)

include h

/-- Under an absolute path, a name is in the workspace from within too. -/
theorem placed_filePath (habs : Path.isAbsolute w.path = true)
    (hdir : files.directoryFault k = none) (hfile : Path.IsSingle file) (hstep : IsStep file)
    (hfits : (w.filePath file).utf8ByteSize ≤ maxPathSize) :
    Placed files k (w.filePath file) (k ++ [file]) :=
  (h.placed.join hdir hfile hstep hfits).of_isAbsolute ((Path.isAbsolute_join hfile).trans habs)

/-- So the compiler finds the source. -/
theorem findsFile (habs : Path.isAbsolute w.path = true) (hfile : t.sourceName? = some file)
    (honly : HoldsOnly files k file (Text.Utf8.encode r.code.toList)) :
    FindsFile files k (w.filePath file) file r.code :=
  honly.find_eq (h.placed_filePath habs honly.directory (Workspace.isSingle_of_sourceName? hfile).1
    (isStep_of_sourceName? hfile) (h.fits file hfile))

end Meets

/-- The name of the program is no longer than that of its source. -/
theorem Meets.placed_main {standard compiler : String}
    (h : Meets here k (.cpp standard compiler) w r.code launch files)
    (habs : Path.isAbsolute w.path = true) (hdir : files.directoryFault k = none) :
    Placed files k (w.filePath "main") (k ++ ["main"]) := by
  have hmain : Path.IsSingle "main" := ⟨by decide, by decide⟩
  have hsource : Path.IsSingle "main.cpp" := ⟨by decide, by decide⟩
  refine h.placed_filePath habs hdir hmain ⟨by decide, by decide, by decide⟩ ?_
  exact (hmain.utf8ByteSize_join_le hsource (by decide)).trans (h.fits "main.cpp" rfl)

theorem Meets.pathsAgree (h : Meets here k (Toolchain.ofSettings s l) w r.code launch files)
    (habs : Path.isAbsolute w.path = true) :
    PathsAgree files k r.code launch.program l launch.arguments := by
  obtain ⟨command, hc, hlaunch, honly⟩ | hlaunch := h.launches
  · rw [hlaunch.arguments]
    cases l with
    | python => cases hc
    | java =>
        cases hc
        exact h.findsFile habs rfl (honly "Main.java" rfl)
    | cpp =>
        cases hc
        have honly := honly "main.cpp" rfl
        exact ⟨h.findsFile habs rfl honly, (h.placed_main habs honly.directory).locate_eq⟩
  · rw [hlaunch.arguments]
    cases l with
    | python => trivial
    | java => exact (h.placed.of_isAbsolute habs).locate_follow_eq h.no_link
    | cpp =>
        have hpath : Path.isAbsolute (w.filePath "main") = true :=
          (Path.isAbsolute_join ⟨by decide, by decide⟩).trans habs
        -- a program with an absolute path is not looked up
        have hprogram : launch.program = w.filePath "main" :=
          hlaunch.program (Bool.or_eq_true_iff.2 (.inl hpath))
        intro hdir
        rw [hprogram]
        exact (h.placed_main habs hdir).locate_eq

/-- A compiler is told the path of the source, and only a compiler is. -/
theorem exists_sourceArgument {command : Command}
    (hc : (Toolchain.ofSettings s l).compileCommand? path = some command) :
    ∃ file, (Toolchain.ofSettings s l).sourceName? = some file ∧
      sourceArgument? l command.arguments = some (Path.join path file) := by
  cases l with
  | python => cases hc
  | java | cpp =>
      cases hc
      exact ⟨_, rfl, rfl⟩

theorem sourceArgument?_runCommand (s : Settings) (l : Language) (path code : String) :
    sourceArgument? l ((Toolchain.ofSettings s l).runCommand path code).arguments = none := by
  cases l <;> rfl

/-- Under a relative root the compiler does not find the source. -/
theorem Meets.find_eq_error (h : Meets here k (Toolchain.ofSettings s l) w r.code launch files)
    (hw : w.path = pathOf root id) (hid : '/' ∉ id.toList)
    (hrel : Path.isAbsolute root = false) (hup : ".." ∉ Path.names root) {source : String}
    (hsource : sourceArgument? l launch.arguments = some source) :
    ∃ e, files.find k source true = .error e := by
  obtain ⟨command, hc, hlaunch, honly⟩ | hlaunch := h.launches
  · obtain ⟨file, hfile, harg⟩ := exists_sourceArgument hc
    rw [hlaunch.arguments, harg, hw] at hsource
    cases hsource
    exact (honly file hfile).find_eq_error (Workspace.isSingle_of_sourceName? hfile).1 hid hrel hup
  · rw [hlaunch.arguments, sourceArgument?_runCommand] at hsource
    cases hsource

/-! ## Whole executions -/

theorem meets_of_proceeds (ht : fs.IsTree)
    (hr : Runs (Service.execution s l r) (before ++ ⟨.watch launch limit, reply⟩ :: after) outcome)
    (hpass : Passes here ⟨fs, []⟩ before scene)
    (hsteps : Proceeds s (Toolchain.ofSettings s l) r w
      (Step.sequence (Toolchain.ofSettings s l) w) log outcome)
    (hlog : log.flatMap Done.events ++ removal w log =
      before ++ ⟨.watch launch limit, reply⟩ :: after)
    (hl : l ≠ .python) (hid : '/' ∉ id.toList) (hpath : w.path = pathOf s.workspaceRoot id)
    (hlaid : IsLaidOut here s.workspaceRoot fs fs₁) (hw : IsWorkspace here w.path k fs₁ scene) :
    Meets here k (Toolchain.ofSettings s l) w r.code launch scene.files := by
  obtain ⟨file, command, hfile, hc⟩ : ∃ file command,
      (Toolchain.ofSettings s l).sourceName? = some file ∧
        (Toolchain.ofSettings s l).compileCommand? w.path = some command := by
    cases l with
    | python => exact absurd rfl hl
    | java => exact ⟨_, _, rfl, rfl⟩
    | cpp => exact ⟨_, _, rfl, rfl⟩
  obtain ⟨first, between, rfl, hcase⟩ := hsteps.cases_of_watch hfile hc hlog
  rw [List.append_assoc, List.cons_append] at hr
  rw [Workspace.filePath, hpath] at hr hpass
  obtain ⟨hfits, honly⟩ :=
    holdsOnly_of_passes ht hr hpass hid hfile ⟨fs₁, hlaid, hpath ▸ hw.placed⟩
  refine ⟨hw.placed_now (hlaid.grows.tree ht), hw.spares.linkAt?_eq_none,
    fun file' hfile' => ?_, ?_⟩
  · cases hfile.symm.trans hfile'
    rw [Workspace.filePath, hpath]
    exact hfits
  · obtain ⟨hlaunch, lookups, hlookups⟩ | hlaunch := hcase
    · refine .inl ⟨command, hc, hlaunch, fun file' hfile' => ?_⟩
      cases hfile.symm.trans hfile'
      exact honly lookups hlookups
    · exact .inr hlaunch

theorem agrees_of_starts (ht : fs.IsTree) (hr : Runs (Service.execution s l r) events outcome)
    (hsteps : Proceeds s (Toolchain.ofSettings s l) r w
      (Step.sequence (Toolchain.ofSettings s l) w) log outcome)
    (hlog : events = log.flatMap Done.events ++ removal w log)
    (hstarts : Starts here fs events launch files) :
    ∃ k, EndsUpAt here s.workspaceRoot fs w.path k ∧ Agrees here s l r.code k launch files := by
  obtain ⟨before, limit, reply, after, reach, rfl, hpass⟩ := hstarts
  obtain ⟨phase, hstands, hne⟩ := exists_stands_before ht hr hpass
  obtain ⟨id, isFresh, rfl, hdirectory⟩ := exists_working_of_watch hne
  obtain ⟨hid, fs₁, k, hlaid, hw, -⟩ := hstands
  have hpath : w.path = pathOf s.workspaceRoot id :=
    (hsteps.directory_eq (mem_of_eq_append hlog.symm)).symm.trans hdirectory
  rw [← hpath] at hw hdirectory
  have hplaced := hw.placed_now (hlaid.grows.tree ht)
  refine ⟨k, ⟨fs₁, hlaid, hw.placed⟩, ?_, fun habs => ?_, fun hrel hup source hsource => ?_⟩
  · rw [hdirectory]
    exact hplaced.locate_follow_eq hw.spares.linkAt?_eq_none
  · by_cases hl : l = .python
    · subst hl
      trivial
    · have hmeets := meets_of_proceeds ht hr hpass hsteps hlog.symm hl hid hpath hlaid hw
      refine hmeets.pathsAgree ?_
      rw [hpath, Workspace.isAbsolute_pathOf hid, habs]
  · by_cases hl : l = .python
    · subst hl
      cases hsource
    · have hmeets := meets_of_proceeds ht hr hpass hsteps hlog.symm hl hid hpath hlaid hw
      exact hmeets.find_eq_error hpath hid hrel hup hsource

/-- All processes of an execution are started in one directory, and from there their paths lead to
    the workspace and its files if the root is absolute. If it is relative, the source is not found,
    unless the root goes up. -/
theorem exists_agrees_of_runs (ht : fs.IsTree)
    (hr : Runs (Service.execution s l r) events outcome) :
    ∃ k, ∀ launch files, Starts here fs events launch files →
      Agrees here s l r.code k launch files := by
  obtain ⟨w, log, hsteps, hlog⟩ := proceeds_of_runs hr
  by_cases hsite : ∃ k, EndsUpAt here s.workspaceRoot fs w.path k
  · obtain ⟨k, hk⟩ := hsite
    refine ⟨k, fun launch files hstarts => ?_⟩
    obtain ⟨k', hk', hagrees⟩ := agrees_of_starts ht hr hsteps hlog hstarts
    obtain rfl := hk.unique hk'
    exact hagrees
  · -- no process is started, so it does not matter which location is named
    refine ⟨[], fun launch files hstarts => ?_⟩
    obtain ⟨k, hk, -⟩ := agrees_of_starts ht hr hsteps hlog hstarts
    exact absurd ⟨k, hk⟩ hsite

/-! ## Two executions -/

def emptyMain : Request := .inLanguage .cpp "int main() {}"

/-- The source of a program, in the workspace under a root. -/
def sourceUnder (root : String) : String := Path.join (pathOf root "7") "main.cpp"

/-- What is asked and replied until the compiler is started. -/
def upToCompiler (root : String) : List Event :=
  [⟨.locate "g++", some "/usr/bin/g++"⟩, ⟨.drawId, "7"⟩, ⟨.createTree root, .ok ()⟩,
    ⟨.createPrivate (pathOf root "7"), .ok ()⟩, ⟨.write (sourceUnder root) emptyMain.code, .ok ()⟩,
    ⟨.locate "g++", some "/usr/bin/g++"⟩]

def compilerUnder (root : String) : Launch :=
  ⟨"/usr/bin/g++", ["-std=c++17", sourceUnder root, "-o", Path.join (pathOf root "7") "main"],
    pathOf root "7", none⟩

/-- A process that writes nothing and ends at once. -/
def silent (status : Nat) : Session :=
  ⟨1, some (9, .exited status), ⟨[], some 9⟩, ⟨[], some 9⟩, some 0, none⟩

def withWorkspace : FileSystem :=
  (oneDirectory "tmp").put ["tmp", "polyglot-7"] ⟨.directory, 0o700⟩

/-- The files in which the compiler is started. -/
def withSource : FileSystem :=
  (withWorkspace.put ["tmp", "polyglot-7", "main.cpp"] ⟨.file [], 0o644⟩).put
    ["tmp", "polyglot-7", "main.cpp"] ⟨.file (Text.Utf8.encode emptyMain.code.toList), 0o644⟩

section Root

variable (hroot : root = "/tmp" ∨ root = "tmp")

include hroot

theorem fits_of_root :
    ∀ path ∈ [root, pathOf root "7", sourceUnder root],
      path ≠ "" ∧ hasNul path = false ∧ path.utf8ByteSize ≤ maxPathSize := by
  rcases hroot with rfl | rfl <;> decide

theorem leadsTo_root : LeadsTo (oneDirectory "tmp") [] root ["tmp"] :=
  Workspace.leadsTo_oneDirectory (by rcases hroot with rfl | rfl <;> decide)

theorem placed_under_root :
    Placed (oneDirectory "tmp") [] (pathOf root "7") ["tmp", "polyglot-7"] :=
  Workspace.placed_of_leadsTo (by decide) (leadsTo_root hroot) rfl
    (fits_of_root hroot _ (by simp)).2.2 (by decide)

theorem placed_withWorkspace : Placed withWorkspace [] (pathOf root "7") ["tmp", "polyglot-7"] := by
  have hgrows : Grows (oneDirectory "tmp") withWorkspace := grows_put rfl rfl
  exact (placed_under_root hroot).mono hgrows.within

theorem write_withWorkspace :
    withWorkspace.write [] (sourceUnder root) (Text.Utf8.encode emptyMain.code.toList) 0o644 =
      .ok withSource := by
  have hsource := (placed_withWorkspace hroot).join rfl ⟨by decide, by decide⟩
    ⟨by decide, by decide, by decide⟩ (fits_of_root hroot (sourceUnder root) (by simp)).2.2
  have hlocate := hsource.locate_follow_eq rfl
  rw [locate_eq_locateNew hsource.no_slash] at hlocate
  exact write_of_absent hlocate rfl hsource.no_slash

theorem placed_withSource : Placed withSource [] (pathOf root "7") ["tmp", "polyglot-7"] := by
  refine (placed_withWorkspace hroot).mono fun m n hm => ?_
  rw [withSource, node?_put_of_ne, node?_put_of_ne, hm] <;>
  · rintro rfl
    cases hm

theorem passes_upToCompiler :
    Passes [] ⟨oneDirectory "tmp", []⟩ (upToCompiler root) ⟨withSource, []⟩ := by
  have hfits := fits_of_root hroot
  simp only [List.forall_mem_cons] at hfits
  obtain ⟨⟨hne, hnul, hsize⟩, ⟨-, hnul', -⟩, ⟨-, hnul'', -⟩, -⟩ := hfits
  have htree : (oneDirectory "tmp").createTree [] root 0o755 = (.ok (), oneDirectory "tmp") :=
    createTree_of_leadsTo hne hsize (leadsTo_root hroot) rfl
  exact .cons (.located "g++" _ _) .refl <|
    .cons (.drew "7" _ (by decide)) .refl <|
    .cons (serves_createTree hnul htree) .refl <|
    .cons (serves_createPrivate hnul' ((placed_under_root hroot).makeDirectory_eq rfl rfl)) .refl <|
    .cons (serves_write hnul'' (write_withWorkspace hroot)) .refl <|
    .cons (.located "g++" _ withSource) .refl <| .nil _

end Root

theorem holdsOnly_withSource : HoldsOnly withSource ["tmp", "polyglot-7"] "main.cpp"
    (Text.Utf8.encode emptyMain.code.toList) :=
  Workspace.holdsOnly_of_write (placed_withWorkspace (.inr rfl))
    (isEmptyDirectory_put (by decide) rfl)
    ⟨⟨by decide, by decide⟩, by decide, by decide⟩ (write_withWorkspace (.inr rfl))

/-- The compiler writes the program, and that is what is run. -/
theorem agrees_of_runs_cpp :
    let program := Path.join (pathOf "/tmp" "7") "main"
    let events : List Event := upToCompiler "/tmp" ++
      [⟨.watch (compilerUnder "/tmp") (.ofSeconds 30), .ok (silent 0)⟩, ⟨.killGroup 1, ()⟩,
        ⟨.watch ⟨program, [], pathOf "/tmp" "7", none⟩ (.ofSeconds 5), .ok (silent 0)⟩,
        ⟨.killGroup 1, ()⟩, ⟨.remove (pathOf "/tmp" "7"), ()⟩]
    (oneDirectory "tmp").IsTree ∧
      Runs (Service.execution .default .cpp emptyMain) events (.success "") ∧
      ∃ k files, files.node? (k ++ ["main"]) ≠ none ∧
        Starts [] (oneDirectory "tmp") events (compilerUnder "/tmp") withSource ∧
        Agrees [] .default .cpp emptyMain.code k (compilerUnder "/tmp") withSource ∧
        Starts [] (oneDirectory "tmp") events ⟨program, [], pathOf "/tmp" "7", none⟩ files ∧
        Agrees [] .default .cpp emptyMain.code k ⟨program, [], pathOf "/tmp" "7", none⟩ files := by
  intro program events
  let compiled := withSource.put ["tmp", "polyglot-7", "main"] ⟨.file [127], 0o755⟩
  have htree : (oneDirectory "tmp").IsTree := by decide
  have hruns : Runs (Service.execution .default .cpp emptyMain) events (.success "") :=
    .ask _ (.ask _ (.ask _ (.ask _ (.ask _ (.ask _ (.ask _ (.ask _ (.ask _ (.ask _ (.ask _
      (.done _)))))))))))
  have hpass := passes_upToCompiler (.inl rfl)
  have hlocate := (placed_withSource (.inl rfl)).locate_follow_eq rfl
  have hstirs : Stirs (Scene.reachAfter [] ⟨withSource, []⟩
      (.watch (compilerUnder "/tmp") (.ofSeconds 30))) withSource compiled := by
    refine .single ⟨["tmp", "polyglot-7"], ?_, rfl, spares_put_below rfl ⟨["main"], rfl⟩ (by simp)⟩
    simp [Scene.reachAfter, compilerUnder, hlocate]
  have hcompile : Starts [] (oneDirectory "tmp") events (compilerUnder "/tmp") withSource :=
    ⟨upToCompiler "/tmp", _, _, _, _, rfl, hpass⟩
  have hrun : Starts [] (oneDirectory "tmp") events ⟨program, [], pathOf "/tmp" "7", none⟩
      compiled :=
    ⟨upToCompiler "/tmp" ++ [_, _], _, _, _, _, rfl,
      hpass.append (.cons (.watched _ _ _ _) hstirs (.cons (.killedGroup 1 _) .refl (.nil _)))⟩
  obtain ⟨k, hagrees⟩ : ∃ k, ∀ launch files, Starts [] (oneDirectory "tmp") events launch files →
      Agrees [] .default .cpp emptyMain.code k launch files :=
    exists_agrees_of_runs htree hruns
  obtain rfl : k = ["tmp", "polyglot-7"] :=
    Except.ok.inj ((hagrees _ _ hcompile).directory.symm.trans hlocate)
  refine ⟨htree, hruns, _, compiled, ?_, hcompile, hagrees _ _ hcompile, hrun, hagrees _ _ hrun⟩
  exact fun hnone => Option.some_ne_none _ (node?_put_self.symm.trans hnone)

def relativeRoot : Settings := { Settings.default with workspaceRoot := "tmp" }

/-- The source is where it was written, but not where the compiler looks for it. -/
theorem source_not_found_of_relative :
    let events : List Event := upToCompiler "tmp" ++
      [⟨.watch (compilerUnder "tmp") (.ofSeconds 30), .ok (silent 1)⟩, ⟨.killGroup 1, ()⟩,
        ⟨.remove (pathOf "tmp" "7"), ()⟩]
    relativeRoot.validate = .ok relativeRoot ∧ (oneDirectory "tmp").IsTree ∧
      Runs (Service.execution relativeRoot .cpp emptyMain) events (.failure
        "Compilation error:\nProcess exited with exit status: 1" .compileFailure) ∧
      Starts [] (oneDirectory "tmp") events (compilerUnder "tmp") withSource ∧
      withSource.locate [] (compilerUnder "tmp").directory true = .ok ["tmp", "polyglot-7"] ∧
      (∃ mode, withSource.find [] (sourceUnder "tmp") true = .ok (["tmp", "polyglot-7", "main.cpp"],
        ⟨.file (Text.Utf8.encode emptyMain.code.toList), mode⟩)) ∧
      sourceArgument? .cpp (compilerUnder "tmp").arguments = some (sourceUnder "tmp") ∧
      ∃ e, withSource.find ["tmp", "polyglot-7"] (sourceUnder "tmp") true = .error e := by
  intro events
  have hplaced : Placed withSource [] (pathOf "tmp" "7") ["tmp", "polyglot-7"] :=
    placed_withSource (.inr rfl)
  have hsingle : Path.IsSingle "main.cpp" := ⟨by decide, by decide⟩
  have hsource := hplaced.join rfl hsingle ⟨by decide, by decide, by decide⟩ (by decide)
  have hruns : Runs (Service.execution relativeRoot .cpp emptyMain) events (.failure
      "Compilation error:\nProcess exited with exit status: 1" .compileFailure) :=
    .ask _ (.ask _ (.ask _ (.ask _ (.ask _ (.ask _ (.ask _ (.ask _ (.ask _ (.done _)))))))))
  exact ⟨by decide, by decide, hruns,
    ⟨upToCompiler "tmp", _, _, _, _, rfl, passes_upToCompiler (.inr rfl)⟩,
    hplaced.locate_follow_eq rfl, holdsOnly_withSource.find_eq hsource, rfl,
    holdsOnly_withSource.find_eq_error hsingle (by decide) (by decide) (by decide)⟩

end Playground.Execution
