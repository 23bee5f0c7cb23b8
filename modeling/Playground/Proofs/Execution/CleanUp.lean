import Playground.Proofs.Execution.Phase
import Playground.Proofs.Execution.Step
import Playground.Proofs.Machine.Serving
import Playground.Proofs.Workspace.Location

set_option autoImplicit false

/-! # Cleaning up

However an execution ends, its workspace is gone. All that was there before is there unchanged, and
what is new are directories that were made to lead to the root; those stay. If no directory is new,
the root holds what it held. Otherwise the root itself is new and empty, unless its path goes up
through a directory that was missing: then the path may lead to a directory that is old, or on the
way to the root, and the root holds what is in there (`CleansUp`).

What the host did in between is a `Passes`, and `Stands` says for each phase of the execution what
has become of the files so far. -/

namespace Playground.Execution

open Plan Machine FileSystem
open Workspace (oneDirectory createTree_oneDirectory pathOf placed_oneDirectory)

variable {α : Type}

/-! ## What has become of the files -/

/-- The second file system is what making some of the directories that lead to the root has made of
    the first one. -/
def IsLaidOut (here : Location) (root : String) (fs fs₁ : FileSystem) : Prop :=
  ∃ paths, paths <:+ ancestors root ∧ fs₁ = (fs.makeTree here 0o755 paths).2

/-- There is a workspace at a location that was free. Processes write in no other place. -/
structure IsWorkspace (here : Location) (path : String) (l : Location) (fs₁ : FileSystem)
    (s : Scene) : Prop where
  placed : Placed fs₁ here path l
  free : fs₁.node? l = none
  spares : Spares fs₁ l s.files
  reach : ∀ k ∈ s.reach, k = l

/-- Nothing is in a workspace, and no process has been started in it. -/
structure IsFresh (l : Location) (s : Scene) : Prop where
  empty : IsEmptyDirectory s.files l
  reach : s.reach = []

/-- What has become of the files in a phase. -/
def Stands (here : Location) (root : String) (fs : FileSystem) : Phase → Scene → Prop
  | .looking, s => s = ⟨fs, []⟩
  | .drawn id, s => s = ⟨fs, []⟩ ∧ '/' ∉ id.toList
  | .rooted id, s => IsLaidOut here root fs s.files ∧ s.reach = [] ∧ '/' ∉ id.toList
  | .working id isFresh, s =>
      '/' ∉ id.toList ∧ ∃ fs₁ l, IsLaidOut here root fs fs₁ ∧
        IsWorkspace here (pathOf root id) l fs₁ s ∧ (isFresh = true → IsFresh l s)
  | .refused _, s => ∃ fs₁, IsLaidOut here root fs fs₁ ∧ ∀ m, s.files.node? m = fs₁.node? m
  | .ended, s => ∃ fs₁, IsLaidOut here root fs fs₁ ∧ ∀ m, s.files.node? m = fs₁.node? m
  | .astray, _ => False

variable {here l : Location} {root path id : String} {t : Toolchain} {fs fs₁ fs₂ fs₃ : FileSystem}
  {s s' : Scene}

theorem IsLaidOut.grows (h : IsLaidOut here root fs fs₁) : Grows fs fs₁ := by
  obtain ⟨paths, -, rfl⟩ := h
  exact (makes_makeTree fs here 0o755 paths).grows

theorem isLaidOut_refl : IsLaidOut here root fs fs := ⟨[], List.nil_suffix, rfl⟩

/-! ## A workspace -/

namespace IsWorkspace

/-- Nothing was below the location either. -/
theorem free_below (h : IsWorkspace here path l fs₁ s) (ht : fs₁.IsTree) (m : Location)
    (hm : l <+: m) : fs₁.node? m = none :=
  ht.node?_eq_none_of_prefix h.free hm

theorem placed_now (h : IsWorkspace here path l fs₁ s) (ht : fs₁.IsTree) :
    Placed s.files here path l :=
  h.placed.mono (h.spares.within (h.free_below ht))

/-- Processes that have been started in the workspace may do what they like in it. -/
theorem stirs (h : IsWorkspace here path l fs₁ s) {reach : List Location}
    (hreach : ∀ k ∈ reach, k = l) (hs : Stirs reach s.files fs₂) :
    IsWorkspace here path l fs₁ ⟨fs₂, reach⟩ :=
  ⟨h.placed, h.free, hs.spares hreach h.spares, hreach⟩

/-- Looking up the directory of a process leads to the workspace. -/
theorem reachAfter_watch (h : IsWorkspace here path l fs₁ s) (ht : fs₁.IsTree) {launch : Launch}
    (hl : launch.directory = path) (limit : Duration) :
    ∀ k ∈ s.reachAfter here (.watch launch limit), k = l := by
  have hlocate := (h.placed_now ht).locate_follow_eq h.spares.linkAt?_eq_none
  rw [Scene.reachAfter, hl, hlocate]
  intro k hk
  rcases List.mem_cons.1 hk with rfl | hk
  · rfl
  · exact h.reach k hk

/-- A file that is written is in the workspace. -/
theorem write (h : IsWorkspace here path l fs₁ s) (ht : fs₁.IsTree) (hfresh : IsFresh l s)
    {file contents : String} (hfile : Path.IsSingle file ∧ file ≠ "." ∧ file ≠ "..")
    {reply : Except HostError Unit}
    (hs : Serves here (.write (Path.join path file) contents) reply s.files fs₂) :
    IsWorkspace here path l fs₁ ⟨fs₂, s.reach⟩ := by
  rcases cases_of_write hs with rfl | ⟨m, hm, hw⟩
  · exact h
  · obtain ⟨hsingle, hdot, hup⟩ := hfile
    have hnone : s.files.node? (l ++ [file]) = none :=
      hfresh.empty.2 _ (List.prefix_append _ _) (by simp)
    obtain rfl := (h.placed_now ht).locateNew_join h.spares.linkAt?_eq_none (fun _ => rfl) hsingle
      hdot hup (linkAt?_eq_none_of_node?_eq_none hnone) hm
    exact ⟨h.placed, h.free,
      h.spares.trans (hw.spares hfresh.empty.1 (List.prefix_append _ _)), h.reach⟩

/-- Once the workspace is removed, the files are as they were before it was made. -/
theorem remove (h : IsWorkspace here path l fs₁ s) (ht : fs₁.IsTree) (m : Location) :
    (s.files.without here path).node? m = fs₁.node? m := by
  have hlocate := (h.placed_now ht).locate_eq
  by_cases hdir : s.files.directoryFault l = none
  · rw [without_of_directory hlocate hdir, node?_cut]
    split
    · next hm => exact (h.free_below ht m hm).symm
    · next hm => exact h.spares.outside m hm
  · have hgone := h.spares.left.resolve_left hdir
    rw [without_of_absent hlocate (hgone l (List.prefix_refl l))]
    by_cases hm : l <+: m
    · rw [hgone m hm, h.free_below ht m hm]
    · exact h.spares.outside m hm

/-- If the workspace is not there any more, removing it does nothing. -/
theorem remove_of_gone (h : IsWorkspace here path l fs₁ s) (ht : fs₁.IsTree) {e : HostError}
    (hfind : s.files.find here path false = .error e) :
    s.files.without here path = s.files ∧ ∀ k ∈ s.reach, s.files.directoryFault k ≠ none := by
  have hlocate := (h.placed_now ht).locate_eq
  have hnone : s.files.node? l = none := by
    by_contra hn
    obtain ⟨n, hn⟩ := Option.ne_none_iff_exists'.1 hn
    rw [find_eq_ok_iff.2 ⟨hlocate, hn⟩] at hfind
    cases hfind
  refine ⟨without_of_absent hlocate hnone, fun k hk => ?_⟩
  rw [h.reach k hk]
  exact directoryFault_ne_none hnone

/-- Where the workspace was removed there is no directory left to write in. -/
theorem gone_of_remove (h : IsWorkspace here path l fs₁ s) (ht : fs₁.IsTree) :
    ∀ k ∈ s.reach, (s.files.without here path).directoryFault k ≠ none := by
  intro k hk
  rw [h.reach k hk]
  exact directoryFault_ne_none ((h.remove ht l).trans h.free)

end IsWorkspace

/-! ## What one action does -/

/-- No process has been started, so nothing else has changed. -/
theorem Stirs.eq_of_nil (h : Stirs [] fs fs₂) : fs₂ = fs := h.eq_of_gone (by simp)

theorem Stands.of_looking {action : Action} {reply : action.Reply}
    (hserves : Serves here action reply fs fs₂)
    (hstirs : Stirs (Scene.reachAfter here ⟨fs, []⟩ action) fs₂ fs₃)
    (hne : Phase.after root t .looking action reply ≠ .astray) :
    Stands here root fs (Phase.after root t .looking action reply)
      ⟨fs₃, Scene.reachAfter here ⟨fs, []⟩ action⟩ := by
  cases action with
  | locate program =>
      rw [after_looking_locate (mem_requiredTools_of_locate hne)]
      obtain rfl := eq_of_locate hserves
      obtain rfl := Stirs.eq_of_nil hstirs
      rfl
  | drawId =>
      obtain ⟨hid, rfl⟩ := cases_of_drawId hserves
      obtain rfl := Stirs.eq_of_nil hstirs
      exact ⟨rfl, hid⟩
  | _ => exact absurd rfl hne

theorem Stands.of_drawn {action : Action} {reply : action.Reply} (hid : '/' ∉ id.toList)
    (hserves : Serves here action reply fs fs₂)
    (hstirs : Stirs (Scene.reachAfter here ⟨fs, []⟩ action) fs₂ fs₃)
    (hne : Phase.after root t (.drawn id) action reply ≠ .astray) :
    Stands here root fs (Phase.after root t (.drawn id) action reply)
      ⟨fs₃, Scene.reachAfter here ⟨fs, []⟩ action⟩ := by
  cases action with
  | createTree path =>
      by_cases hpath : path = root
      · subst hpath
        obtain rfl := Stirs.eq_of_nil hstirs
        have hlaid : IsLaidOut here path fs fs₃ := exists_of_createTree hserves
        cases reply with
        | ok =>
            simp only [Phase.after, if_true]
            exact ⟨hlaid, rfl, hid⟩
        | error e =>
            simp only [Phase.after, if_true]
            exact ⟨fs₃, hlaid, fun _ => rfl⟩
      · simp [Phase.after, hpath] at hne
  | _ => exact absurd rfl hne

theorem Stands.of_rooted {action : Action} {reply : action.Reply} (ht : fs.IsTree)
    (hs : Stands here root fs (.rooted id) s) (hserves : Serves here action reply s.files fs₂)
    (hstirs : Stirs (s.reachAfter here action) fs₂ fs₃)
    (hne : Phase.after root t (.rooted id) action reply ≠ .astray) :
    Stands here root fs (Phase.after root t (.rooted id) action reply)
      ⟨fs₃, s.reachAfter here action⟩ := by
  obtain ⟨hlaid, hreach, hid⟩ := hs
  cases action with
  | createPrivate path =>
      by_cases hpath : path = pathOf root id
      · subst hpath
        have hstirs : Stirs s.reach fs₂ fs₃ := hstirs
        rw [hreach] at hstirs
        obtain rfl := Stirs.eq_of_nil hstirs
        rcases cases_of_createPrivate hserves with ⟨rfl, hmake⟩ | ⟨e, rfl, rfl⟩
        · simp only [Phase.after, if_true]
          obtain ⟨l, hplaced, hfree, -, rfl⟩ := Workspace.placed_of_makeDirectory hid hmake
          have htree := hlaid.grows.tree ht
          refine ⟨hid, s.files, l, hlaid, ⟨hplaced, hfree, spares_put _ _ _, ?_⟩,
            fun _ => ⟨isEmptyDirectory_put htree hfree, hreach⟩⟩
          simp [Scene.reachAfter, hreach]
        · simp only [Phase.after, if_true]
          exact ⟨_, hlaid, fun _ => rfl⟩
      · simp [Phase.after, hpath] at hne
  | _ => exact absurd rfl hne

theorem Stands.of_working {isFresh : Bool} {action : Action} {reply : action.Reply}
    (ht : fs.IsTree) (hs : Stands here root fs (.working id isFresh) s)
    (hserves : Serves here action reply s.files fs₂)
    (hstirs : Stirs (s.reachAfter here action) fs₂ fs₃)
    (hne : Phase.after root t (.working id isFresh) action reply ≠ .astray) :
    Stands here root fs (Phase.after root t (.working id isFresh) action reply)
      ⟨fs₃, s.reachAfter here action⟩ := by
  obtain ⟨hid, fs₁, l, hlaid, hw, hfresh⟩ := hs
  have htree := hlaid.grows.tree ht
  -- nothing happens in a fresh workspace unless a process is started in it
  have hsame : s.files = fs₂ → Stirs s.reach fs₂ fs₃ →
      Stands here root fs (.working id isFresh) ⟨fs₃, s.reach⟩ := by
    rintro rfl hstirs
    refine ⟨hid, fs₁, l, hlaid, hw.stirs hw.reach hstirs, fun h => ?_⟩
    obtain ⟨hempty, hreach⟩ := hfresh h
    rw [hreach] at hstirs
    obtain rfl := Stirs.eq_of_nil hstirs
    exact ⟨hempty, hreach⟩
  cases action with
  | locate program =>
      rw [after_locate (mem_lookedUp_of_locate hne)]
      exact hsame (eq_of_locate hserves).symm hstirs
  | killGroup group =>
      rw [after_killGroup]
      exact hsame (eq_of_killGroup hserves).symm hstirs
  | killProcess process =>
      rw [after_killProcess]
      exact hsame (eq_of_killProcess hserves).symm hstirs
  | watch launch limit =>
      by_cases hl : launch.directory = pathOf root id
      · rw [after_watch isFresh hl]
        obtain rfl := eq_of_watch hserves
        exact ⟨hid, fs₁, l, hlaid, hw.stirs (hw.reachAfter_watch htree hl limit) hstirs, by simp⟩
      · cases isFresh <;> simp [Phase.after, hl] at hne
  | write path contents =>
      cases isFresh with
      | false => exact absurd rfl hne
      | true =>
          by_cases hsource : t.sourceName?.map (Path.join (pathOf root id)) = some path
          · simp only [Phase.after, hsource, if_true]
            obtain ⟨file, hfile, rfl⟩ := Option.map_eq_some_iff.1 hsource
            have hwritten := hw.write htree (hfresh rfl) (Workspace.isSingle_of_sourceName? hfile)
              hserves
            exact ⟨hid, fs₁, l, hlaid, hwritten.stirs hwritten.reach hstirs, by simp⟩
          · simp [Phase.after, hsource] at hne
  | remove path =>
      by_cases hpath : path = pathOf root id
      · subst hpath
        rw [after_remove]
        obtain rfl := eq_of_remove hserves
        obtain rfl := hstirs.eq_of_gone (hw.gone_of_remove htree)
        exact ⟨fs₁, hlaid, hw.remove htree⟩
      · cases isFresh <;> simp [Phase.after, hpath] at hne
  | _ => cases isFresh <;> exact absurd rfl hne

/-- What one action does, and what processes do before the next one. -/
theorem Stands.step {phase : Phase} {action : Action} {reply : action.Reply} (ht : fs.IsTree)
    (hs : Stands here root fs phase s) (hserves : Serves here action reply s.files fs₂)
    (hstirs : Stirs (s.reachAfter here action) fs₂ fs₃)
    (hne : Phase.after root t phase action reply ≠ .astray) :
    Stands here root fs (Phase.after root t phase action reply)
      ⟨fs₃, s.reachAfter here action⟩ := by
  cases phase with
  | looking =>
      obtain rfl : s = ⟨fs, []⟩ := hs
      exact .of_looking hserves hstirs hne
  | drawn id =>
      obtain ⟨rfl, hid⟩ := hs
      exact .of_drawn hid hserves hstirs hne
  | rooted id => exact .of_rooted ht hs hserves hstirs hne
  | working id isFresh => exact .of_working ht hs hserves hstirs hne
  | _ => cases action <;> exact absurd rfl hne

/-! ## What a whole execution does -/

/-- When the first part of a run has happened, the rest of it is that of a plan in some phase. -/
theorem stands_of_passes {p : Plan α} {post : α → Phase → Prop} {phase : Phase}
    {before after : List Event} {a : α} (ht : fs.IsTree) (hp : Phased root t post phase p)
    (hr : Runs p (before ++ after) a) (hs : Stands here root fs phase s)
    (hpass : Passes here s before s') :
    ∃ q phase', Phased root t post phase' q ∧ Runs q after a ∧ Stands here root fs phase' s' := by
  induction before generalizing p phase s with
  | nil =>
      cases hpass
      exact ⟨p, phase, hp, hr, hs⟩
  | cons event before ih =>
      cases hpass with
      | cons served stirred rest =>
          cases hr with
          | ask reply hrest =>
              exact ih (hp.2 reply) hrest (hs.step ht served stirred (hp.2 reply).holds) rest

/-- In a directory there is something that was there before, or that is a directory and was made to
    lead to the root. -/
inductive IsOldOrOnTheWay (here : Location) (root : String) (fs fs' : FileSystem) (m : Location) :
    Prop where
  | old (hold : fs.node? m ≠ none) (hsame : fs'.node? m = fs.node? m)
  | onTheWay (hnew : fs.node? m = none) (hdir : fs'.directoryFault m = none)
      (hway : ∃ path ∈ ancestors root, LeadsTo fs' here path m)

/-- What is promised of the files before and after an execution. -/
structure CleansUp (here : Location) (s : Settings) (l : Language) (events : List Event)
    (fs fs' : FileSystem) : Prop where
  /-- What was there is there unchanged. -/
  kept : Within fs fs'
  /-- What is new are directories that lead to the root. -/
  new : ∀ m, fs.node? m = none → fs'.node? m ≠ none → fs'.directoryFault m = none ∧
    ∃ path ∈ ancestors s.workspaceRoot, LeadsTo fs' here path m
  /-- The root holds what it held. -/
  entries : ".." ∉ Path.names s.workspaceRoot ∨ fs.isDirectory here s.workspaceRoot = true →
    ∀ name, name ∈ fs'.entries here s.workspaceRoot ↔ name ∈ fs.entries here s.workspaceRoot
  /-- Whatever its path, and wherever the path leads now. -/
  held : ∀ name ∈ fs'.entries here s.workspaceRoot, ∃ top, LeadsTo fs' here s.workspaceRoot top ∧
    fs'.directoryFault top = none ∧ IsOldOrOnTheWay here s.workspaceRoot fs fs' (top ++ [name])
  /-- Nothing is touched when a tool cannot be found. -/
  untouched : ∀ tool, ⟨.locate tool, none⟩ ∈
    events.take (Toolchain.ofSettings s l).requiredTools.length → fs' = fs
  /-- The workspace is removed last, and if it is not there any more, nothing is done. -/
  silent : ∀ before path after, events = before ++ ⟨.remove path, ()⟩ :: after → after = [] ∧
    ∀ mid, Passes here ⟨fs, []⟩ before mid → ∀ e, mid.files.find here path false = .error e →
      ∀ end', Passes here mid [⟨.remove path, ()⟩] end' → end'.files = mid.files

/-- Where all that was there is there unchanged and what is new leads to the root, an entry of the
    root is one or the other. -/
theorem exists_isOldOrOnTheWay {fs' : FileSystem} {name : String} (hkept : Within fs fs')
    (hnew : ∀ m, fs.node? m = none → fs'.node? m ≠ none → fs'.directoryFault m = none ∧
      ∃ path ∈ ancestors root, LeadsTo fs' here path m)
    (hname : name ∈ fs'.entries here root) :
    ∃ top, LeadsTo fs' here root top ∧ fs'.directoryFault top = none ∧
      IsOldOrOnTheWay here root fs fs' (top ++ [name]) := by
  obtain ⟨-, -, top, htop, hdir, hthere⟩ := FileSystem.mem_entries_iff.1 hname
  refine ⟨top, htop, hdir, ?_⟩
  cases hold : fs.node? (top ++ [name]) with
  | none =>
      obtain ⟨hdir, hway⟩ := hnew _ hold hthere
      exact .onTheWay hold hdir hway
  | some n => exact .old (by simp [hold]) ((hkept _ n hold).trans hold.symm)

/-- At its end an execution has left nothing but directories that lead to the root. -/
theorem exists_isLaidOut {outcome : Outcome} {phase : Phase} (hs : Stands here root fs phase s)
    (hend : IsEnd root outcome phase) :
    ∃ fs₁, IsLaidOut here root fs fs₁ ∧ ∀ m, s.files.node? m = fs₁.node? m := by
  rcases hend with rfl | rfl | ⟨e, rfl, -⟩
  · obtain rfl : s = ⟨fs, []⟩ := hs
    exact ⟨fs, isLaidOut_refl, fun _ => rfl⟩
  · exact hs
  · exact hs

theorem IsLaidOut.new (h : IsLaidOut here root fs fs₁) {m : Location} (hm : fs.node? m = none)
    (hm' : fs₁.node? m ≠ none) :
    fs₁.directoryFault m = none ∧ ∃ path ∈ ancestors root, LeadsTo fs₁ here path m := by
  obtain ⟨paths, hpaths, rfl⟩ := h
  have hmakes := makes_makeTree fs here 0o755 paths
  obtain ⟨path, hpath, -, hl⟩ := hmakes.isNamed m hm hm'
  exact ⟨hmakes.grows.new m hm hm', path, hpaths.subset hpath, hl⟩

theorem IsLaidOut.mem_entries_iff (h : IsLaidOut here root fs fs₁) (ht : fs.IsTree)
    (hroot : ".." ∉ Path.names root ∨ fs.isDirectory here root = true) (name : String) :
    name ∈ fs₁.entries here root ↔ name ∈ fs.entries here root := by
  obtain ⟨paths, hpaths, rfl⟩ := h
  by_cases hsame : (fs.makeTree here 0o755 paths).2 = fs
  · rw [hsame]
  · have hup : ".." ∉ Path.names root := hroot.resolve_right fun hdir =>
      hsame (makeTree_of_suffix (isDirectory_iff_reaches.1 hdir).2.2 hpaths)
    -- the root is new and empty, and was no directory before: it held nothing and holds nothing
    obtain ⟨hnot, hempty⟩ := empty_of_makeTree ht hup hpaths hsame
    constructor
    · intro hmem
      obtain ⟨-, -, l, hl, -, hname⟩ := FileSystem.mem_entries_iff.1 hmem
      exact absurd (hempty l hl name) hname
    · intro hmem
      obtain ⟨-, -, l, hl, hdir, -⟩ := FileSystem.mem_entries_iff.1 hmem
      exact absurd ⟨l, hl, hdir⟩ hnot

/-- Looking programs up touches nothing. -/
theorem eq_of_passes_asked {lookups : List (String × Option String)}
    (h : Passes here ⟨fs, []⟩ (asked lookups) s) : s = ⟨fs, []⟩ := by
  induction lookups with
  | nil =>
      cases h
      rfl
  | cons lookup lookups ih =>
      cases h with
      | cons served stirred rest =>
          obtain rfl := eq_of_locate served
          obtain rfl := Stirs.eq_of_nil stirred
          exact ih rest

/-- Each tool is looked up once, and one that is missing is a failure. -/
theorem exists_asked_of_runs_checkTools {events : List Event} {result : Except Failure Unit}
    (h : Runs (checkTools t) events result) :
    ∃ lookups, events = asked lookups ∧ events.length = t.requiredTools.length ∧
      ∀ tool, ⟨.locate tool, none⟩ ∈ events → ∃ f, result = .error f := by
  obtain ⟨first, missing, last, rfl, hmissing, hlast⟩ := Runs.of_bind h
  obtain ⟨lookups, hlookups, rfl, rfl⟩ := asked_of_runs_missingTools hmissing
  have hempty : last = [] ∧ (unknown lookups ≠ [] → ∃ f, result = .error f) := by
    split at hlast
    · next hnil =>
        obtain ⟨rfl, -⟩ := Runs.of_done hlast
        exact ⟨rfl, fun hne => absurd hnil hne⟩
    · obtain ⟨rfl, rfl⟩ := Runs.of_done hlast
      exact ⟨rfl, fun _ => ⟨_, rfl⟩⟩
  obtain ⟨rfl, hfail⟩ := hempty
  rw [List.append_nil]
  refine ⟨lookups, rfl, by rw [← hlookups]; simp [asked], fun tool hmem => hfail ?_⟩
  obtain ⟨⟨program, path⟩, hlookup, heq⟩ := List.mem_map.1 hmem
  cases heq
  exact List.ne_nil_of_mem (List.mem_map.2 ⟨_, List.mem_filter.2 ⟨hlookup, rfl⟩, rfl⟩)

/-- When a tool is missing, nothing is asked but where the tools are. -/
theorem eq_asked_of_missing {settings : Settings} {l : Language} {r : Request}
    {events : List Event} {outcome : Outcome} {tool : String}
    (h : Runs (Service.execution settings l r) events outcome)
    (hm : ⟨.locate tool, none⟩ ∈
      events.take (Toolchain.ofSettings settings l).requiredTools.length) :
    ∃ lookups, events = asked lookups := by
  obtain ⟨_, result, last, rfl, hplan, hlast⟩ := Runs.of_bind h
  obtain ⟨rfl, -⟩ := Runs.of_done hlast
  rw [List.append_nil] at hm ⊢
  rcases Runs.of_onSuccess hplan with ⟨f, -, hfirst⟩ | ⟨first, a, rest, rfl, hfirst, -⟩
  · obtain ⟨lookups, hlookups, -⟩ := exists_asked_of_runs_checkTools hfirst
    exact ⟨lookups, hlookups⟩
  · -- the first events are those of the check, which would have failed
    obtain ⟨lookups, -, hlength, hfail⟩ := exists_asked_of_runs_checkTools hfirst
    rw [← hlength, List.take_left' rfl] at hm
    obtain ⟨f, hf⟩ := hfail tool hm
    cases hf

/-- A workspace is removed last. -/
theorem eq_nil_of_phased_remove {post : α → Phase → Prop} {phase : Phase} {p : Plan α}
    {after : List Event} {a : α} (hp : Phased root t post phase p)
    (hr : Runs p (⟨.remove path, ()⟩ :: after) a) :
    after = [] ∧ ∃ id isFresh, phase = .working id isFresh ∧ path = pathOf root id := by
  cases hr with
  | @ask _ next _ _ _ hrest =>
      have hne := (hp.2 ()).holds
      cases phase with
      | working id isFresh =>
          by_cases hpath : path = pathOf root id
          · subst hpath
            refine ⟨?_, id, isFresh, rfl, rfl⟩
            -- nothing may be asked for after the removal
            have hended : Phased root t post .ended (next ()) := after_remove isFresh () ▸ hp.2 ()
            generalize next () = rest at hended hrest
            cases hrest with
            | done => rfl
            | ask reply hrest => exact absurd rfl (hended.2 reply).holds
          · cases isFresh <;> simp [Phase.after, hpath] at hne
      | _ => exact absurd rfl hne

/-- However an execution ends, its workspace is gone, and nothing else has changed but that there
    may be directories that lead to the root. -/
theorem cleansUp_of_runs {settings : Settings} {l : Language} {r : Request} {events : List Event}
    {outcome : Outcome} (ht : fs.IsTree) (hr : Runs (Service.execution settings l r) events outcome)
    (hpass : Passes here ⟨fs, []⟩ events s) : CleansUp here settings l events fs s.files := by
  have hphased := phased_execution settings l r
  have hstands : Stands here settings.workspaceRoot fs .looking ⟨fs, []⟩ := rfl
  obtain ⟨fs₁, hlaid, hsame⟩ : ∃ fs₁, IsLaidOut here settings.workspaceRoot fs fs₁ ∧
      ∀ m, s.files.node? m = fs₁.node? m := by
    rw [← List.append_nil events] at hr
    obtain ⟨q, phase, hq, hrest, hend⟩ := stands_of_passes ht hphased hr hstands hpass
    cases hrest
    exact exists_isLaidOut hend hq.2
  have hkept : Within fs s.files := fun m n hm => by rw [hsame, hlaid.grows.within m n hm]
  have hnew (m : Location) (hm : fs.node? m = none) (hm' : s.files.node? m ≠ none) :
      s.files.directoryFault m = none ∧
        ∃ path ∈ ancestors settings.workspaceRoot, LeadsTo s.files here path m := by
    rw [hsame] at hm'
    obtain ⟨hdir, path, hpath, hl⟩ := hlaid.new hm hm'
    exact ⟨(directoryFault_congr (hsame m)).trans hdir, path, hpath, hl.congr hsame⟩
  refine ⟨hkept, hnew, fun hroot name => ?_, fun name => exists_isOldOrOnTheWay hkept hnew,
    fun tool hm => ?_, ?_⟩
  · rw [entries_congr hsame, hlaid.mem_entries_iff ht hroot]
  · obtain ⟨lookups, rfl⟩ := eq_asked_of_missing hr hm
    rw [eq_of_passes_asked hpass]
  · rintro before path after rfl
    obtain ⟨mid, hbefore, -⟩ := hpass.of_append
    obtain ⟨q, phase, hq, hrest, -⟩ := stands_of_passes ht hphased hr hstands hbefore
    refine ⟨(eq_nil_of_phased_remove hq hrest).1, fun mid hmid e hfind end' hend => ?_⟩
    obtain ⟨q, phase, hq, hrest, hstands⟩ := stands_of_passes ht hphased hr hstands hmid
    obtain ⟨-, id, isFresh, rfl, rfl⟩ := eq_nil_of_phased_remove hq hrest
    obtain ⟨-, fs₁, k, hlaid, hw, -⟩ := hstands
    obtain ⟨hwithout, hgone⟩ := hw.remove_of_gone (hlaid.grows.tree ht) hfind
    cases hend with
    | cons served stirred rest =>
        cases rest
        obtain rfl := eq_of_remove served
        rw [hwithout] at stirred
        exact stirred.eq_of_gone hgone

/-! ## Two executions -/

/-- A program writes a file and does not end in time. -/
theorem cleansUp_of_runs_timeout :
    let path := pathOf "/tmp" "7"
    let session : Session := ⟨1, none, ⟨[], none⟩, ⟨[], none⟩, some 0, none⟩
    let events : List Event := [⟨.locate "python3", some "/usr/bin/python3"⟩, ⟨.drawId, "7"⟩,
      ⟨.createTree "/tmp", .ok ()⟩, ⟨.createPrivate path, .ok ()⟩,
      ⟨.locate "python3", some "/usr/bin/python3"⟩,
      ⟨.watch ⟨"/usr/bin/python3", ["-c", "print(1)"], path, none⟩ (.ofSeconds 5), .ok session⟩,
      ⟨.killGroup 1, ()⟩, ⟨.killProcess 1, ()⟩, ⟨.remove path, ()⟩]
    (oneDirectory "tmp").IsTree ∧
      Runs (Service.execution .default .python (.inLanguage .python "print(1)")) events
        (.failure "Execution timed out" .timeout) ∧
      ∃ s, Passes [] ⟨oneDirectory "tmp", []⟩ events s ∧
        CleansUp [] .default .python events (oneDirectory "tmp") s.files := by
  intro path session events
  let made := (oneDirectory "tmp").put ["tmp", "polyglot-7"] ⟨.directory, 0o700⟩
  let written := made.put ["tmp", "polyglot-7", "out"] ⟨.file [104, 105], 0o644⟩
  have htree : (oneDirectory "tmp").IsTree := by decide
  have hruns : Runs (Service.execution .default .python (.inLanguage .python "print(1)")) events
      (.failure "Execution timed out" .timeout) :=
    .ask _ (.ask _ (.ask _ (.ask _ (.ask _ (.ask _ (.ask _ (.ask _ (.ask _ (.done _)))))))))
  have hplaced : Placed (oneDirectory "tmp") [] path ["tmp", "polyglot-7"] := placed_oneDirectory
  have hmake : (oneDirectory "tmp").makeDirectory [] path 0o700 = .ok made :=
    hplaced.makeDirectory_eq rfl rfl
  have hlocate : made.locate [] path true = .ok ["tmp", "polyglot-7"] :=
    (hplaced.mono (grows_put rfl rfl).within).locate_follow_eq rfl
  have hwrites : Spares made ["tmp", "polyglot-7"] written := by
    refine ⟨fun m hm => node?_put_of_ne ?_, rfl, .inl rfl⟩
    rintro rfl
    exact hm ⟨["out"], rfl⟩
  have hstirs : Stirs (Scene.reachAfter [] ⟨made, []⟩
      (.watch ⟨"/usr/bin/python3", ["-c", "print(1)"], path, none⟩ (.ofSeconds 5)))
      made written := by
    refine .single ⟨["tmp", "polyglot-7"], ?_, rfl, hwrites⟩
    simp [Scene.reachAfter, hlocate]
  have hpasses : Passes [] ⟨oneDirectory "tmp", []⟩ events _ :=
    .cons (.located "python3" _ _) .refl <|
      .cons (.drew "7" _ (by decide)) .refl <|
      .cons (serves_createTree (by decide) createTree_oneDirectory) .refl <|
      .cons (serves_createPrivate (by decide) hmake) .refl <|
      .cons (.located "python3" _ made) .refl <|
      .cons (.watched _ (.ofSeconds 5) (.ok session) made) hstirs <|
      .cons (.killedGroup 1 written) .refl <|
      .cons (.killedProcess 1 written) .refl <|
      .cons (.performed rfl) .refl <| .nil _
  have hclean := cleansUp_of_runs htree hruns hpasses
  exact ⟨htree, hruns, _, hpasses, hclean⟩

/-- Settings whose root leads up through a directory that may be missing. -/
def upThroughMissing : Settings := { Settings.default with workspaceRoot := "/new/.." }

theorem not_mem_entries_upThroughMissing (hnew : fs.node? ["new"] = none) (name : String) :
    name ∉ fs.entries [] "/new/.." := by
  have hnames : Path.names "/new/.." = ["new", ".."] := by decide
  intro h
  obtain ⟨-, -, l, ⟨links, hl⟩, -, -⟩ := FileSystem.mem_entries_iff.1 h
  rw [hnames] at hl
  have hlink : fs.linkAt? ["new"] = none := linkAt?_eq_none_of_node?_eq_none hnew
  obtain ⟨hdot, -⟩ | ⟨hup, -⟩ | ⟨-, -, rest⟩ | ⟨_, _, -, -, link, -⟩ := hl.of_cons
  · exact absurd hdot (by decide)
  · exact absurd hup (by decide)
  · exact directoryFault_ne_none hnew rest.directoryFault_eq_none
  · exact absurd (hlink.symm.trans link) (by simp)

/-- The directory that is made on the way stays, and with it the path leads to what was there. -/
theorem entries_change_upThroughMissing :
    let path := pathOf "/new/.." "7"
    let events : List Event := [⟨.locate "python3", some "/usr/bin/python3"⟩, ⟨.drawId, "7"⟩,
      ⟨.createTree "/new/..", .ok ()⟩, ⟨.createPrivate path, .ok ()⟩,
      ⟨.locate "python3", some "/usr/bin/python3"⟩,
      ⟨.watch ⟨"/usr/bin/python3", ["-c", "print(1)"], path, none⟩ (.ofSeconds 5),
        .error .notFound⟩,
      ⟨.remove path, ()⟩]
    (oneDirectory "tools").IsTree ∧
      Runs (Service.execution upThroughMissing .python (.inLanguage .python "print(1)")) events
        (.ofFailure (Workspace.spawnFailure "python3" .notFound)) ∧
      ∃ s, Passes [] ⟨oneDirectory "tools", []⟩ events s ∧
        "tools" ∉ (oneDirectory "tools").entries [] "/new/.." ∧
        "tools" ∈ s.files.entries [] "/new/.." := by
  intro path events
  have hruns : Runs (Service.execution upThroughMissing .python (.inLanguage .python "print(1)"))
      events (.ofFailure (Workspace.spawnFailure "python3" .notFound)) :=
    .ask _ (.ask _ (.ask _ (.ask _ (.ask _ (.ask _ (.ask _ (.done _)))))))
  refine ⟨by decide, hruns, ?_⟩
  let laid := (oneDirectory "tools").put ["new"] ⟨.directory, 0o755⟩
  let made := laid.put ["polyglot-7"] ⟨.directory, 0o700⟩
  have hup : LeadsTo laid [] "/new/.." [] := Workspace.leadsTo_new_up rfl rfl
  have hroot : (oneDirectory "tools").createTree [] "/new/.." 0o755 = (.ok (), laid) := by
    have hancestors : ancestors "/new/.." = ["/new/..", "/new", "/"] := by decide
    rw [createTree, hancestors]
    exact Workspace.makeTree_new_up rfl rfl rfl
  have hplaced : Placed laid [] path ["polyglot-7"] :=
    Workspace.placed_of_leadsTo (by decide) hup rfl (by decide) (by decide)
  have hmake : laid.makeDirectory [] path 0o700 = .ok made := hplaced.makeDirectory_eq rfl rfl
  have hremove : made.without [] path = made.cut ["polyglot-7"] :=
    without_of_directory (hplaced.mono (grows_put rfl rfl).within).locate_eq rfl
  refine ⟨_, .cons (.located "python3" _ _) .refl <|
      .cons (.drew "7" _ (by decide)) .refl <|
      .cons (serves_createTree (by decide) hroot) .refl <|
      .cons (serves_createPrivate (by decide) hmake) .refl <|
      .cons (.located "python3" _ made) .refl <|
      .cons (.watched _ (.ofSeconds 5) _ made) .refl <|
      .cons (.performed rfl) .refl <| .nil _, not_mem_entries_upThroughMissing rfl _, ?_⟩
  show _ ∈ entries (made.without [] path) _ _
  rw [hremove]
  exact FileSystem.mem_entries_iff.2
    ⟨by decide, by decide, [], Workspace.leadsTo_new_up rfl rfl, rfl, by decide⟩

end Playground.Execution
