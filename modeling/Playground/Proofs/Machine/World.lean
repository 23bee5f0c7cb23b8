import Playground.Proofs.Machine.Lookup
import Playground.Proofs.Machine.Retry
import Playground.Proofs.Machine.Serving
import Playground.Proofs.Plan
import Playground.Proofs.Workspace.Location

set_option autoImplicit false

/-! # Worlds

A `World` says all that the files do not say about what a host replies: where programs are looked
for, and what child processes do. A child sees nothing but what is in the directory that it is
started in, and changes nothing else. So the reply to an action and the files after it depend on the
files before it only (`World.serve`), and what comes of a plan that nobody else comes between is a
function of the files (`World.run`). All but the children are those of the machine
(`perform_eq_serve`), which also refuses to start the same ones (`watch_of_refuses`).

An execution works in its workspace with the same outcome in any files that look the same there, as
long as it finds its programs: the replies are the same, and afterwards the files look the same
there again (`Mirrors.serve`). -/

namespace Playground.Machine

open FileSystem
open Workspace (pathOf)

/-! ## What children do -/

/-- What a process leaves behind in the directory that it was started in: the mode of the directory,
    and the nodes below with the ways to them from there. -/
structure Remains where
  mode : Nat
  nodes : List (Location × Node)

namespace FileSystem

/-- What is at a location and below, by the way from there. -/
def below (fs : FileSystem) (l : Location) (way : Location) : Option Node := fs.node? (l ++ way)

/-- The file system with something else in a directory, or without the directory. -/
def replant (fs : FileSystem) (l : Location) : Option Remains → FileSystem
  | none => fs.cut l
  | some r =>
      { fs with
        nodes := (l, ⟨.directory, r.mode⟩) :: r.nodes.map (fun entry => (l ++ entry.1, entry.2)) ++
          (fs.cut l).nodes }

end FileSystem

structure World where
  /-- The directory that paths are looked up from. -/
  here : Location
  /-- Where programs are looked for. -/
  searchPath : List String
  /-- How a child that is started in a directory with such contents is seen to do, and what it
      leaves of them; nothing if it removes the directory. -/
  child : Launch → Duration → (Location → Option Node) → Except HostError Session × Option Remains

namespace World

/-- Starts a child in its directory, and waits for it. -/
def watch (w : World) (fs : FileSystem) (launch : Launch) (limit : Duration) :
    Except HostError Session × FileSystem :=
  if holdsNul launch then (.error .nulInArgument, fs)
  else
    match fs.find w.here launch.directory true with
    | .error e => (.error e, fs)
    | .ok (l, ⟨.directory, _⟩) =>
        let (reply, remains) := w.child launch limit (fs.below l)
        (reply, fs.replant l remains)
    | .ok _ => (.error .notADirectory, fs)

/-- Where a program is found. -/
def lookUp (w : World) (fs : FileSystem) (program : String) : Option String :=
  fs.locateProgram w.here w.searchPath program

/-- The reply to an action, and the files after it. The identifier is the one that is drawn. -/
def serve (w : World) (id : String) (fs : FileSystem) :
    (action : Action) → action.Reply × FileSystem
  | .locate program => (w.lookUp fs program, fs)
  | .drawId => (id, fs)
  | .watch launch limit => w.watch fs launch limit
  | .killGroup _ => ((), fs)
  | .killProcess _ => ((), fs)
  | .createTree path => (fs.perform w.here (.createTree path)).get rfl
  | .createPrivate path => (fs.perform w.here (.createPrivate path)).get rfl
  | .write path contents => (fs.perform w.here (.write path contents)).get rfl
  | .remove path => (fs.perform w.here (.remove path)).get rfl

/-- What a plan returns when it is followed alone. -/
def run {α : Type} (w : World) (id : String) : FileSystem → Plan α → α
  | _, .done a => a
  | fs, .ask action next =>
      let (reply, fs) := w.serve id fs action
      w.run id fs (next reply)

/-- A plan that is followed alone comes to these files with the rest of it to be followed. -/
inductive Visits {α : Type} (w : World) (id : String) (fs : FileSystem) (p : Plan α) :
    FileSystem → Plan α → Prop where
  | start : Visits w id fs p fs p
  | step {f : FileSystem} {action : Action} {next : action.Reply → Plan α}
      (h : Visits w id fs p f (.ask action next)) :
      Visits w id fs p (w.serve id f action).2 (next (w.serve id f action).1)

end World

variable {w : World} {l m : Location} {f g fs fs' base : FileSystem} {root id path : String}

theorem run_ask {α : Type} {action : Action} {next : action.Reply → Plan α} :
    w.run id fs (.ask action next) =
      w.run id (w.serve id fs action).2 (next (w.serve id fs action).1) := rfl

theorem run_of_serve {α : Type} {action : Action} {next : action.Reply → Plan α}
    {reply : action.Reply} (h : w.serve id fs action = (reply, fs')) :
    w.run id fs (.ask action next) = w.run id fs' (next reply) := by
  rw [run_ask, h]

/-- What a plan returns is what the rest of it returns. -/
theorem World.Visits.run_eq {α : Type} {p q : Plan α} (h : w.Visits id fs p f q) :
    w.run id fs p = w.run id f q := by
  induction h with
  | start => rfl
  | step _ ih => exact ih

theorem World.Visits.of_serve {α : Type} {p : Plan α} {action : Action}
    {next : action.Reply → Plan α} {reply : action.Reply}
    (h : w.Visits id fs p f (.ask action next)) (hs : w.serve id f action = (reply, fs')) :
    w.Visits id fs p fs' (next reply) := by
  have hstep := h.step
  rwa [hs] at hstep

/-- Wherever a plan comes to, it keeps what it keeps. -/
theorem World.Visits.exists_keeps {α σ : Type} {after : σ → (action : Action) → action.Reply → σ}
    {inv : σ → Prop} {post : α → σ → Prop} {st : σ} {p q : Plan α} (h : w.Visits id fs p f q)
    (hp : p.Keeps after inv post st) : ∃ st', q.Keeps after inv post st' := by
  induction h with
  | start => exact ⟨st, hp⟩
  | step _ ih =>
      obtain ⟨st', hst⟩ := ih
      exact ⟨_, hst.2 _⟩

theorem serve_createTree :
    w.serve id fs (.createTree path) = fs.guarded path (fs.createTree w.here path 0o755) := rfl

theorem serve_createTree_eq {result : Except HostError Unit × FileSystem}
    (hnul : hasNul path = false) (h : fs.createTree w.here path 0o755 = result) :
    w.serve id fs (.createTree path) = result := by
  rw [serve_createTree, guarded, if_neg (by simp [hnul]), h]

theorem serve_locate_eq {program : String} {found : Option String}
    (h : w.lookUp fs program = found) : w.serve id fs (.locate program) = (found, fs) :=
  congrArg (·, fs) h

theorem serve_createPrivate :
    w.serve id fs (.createPrivate path) =
      fs.guarded path (fs.settle (fs.makeDirectory w.here path 0o700)) := rfl

/-! ## Programs -/

/-- The program is there where it is looked for first. -/
def World.FindsFirst (w : World) (fs : FileSystem) (program : String) : Prop :=
  ∃ path, (candidates w.here w.searchPath program).head? = some path ∧
    fs.isExecutable w.here path = true

/-- Then it is found there in all files that have these. -/
theorem World.FindsFirst.lookUp_eq {program : String} (h : w.FindsFirst fs program)
    (hf : Within fs f) (hg : Within fs g) : w.lookUp g program = w.lookUp f program := by
  obtain ⟨path, hfirst, hfound⟩ := h
  rw [lookUp, lookUp, locateProgram_of_first hfirst hfound hf,
    locateProgram_of_first hfirst hfound hg]

/-! ## The machine -/

/-- What the machine does for a plan, but for watching children, is what is done in a world with its
    directory and its search path: the reply is the same, and so are the files after it. -/
theorem perform_eq_serve {m : State} (hhere : w.here = m.directory)
    (hsearch : w.searchPath = m.searchPath) (software : Software) (owner : Nat) {action : Action}
    (haction : ∀ launch limit, action ≠ .watch launch limit) :
    let served := w.serve (State.identifier (m.drawn + 1)) m.files action
    ∃ m', State.perform software owner action m = (some served.1, m') ∧ m'.files = served.2 := by
  obtain ⟨here, searchPath, child⟩ := w
  subst hhere hsearch
  cases action with
  | watch launch limit => exact absurd rfl (haction launch limit)
  | _ => exact ⟨_, rfl, rfl⟩

/-- Why no child is started in files. -/
inductive Refuses (fs : FileSystem) (here : Location) (launch : Launch) : HostError → Prop where
  | nul (h : holdsNul launch = true) : Refuses fs here launch .nulInArgument
  | lost {e : HostError} (hnul : holdsNul launch = false)
      (h : fs.find here launch.directory true = .error e) : Refuses fs here launch e
  | elsewhere {l : Location} {n : Node} (hnul : holdsNul launch = false)
      (h : fs.find here launch.directory true = .ok (l, n)) (hn : n.entry ≠ .directory) :
      Refuses fs here launch .notADirectory

/-- A child that is not started in a world is not started by the machine either, and for the same
    reason. -/
theorem watch_of_refuses {m : State} (hhere : w.here = m.directory) {software : Software}
    {owner : Nat} (hidle : (m.watches.find? fun v => v.owner == owner) = none) {launch : Launch}
    {limit : Duration} {e : HostError} (h : Refuses m.files m.directory launch e) :
    w.watch m.files launch limit = (.error e, m.files) ∧
      m.performWatch software owner launch limit = (some (.error e), m) := by
  have hperform (hspawn : m.spawn software owner launch limit = .error e) :
      m.performWatch software owner launch limit = (some (.error e), m) := by
    simp only [State.performWatch, hidle, hspawn]
  rw [World.watch, hhere]
  cases h with
  | nul hnul => exact ⟨if_pos hnul, hperform (if_pos hnul)⟩
  | lost hnul hfind =>
      refine ⟨?_, hperform ?_⟩
      · simp only [hnul, hfind, Bool.false_eq_true, if_false]
      · simp only [State.spawn, hnul, hfind, Bool.false_eq_true, if_false]
  | @elsewhere l n hnul hfind hn =>
      obtain ⟨entry, mode⟩ := n
      cases entry with
      | directory => exact absurd rfl hn
      | _ =>
          refine ⟨?_, hperform ?_⟩
          · simp only [hnul, hfind, Bool.false_eq_true, if_false]
          · simp only [State.spawn, hnul, hfind, Bool.false_eq_true, if_false]

/-! ## Replanting -/

theorem node?_replant_some (fs : FileSystem) (l m : Location) (r : Remains) :
    (fs.replant l (some r)).node? m =
      (List.lookup m ((l, ⟨.directory, r.mode⟩) ::
        r.nodes.map fun entry => (l ++ entry.1, entry.2))).or ((fs.cut l).node? m) :=
  List.lookup_append

theorem spares_cut (fs : FileSystem) (l : Location) : Spares fs l (fs.cut l) where
  outside m hm := by rw [node?_cut, if_neg hm]
  closed := rfl
  left := .inr fun m hm => by rw [node?_cut, if_pos hm]

/-- What a child leaves is in its directory. -/
theorem spares_replant (fs : FileSystem) (l : Location) (r : Option Remains) :
    Spares fs l (fs.replant l r) := by
  cases r with
  | none => exact spares_cut fs l
  | some r =>
      refine ⟨fun m hm => ?_, rfl, .inl (directoryFault_eq_none_iff.2 ⟨r.mode, ?_⟩)⟩
      · rw [node?_replant_some, List.lookup_eq_none_iff.2, Option.none_or, node?_cut, if_neg hm]
        intro entry hentry
        rw [bne_iff_ne]
        rintro rfl
        rcases List.mem_cons.1 hentry with rfl | hentry
        · exact hm (List.prefix_refl _)
        · obtain ⟨entry, -, rfl⟩ := List.mem_map.1 hentry
          exact hm (List.prefix_append _ _)
      · rw [node?_replant_some, List.lookup_cons_self, Option.some_or]

/-- What a child leaves does not depend on what was there. -/
theorem node?_replant_of_prefix (r : Option Remains) (hm : l <+: m) :
    (g.replant l r).node? m = (f.replant l r).node? m := by
  cases r with
  | none => rw [replant, replant, node?_cut, node?_cut, if_pos hm, if_pos hm]
  | some r =>
      rw [node?_replant_some, node?_replant_some, node?_cut, node?_cut, if_pos hm, if_pos hm]

/-! ## Looking up one name -/

variable {front : List String} {name : String} {links : Nat} {directory : Location}
  {follow : Bool} {mode : Nat}

/-- Where one name leads, if it is not that of a link that is followed. -/
theorem walk_single (hfollow : follow = true → fs.linkAt? (l ++ [name]) = none) :
    fs.walk follow links l [name] =
      match fs.directoryFault l with
      | some e => .error e
      | none =>
          if maxNameSize < name.utf8ByteSize then .error .nameTooLong
          else if name = "." then .ok l
          else if name = ".." then .ok l.dropLast
          else .ok (l ++ [name]) := by
  rw [walk]
  cases fs.directoryFault l with
  | some e => rfl
  | none =>
      simp only [walk_nil]
      cases follow with
      | false => cases fs.linkAt? (l ++ [name]) <;> simp
      | true => simp only [hfollow rfl]

/-- A name is looked up alike where the same directory is, and the same link, if any. -/
theorem locateNew_congr (hnames : Path.names path = front ++ [name])
    (hf : Leads f maxLinks (origin w.here path) front links directory)
    (hg : Leads g maxLinks (origin w.here path) front links directory)
    (hdir : g.directoryFault directory = f.directoryFault directory)
    (hlink : g.linkAt? (directory ++ [name]) = f.linkAt? (directory ++ [name]))
    (hfollow : follow = true → f.linkAt? (directory ++ [name]) = none) :
    g.locateNew w.here path follow = f.locateNew w.here path follow := by
  have hne : [name] ≠ [] := by simp
  have hwalk : g.walk follow maxLinks (origin w.here path) (Path.names path) =
      f.walk follow maxLinks (origin w.here path) (Path.names path) := by
    rw [hnames, hf.walk_append (.inl hne), hg.walk_append (.inl hne), walk_single hfollow,
      walk_single fun h => hlink.trans (hfollow h), hdir]
  unfold locateNew
  rw [← origin, hwalk]

/-- A name that is no dots is looked up one name below. -/
theorem eq_of_locateNew (hnames : Path.names path = front ++ [name]) (hdot : name ≠ ".")
    (hup : name ≠ "..") (hf : Leads f maxLinks (origin w.here path) front links directory)
    (hfollow : follow = true → f.linkAt? (directory ++ [name]) = none)
    (hl : f.locateNew w.here path follow = .ok l) : l = directory ++ [name] := by
  obtain ⟨-, -, hwalk⟩ := locateNew_eq_ok_iff.1 hl
  rw [hnames, hf.walk_append (.inl (by simp))] at hwalk
  have hdir := directoryFault_of_walk hwalk
  have hstep := ((step_of_walk hwalk).resolve_left hdot).resolve_left hup
  cases follow with
  | false =>
      rw [walk_last hdir hstep] at hwalk
      exact (Except.ok.inj hwalk).symm
  | true =>
      rw [walk_down hdir hstep (hfollow rfl), walk_nil] at hwalk
      exact (Except.ok.inj hwalk).symm

theorem obstacle_congr (hdir : g.directoryFault l.dropLast = f.directoryFault l.dropLast)
    (hclosed : g.closed = f.closed) : g.obstacle l = f.obstacle l := by
  unfold obstacle
  rw [hdir, hclosed]

/-- A directory can be made in both files or in neither. -/
theorem makeDirectory_congr (hnames : Path.names path = front ++ [name]) (hdot : name ≠ ".")
    (hup : name ≠ "..") (hf : Leads f maxLinks (origin w.here path) front links directory)
    (hg : Leads g maxLinks (origin w.here path) front links directory)
    (hdir : g.directoryFault directory = f.directoryFault directory)
    (hnode : g.node? (directory ++ [name]) = f.node? (directory ++ [name]))
    (hclosed : g.closed = f.closed) :
    (∃ e, f.makeDirectory w.here path mode = .error e ∧
        g.makeDirectory w.here path mode = .error e) ∨
      f.makeDirectory w.here path mode = .ok (f.put (directory ++ [name]) ⟨.directory, mode⟩) ∧
        g.makeDirectory w.here path mode =
          .ok (g.put (directory ++ [name]) ⟨.directory, mode⟩) := by
  have hlocate : g.locateNew w.here path false = f.locateNew w.here path false :=
    locateNew_congr hnames hf hg hdir (linkAt?_congr hnode) (by simp)
  unfold makeDirectory make
  rw [hlocate]
  cases hl : f.locateNew w.here path false with
  | error e => exact .inl ⟨e, rfl, rfl⟩
  | ok l =>
      obtain rfl := eq_of_locateNew hnames hdot hup hf (by simp) hl
      have hobstacle : g.obstacle (directory ++ [name]) = f.obstacle (directory ++ [name]) :=
        obstacle_congr (by rw [List.dropLast_concat, hdir]) hclosed
      simp only [hnode, hobstacle]
      cases f.node? (directory ++ [name]) with
      | some n => exact .inl ⟨_, rfl, rfl⟩
      | none =>
          cases f.obstacle (directory ++ [name]) with
          | some e => exact .inl ⟨e, rfl, rfl⟩
          | none => exact .inr ⟨rfl, rfl⟩

/-! ## Files that look the same in a workspace -/

/-- The workspace of a path looks the same in the files of one and in those of all. The files of one
    are those before it was made, but for what is in it. -/
structure Mirrors (here : Location) (path : String) (l : Location) (base f g : FileSystem) :
    Prop where
  placed : Placed base here path l
  free : ∀ m, l <+: m → base.node? m = none
  own : Spares base l f
  same : ∀ m, l <+: m → g.node? m = f.node? m

/-- The replies are the same, and the workspace looks the same after them. In the files of all
    nothing else has changed. -/
structure Agree {ρ : Type} (here : Location) (path : String) (l : Location)
    (base g : FileSystem) (x y : ρ × FileSystem) : Prop where
  reply : y.1 = x.1
  mirrors : Mirrors here path l base x.2 y.2
  spares : Spares g l y.2

namespace Mirrors

variable {here : Location}

theorem left (h : Mirrors here path l base f g) :
    g.directoryFault l = none ∨ ∀ m, l <+: m → g.node? m = none := by
  rcases h.own.left with hdir | hgone
  · exact .inl (by rw [directoryFault_congr (h.same l (List.prefix_refl l)), hdir])
  · exact .inr fun m hm => (h.same m hm).trans (hgone m hm)

/-- What happens elsewhere does not matter. -/
theorem congr {g' : FileSystem} (h : Mirrors here path l base f g)
    (hg : ∀ m, l <+: m → g'.node? m = g.node? m) : Mirrors here path l base f g' :=
  { h with same := fun m hm => (hg m hm).trans (h.same m hm) }

theorem placed_own (h : Mirrors here path l base f g) : Placed f here path l :=
  h.placed.mono (h.own.within h.free)

theorem linkAt?_own (h : Mirrors here path l base f g) : f.linkAt? l = none :=
  h.own.linkAt?_eq_none

theorem linkAt?_all (h : Mirrors here path l base f g) : g.linkAt? l = none :=
  (linkAt?_congr (h.same l (List.prefix_refl l))).trans h.linkAt?_own

/-- Nothing happens. -/
theorem agree {ρ : Type} (h : Mirrors here path l base f g) (reply : ρ) :
    Agree here path l base g (reply, f) (reply, g) :=
  ⟨rfl, h, fun _ _ => rfl, rfl, h.left⟩

/-- A child that is started in the workspace. -/
theorem watch (h : Mirrors w.here path l base f g) (hw : Within base g) {launch : Launch}
    (hlaunch : launch.directory = path) (limit : Duration) :
    Agree w.here path l base g (w.watch f launch limit) (w.watch g launch limit) := by
  have hf := h.placed_own.locate_follow_eq h.linkAt?_own
  have hg := (h.placed.mono hw).locate_follow_eq h.linkAt?_all
  have hsame := h.same l (List.prefix_refl l)
  have hbelow : g.below l = f.below l := funext fun way => h.same _ (List.prefix_append l way)
  unfold World.watch
  split
  · exact h.agree _
  · rw [hlaunch, find, find, hf, hg]
    simp only [hsame]
    rcases f.node? l with _ | ⟨_ | _ | _ | _ | _, mode⟩
    case some.directory =>
      simp only [hbelow]
      exact ⟨rfl, ⟨h.placed, h.free, h.own.trans (spares_replant f l _),
        fun m hm => node?_replant_of_prefix _ hm⟩, spares_replant g l _⟩
    all_goals exact h.agree _

/-- Nothing is written, for the same reason. -/
theorem agree_guarded (h : Mirrors here path l base f g) {file : String}
    {x y : Except HostError Unit × FileSystem} (ha : Agree here path l base g x y) :
    Agree here path l base g (f.guarded file x) (g.guarded file y) := by
  unfold guarded
  split
  · exact h.agree _
  · exact ha

/-- A file is written that was not there. -/
theorem write (h : Mirrors w.here path l base f g) (hw : Within base g)
    (hclosed : g.closed = base.closed) (hdir : f.directoryFault l = none) {file : String}
    (hfile : Path.IsSingle file ∧ file ≠ "." ∧ file ≠ "..") (hn : f.node? (l ++ [file]) = none)
    (id contents : String) :
    Agree w.here path l base g (w.serve id f (.write (Path.join path file) contents))
      (w.serve id g (.write (Path.join path file) contents)) := by
  obtain ⟨hsingle, hdot, hup⟩ := hfile
  have hbelow := List.prefix_append l [file]
  have hdirg : g.directoryFault l = none := by
    rw [directoryFault_congr (h.same l (List.prefix_refl l)), hdir]
  have hng : g.node? (l ++ [file]) = none := (h.same _ hbelow).trans hn
  have hlink : f.linkAt? (l ++ [file]) = none := linkAt?_eq_none_of_node?_eq_none hn
  have hlinkg : g.linkAt? (l ++ [file]) = none := linkAt?_eq_none_of_node?_eq_none hng
  obtain ⟨links, hleads⟩ := h.placed.leadsTo
    (linkAt?_eq_none_of_node?_eq_none (h.free l (List.prefix_refl l)))
  rw [← origin_congr (Path.isAbsolute_join hsingle)] at hleads
  have hf := hleads.mono (h.own.within h.free) h.linkAt?_own
  have hg := hleads.mono hw h.linkAt?_all
  have hnames : Path.names (Path.join path file) = Path.names path ++ [file] :=
    Path.names_join hsingle
  -- the path leads to the same place in both, and no link is followed, since the file is new
  have hlocate : g.locateNew w.here (Path.join path file) true =
      f.locateNew w.here (Path.join path file) true :=
    locateNew_congr hnames hf hg (hdirg.trans hdir.symm) (hlinkg.trans hlink.symm) fun _ => hlink
  refine h.agree_guarded ?_
  cases hl : f.locateNew w.here (Path.join path file) true with
  | error e =>
      rw [hl] at hlocate
      simp only [FileSystem.write, openFile, hl, hlocate]
      exact h.agree _
  | ok k =>
      rw [hl] at hlocate
      obtain rfl := eq_of_locateNew hnames hdot hup hf (fun _ => hlink) hl
      have hobstacle : g.obstacle (l ++ [file]) = f.obstacle (l ++ [file]) :=
        obstacle_congr (by rw [List.dropLast_concat, hdirg, hdir])
          (hclosed.trans h.own.closed.symm)
      rw [write_of_absent hl hn (Path.endsInSlash_join hsingle),
        write_of_absent hlocate hng (Path.endsInSlash_join hsingle), hobstacle]
      cases f.obstacle (l ++ [file]) with
      | some e => exact h.agree _
      | none =>
          have hne : l ++ [file] ≠ l := by simp
          refine ⟨rfl, ⟨h.placed, h.free, h.own.trans (spares_put_twice hdir hbelow hne),
            fun m hm => ?_⟩, spares_put_twice hdirg hbelow hne⟩
          simp only [settle, node?_put]
          split
          · rfl
          · exact h.same m hm

/-- The workspace is removed. -/
theorem remove (h : Mirrors here path l base f g) (hw : Within base g) :
    Spares g l (g.without here path) := by
  have hlocate := (h.placed.mono hw).locate_eq
  rcases h.left with hdir | hgone
  · rw [without_of_directory hlocate hdir]
    exact spares_cut g l
  · rw [without_of_absent hlocate (hgone l (List.prefix_refl l))]
    exact ⟨fun _ _ => rfl, rfl, h.left⟩

end Mirrors

/-- A workspace is made in both files, where nothing was, or in neither, for the same reason. -/
theorem cases_of_serve_createPrivate (hbase : base.IsTree) (hid : '/' ∉ id.toList)
    {top : Location} (hf : Leads base maxLinks (origin w.here root) (Path.names root) links top)
    (hg : Leads g maxLinks (origin w.here root) (Path.names root) links top)
    (hdir : g.directoryFault top = base.directoryFault top) (hclosed : g.closed = base.closed)
    (hsame : ∀ m, top ++ [Workspace.nameOf id] <+: m → g.node? m = base.node? m) :
    (∃ e, w.serve id base (.createPrivate (pathOf root id)) = (.error e, base) ∧
        w.serve id g (.createPrivate (pathOf root id)) = (.error e, g)) ∨
      ∃ f' g', w.serve id base (.createPrivate (pathOf root id)) = (.ok (), f') ∧
        w.serve id g (.createPrivate (pathOf root id)) = (.ok (), g') ∧
        IsEmptyDirectory f' (top ++ [Workspace.nameOf id]) ∧
        Mirrors w.here (pathOf root id) (top ++ [Workspace.nameOf id]) base f' g' ∧
        Spares g (top ++ [Workspace.nameOf id]) g' := by
  rw [serve_createPrivate, serve_createPrivate, guarded, guarded]
  by_cases hnul : hasNul (pathOf root id) = true
  · exact .inl ⟨.nulInPath, if_pos hnul, if_pos hnul⟩
  · rw [if_neg hnul, if_neg hnul]
    rw [← origin_congr (Workspace.isAbsolute_pathOf hid)] at hf hg
    rcases makeDirectory_congr (Workspace.names_pathOf hid) (Workspace.nameOf_ne id).1
      (Workspace.nameOf_ne id).2 hf hg hdir (hsame _ (List.prefix_refl _)) hclosed with
      ⟨e, hfe, hge⟩ | ⟨hfo, hgo⟩
    · exact .inl ⟨e, by rw [hfe]; rfl, by rw [hge]; rfl⟩
    · obtain ⟨l, hplaced, hn, -, -⟩ := Workspace.placed_of_makeDirectory hid hfo
      obtain rfl := eq_of_locateNew (Workspace.names_pathOf hid) (Workspace.nameOf_ne id).1
        (Workspace.nameOf_ne id).2 hf (by simp) hplaced.locateNew_eq
      refine .inr ⟨_, _, by rw [hfo]; rfl, by rw [hgo]; rfl, isEmptyDirectory_put hbase hn,
        ⟨hplaced, fun m => hbase.node?_eq_none_of_prefix hn, spares_put _ _ _, fun m hm => ?_⟩,
        spares_put _ _ _⟩
      rw [node?_put, node?_put, hsame m hm]

end Playground.Machine
