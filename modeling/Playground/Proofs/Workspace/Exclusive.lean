import Playground.Proofs.Machine.Serving
import Playground.Proofs.Workspace.Location

set_option autoImplicit false

/-! # Workspaces belong to one owner

Any number of owners make workspaces under any roots, write files into them and remove them, one
action at a time and in any order, and the identifiers are whatever was drawn. A `Desk` is what
there is at one moment: the files, the workspaces that are being made and those that are held. A
workspace is new and empty when it is made, no two that are held have anything in common, what is
done through one of them changes nothing that was there before it or is in another one, and an
identifier that has been drawn before makes nothing (`Desk.Exclusive`).

No operation makes or removes a link outside a workspace, and none is made inside. So a path never
leads to a second location (`Placed.unique`), and a workspace stays where it was made. -/

namespace Playground.Workspace

open Machine FileSystem
open Plan (Event Runs)

/-! ## Desks and their moves -/

/-- A workspace that is held, where it is, and what the files were just before it was made. -/
structure Holding where
  workspace : Workspace
  place : Location
  before : FileSystem

structure Desk where
  files : FileSystem
  /-- The workspaces that are being made, as far as they have come. -/
  making : List (Plan (Except Failure Workspace))
  held : List Holding

/-- What one of all the owners does next. -/
inductive Desk.Moves (here : Location) : Desk → Desk → Prop where
  | begin (d : Desk) (root : String) : Moves here d { d with making := create root :: d.making }
  | goOn {d : Desk} {front back : List (Plan (Except Failure Workspace))} {action : Action}
      {next : action.Reply → Plan (Except Failure Workspace)} {reply : action.Reply}
      {fs : FileSystem} (h : d.making = front ++ .ask action next :: back)
      (served : Serves here action reply d.files fs) (hnext : ∀ w, next reply ≠ .done (.ok w)) :
      Moves here d ⟨fs, front ++ next reply :: back, d.held⟩
  /-- A workspace has been made, in a directory that is not itself in a workspace. -/
  | made {d : Desk} {front back : List (Plan (Except Failure Workspace))} {action : Action}
      {next : action.Reply → Plan (Except Failure Workspace)} {reply : action.Reply}
      {fs : FileSystem} {w : Workspace} {l : Location}
      (h : d.making = front ++ .ask action next :: back)
      (served : Serves here action reply d.files fs) (hnext : next reply = .done (.ok w))
      (hl : d.files.locateNew here w.path false = .ok l)
      (houtside : ∀ h ∈ d.held, ¬h.place <+: l.dropLast) :
      Moves here d ⟨fs, front ++ back, ⟨w, l, d.files⟩ :: d.held⟩
  | write {d : Desk} {h : Holding} {file contents : String} {event : Event}
      {result : Except Failure String} {fs : FileSystem} (hh : h ∈ d.held)
      (hfile : Path.IsSingle file) (hdot : file ≠ ".") (hup : file ≠ "..")
      (hr : Runs (h.workspace.write file contents) [event] result)
      (served : Serves here event.action event.reply d.files fs) :
      Moves here d { d with files := fs }
  | drop {d : Desk} {h : Holding} {front back : List Holding} {event : Event} {fs : FileSystem}
      (hh : d.held = front ++ h :: back) (hr : Runs h.workspace.remove [event] ())
      (served : Serves here event.action event.reply d.files fs) :
      Moves here d ⟨fs, d.making, front ++ back⟩

/-- What is there is untouched where it was there before a workspace was made, and in all other
    workspaces that are held. -/
def Desk.LeavesOthers (d : Desk) (h : Holding) (fs : FileSystem) : Prop :=
  ∀ m, (h.before.node? m ≠ none ∨ ∃ h' ∈ d.held, h'.place ≠ h.place ∧ h'.place <+: m) →
    fs.node? m = d.files.node? m

/-- What is promised of a desk. -/
structure Desk.Exclusive (here : Location) (start : FileSystem) (d : Desk) : Prop where
  /-- All that was there at first is still there as it was. -/
  kept : Within start d.files
  /-- A workspace that is made was not there, and is empty. -/
  fresh : ∀ front action next back reply fs w, d.making = front ++ .ask action next :: back →
    Serves here action reply d.files fs → next reply = .done (.ok w) →
      ∃ l, Placed d.files here w.path l ∧ d.files.node? l = none ∧ Placed fs here w.path l ∧
        IsEmptyDirectory fs l
  /-- The workspaces that are held are there, and none was there before it was made. -/
  there : ∀ h ∈ d.held, d.files.directoryFault h.place = none ∧
    Placed h.before here h.workspace.path h.place ∧ h.before.node? h.place = none
  /-- No two workspaces that are held have a path or a place in common. -/
  apart : d.held.Pairwise fun h h' =>
    h.workspace.path ≠ h'.workspace.path ∧ ¬h.place <+: h'.place ∧ ¬h'.place <+: h.place
  /-- What is written through a workspace. -/
  write : ∀ h ∈ d.held, ∀ file contents event result fs, Path.IsSingle file → file ≠ "." →
    file ≠ ".." → Runs (h.workspace.write file contents) [event] result →
      Serves here event.action event.reply d.files fs → d.LeavesOthers h fs
  /-- What is removed with a workspace. -/
  drop : ∀ h ∈ d.held, ∀ event fs, Runs h.workspace.remove [event] () →
    Serves here event.action event.reply d.files fs → d.LeavesOthers h fs
  /-- Where something is already, no workspace is made, and nothing changes. -/
  collision : ∀ front path next back n,
    d.making = front ++ .ask (.createPrivate path) next :: back →
    d.files.find here path false = .ok n → ∀ reply fs,
      Serves here (.createPrivate path) reply d.files fs →
        fs = d.files ∧ ∃ reason, next reply = .done (.error (.workspace reason))

/-! ## Making a workspace, action by action -/

/-- What is done when it is known whether the directory could be made. -/
def afterDirectory (root id : String) :
    (Action.createPrivate (pathOf root id)).Reply → Plan (Except Failure Workspace)
  | .error e => .done (.error (directoryFailure e))
  | .ok () => .done (.ok ⟨pathOf root id, id⟩)

/-- What is done when it is known whether the root is there. -/
def afterRoot (root id : String) :
    (Action.createTree root).Reply → Plan (Except Failure Workspace)
  | .error e => .done (.error (rootFailure root e))
  | .ok () => .ask (.createPrivate (pathOf root id)) (afterDirectory root id)

theorem create_eq (root : String) :
    create root = .ask .drawId fun id => .ask (.createTree root) (afterRoot root id) := by
  refine congrArg (Plan.ask Action.drawId) (funext fun id => ?_)
  refine congrArg (Plan.ask (Action.createTree root)) (funext fun reply => ?_)
  cases reply with
  | error e => rfl
  | ok =>
      refine congrArg (Plan.ask (Action.createPrivate (pathOf root id))) (funext fun reply => ?_)
      cases reply <;> rfl

/-- How far the making of a workspace has come. -/
inductive IsMaking : Plan (Except Failure Workspace) → Prop where
  | begun (root : String) : IsMaking (create root)
  | drawn (root : String) {id : String} (hid : '/' ∉ id.toList) :
      IsMaking (.ask (.createTree root) (afterRoot root id))
  | rooted (root : String) {id : String} (hid : '/' ∉ id.toList) :
      IsMaking (.ask (.createPrivate (pathOf root id)) (afterDirectory root id))
  | failed (f : Failure) : IsMaking (.done (.error f))

variable {here l : Location} {root id : String} {fs fs' : FileSystem} {d d' : Desk}
  {start : FileSystem}

/-- The next action of a making leaves all that is there alone, and goes on, or makes the
    workspace. -/
theorem IsMaking.step {action : Action} {next : action.Reply → Plan (Except Failure Workspace)}
    {reply : action.Reply} (h : IsMaking (.ask action next))
    (hs : Serves here action reply fs fs') :
    (Grows fs fs' ∧ IsMaking (next reply)) ∨
      ∃ root id l, '/' ∉ id.toList ∧ next reply = .done (.ok ⟨pathOf root id, id⟩) ∧
        Placed fs here (pathOf root id) l ∧ fs.node? l = none ∧
          fs' = fs.put l ⟨.directory, 0o700⟩ := by
  generalize hp : Plan.ask action next = p at h
  cases h with
  | begun root =>
      rw [create_eq] at hp
      cases hp
      obtain ⟨hid, rfl⟩ := cases_of_drawId hs
      exact .inl ⟨.refl _, .drawn root hid⟩
  | drawn root hid =>
      cases hp
      obtain ⟨paths, -, rfl⟩ := exists_of_createTree hs
      refine .inl ⟨(makes_makeTree fs here 0o755 paths).grows, ?_⟩
      cases reply with
      | error e => exact .failed _
      | ok => exact .rooted root hid
  | rooted root hid =>
      cases hp
      rcases cases_of_createPrivate hs with ⟨rfl, hmake⟩ | ⟨e, rfl, rfl⟩
      · obtain ⟨l, hplaced, hn, -, rfl⟩ := placed_of_makeDirectory hid hmake
        exact .inr ⟨root, _, l, hid, rfl, hplaced, hn, rfl⟩
      · exact .inl ⟨.refl _, .failed _⟩
  | failed f => cases hp

theorem IsMaking.ne_ok {w : Workspace} : ¬IsMaking (.done (.ok w)) := by
  intro h
  generalize hp : Plan.done (Except.ok w) = p at h
  cases h with
  | begun root =>
      rw [create_eq] at hp
      cases hp
  | drawn => cases hp
  | rooted => cases hp
  | failed => cases hp

/-- A workspace is made by making its directory, where nothing was. -/
theorem IsMaking.made {action : Action} {next : action.Reply → Plan (Except Failure Workspace)}
    {reply : action.Reply} {w : Workspace} (h : IsMaking (.ask action next))
    (hs : Serves here action reply fs fs') (hw : next reply = .done (.ok w)) :
    ∃ root id l, '/' ∉ id.toList ∧ w = ⟨pathOf root id, id⟩ ∧
      Placed fs here (pathOf root id) l ∧ fs.node? l = none ∧
        fs' = fs.put l ⟨.directory, 0o700⟩ := by
  rcases h.step hs with ⟨-, hrest⟩ | ⟨root, id, l, hid, hok, hmade⟩
  · rw [hw] at hrest
    exact absurd hrest ne_ok
  · rw [hw] at hok
    cases hok
    exact ⟨root, id, l, hid, rfl, hmade⟩

/-- A directory is asked for only when the root is there. -/
theorem IsMaking.of_createPrivate {path : String}
    {next : (Action.createPrivate path).Reply → Plan (Except Failure Workspace)}
    (h : IsMaking (.ask (.createPrivate path) next)) :
    ∃ root id, '/' ∉ id.toList ∧ path = pathOf root id ∧ next = afterDirectory root id := by
  generalize hp : Plan.ask (.createPrivate path) next = p at h
  cases h with
  | begun root =>
      rw [create_eq] at hp
      cases hp
  | drawn => cases hp
  | rooted root hid =>
      cases hp
      exact ⟨root, _, hid, rfl, rfl⟩
  | failed => cases hp

/-! ## What every move keeps -/

/-- Where a workspace that is held has been made, and that it is there. -/
structure Holding.IsKept (here : Location) (start fs : FileSystem) (h : Holding) : Prop where
  named : ∃ root id, '/' ∉ id.toList ∧ h.workspace.path = pathOf root id
  placed : Placed h.before here h.workspace.path h.place
  free : h.before.node? h.place = none
  tree : h.before.IsTree
  sameLinks : ∀ m, h.before.linkAt? m = start.linkAt? m
  kept : Within start h.before
  there : fs.directoryFault h.place = none

/-- Neither workspace is in the other one. -/
def Holding.IsApart (h h' : Holding) : Prop := ¬h.place <+: h'.place ∧ ¬h'.place <+: h.place

instance : Std.Symm Holding.IsApart := ⟨fun _ _ h => ⟨h.2, h.1⟩⟩

/-- What every move keeps: the links are always the same ones, and the places are apart. -/
structure Desk.IsSound (here : Location) (start : FileSystem) (d : Desk) : Prop where
  tree : d.files.IsTree
  sameLinks : ∀ m, d.files.linkAt? m = start.linkAt? m
  kept : Within start d.files
  making : ∀ p ∈ d.making, IsMaking p
  held : ∀ h ∈ d.held, h.IsKept here start d.files
  apart : d.held.Pairwise Holding.IsApart

namespace Holding.IsKept

variable {h : Holding}

theorem free_below (hk : h.IsKept here start fs) {m : Location} (hm : h.place <+: m) :
    h.before.node? m = none :=
  hk.tree.node?_eq_none_of_prefix hk.free hm

/-- There are no links at and below the place of a workspace. -/
theorem links_eq_none (hk : h.IsKept here start fs) {m : Location} (hm : h.place <+: m) :
    start.linkAt? m = none := by
  rw [← hk.sameLinks]
  exact linkAt?_eq_none_of_node?_eq_none (hk.free_below hm)

/-- A workspace stays where directories stay. -/
theorem mono (hk : h.IsKept here start fs) (hdir : fs'.directoryFault h.place = none) :
    h.IsKept here start fs' :=
  { hk with there := hdir }

/-- The path of a workspace leads to the place where it was made, if it leads anywhere. -/
theorem place_eq (hk : h.IsKept here start fs) (hlinks : ∀ m, fs.linkAt? m = start.linkAt? m)
    (hl : fs.locate here h.workspace.path false = .ok l) : l = h.place := by
  obtain ⟨root, id, hid, hpath⟩ := hk.named
  rw [hpath, locate_eq_locateNew (endsInSlash_pathOf hid)] at hl
  have hplaced := hk.placed
  rw [hpath] at hplaced
  exact hplaced.unique (placed_pathOf hid hl) fun m => (hlinks m).trans (hk.sameLinks m).symm

end Holding.IsKept

/-- What is written through a workspace is one file in it, or nothing. -/
theorem Desk.IsSound.written (hd : d.IsSound here start) {h : Holding} (hh : h ∈ d.held)
    {file contents : String} {event : Event} {result : Except Failure String}
    (hfile : Path.IsSingle file) (hdot : file ≠ ".") (hup : file ≠ "..")
    (hr : Runs (h.workspace.write file contents) [event] result)
    (served : Serves here event.action event.reply d.files fs) :
    fs = d.files ∨ Written d.files (h.place ++ [file]) fs := by
  obtain ⟨reply, rest, heq, -⟩ := Runs.of_request_bind hr
  obtain ⟨rfl, -⟩ := List.cons.inj heq
  rcases cases_of_write served with rfl | ⟨m, hm, hw⟩
  · exact .inl rfl
  · have hk := hd.held h hh
    have hbelow := List.prefix_append h.place [file]
    have hfree : h.before.linkAt? h.place = none := linkAt?_eq_none_of_node?_eq_none hk.free
    obtain rfl := hk.placed.locateNew_join hfree
      (fun m => (hd.sameLinks m).trans (hk.sameLinks m).symm) hfile hdot hup
      ((hd.sameLinks _).trans (hk.links_eq_none hbelow)) hm
    exact .inr hw

/-- What is removed with a workspace is all that is at its place, or nothing. -/
theorem Desk.IsSound.dropped (hd : d.IsSound here start) {h : Holding} (hh : h ∈ d.held)
    {event : Event} (hr : Runs h.workspace.remove [event] ())
    (served : Serves here event.action event.reply d.files fs) :
    fs = d.files ∨ fs = d.files.cut h.place := by
  obtain ⟨reply, rest, heq, -⟩ := Runs.of_ask hr
  obtain ⟨rfl, -⟩ := List.cons.inj heq
  rw [eq_of_remove served]
  rcases without_cases d.files here h.workspace.path with heq | ⟨l, hl, heq⟩
  · exact .inl heq
  · obtain rfl := (hd.held h hh).place_eq hd.sameLinks hl
    exact .inr heq

theorem Desk.IsSound.place_eq_of_prefix (hd : d.IsSound here start) {h h' : Holding}
    (hh : h ∈ d.held) (hh' : h' ∈ d.held) (hp : h.place <+: h'.place) : h = h' := by
  by_contra hne
  exact (hd.apart.forall hh hh' hne).1 hp

/-- A file that is written in a workspace leaves all places as they are. -/
theorem Desk.IsSound.there_of_written (hd : d.IsSound here start) {h h' : Holding} (hh : h ∈ d.held)
    (hh' : h' ∈ d.held) {file : String} (hw : Written d.files (h.place ++ [file]) fs) :
    fs.directoryFault h'.place = none := by
  rw [directoryFault_congr (hw.node?_of_ne ?_), (hd.held h' hh').there]
  intro he
  obtain rfl := hd.place_eq_of_prefix hh hh' (he ▸ List.prefix_append h.place [file])
  simpa using congrArg List.length he

theorem directoryFault_cut {m : Location} (hm : ¬l <+: m) :
    (fs.cut l).directoryFault m = fs.directoryFault m := by
  refine directoryFault_congr ?_
  rw [node?_cut, if_neg hm]

/-- Cutting off what has no links changes no link. -/
theorem linkAt?_cut (hl : ∀ m, l <+: m → fs.linkAt? m = none) (m : Location) :
    (fs.cut l).linkAt? m = fs.linkAt? m := by
  by_cases hm : l <+: m
  · rw [hl m hm]
    exact linkAt?_eq_none_of_node?_eq_none (by rw [node?_cut, if_pos hm])
  · exact linkAt?_congr (by rw [node?_cut, if_neg hm])

/-! ### Nothing else is touched -/

theorem Desk.IsSound.leavesOthers_of_written (hd : d.IsSound here start) {h : Holding}
    (hh : h ∈ d.held) {file : String} (hw : Written d.files (h.place ++ [file]) fs) :
    d.LeavesOthers h fs := by
  intro m hm
  refine hw.node?_of_ne ?_
  rintro rfl
  have hbelow := List.prefix_append h.place [file]
  rcases hm with hbefore | ⟨k, hk, hne, hp⟩
  · exact hbefore ((hd.held h hh).free_below hbelow)
  · rcases List.prefix_concat_iff.1 hp with heq | hp
    · exact hne (congrArg Holding.place (hd.place_eq_of_prefix hh hk (heq ▸ hbelow))).symm
    · exact hne (congrArg Holding.place (hd.place_eq_of_prefix hk hh hp))

theorem Desk.IsSound.leavesOthers_of_cut (hd : d.IsSound here start) {h : Holding}
    (hh : h ∈ d.held) : d.LeavesOthers h (d.files.cut h.place) := by
  intro m hm
  rw [node?_cut, if_neg]
  -- a node below two places would put one of them into the other
  intro hbelow
  rcases hm with hbefore | ⟨k, hk, hne, hp⟩
  · exact hbefore ((hd.held h hh).free_below hbelow)
  · rcases List.prefix_or_prefix_of_prefix hp hbelow with hp | hp
    · exact hne (congrArg Holding.place (hd.place_eq_of_prefix hk hh hp))
    · exact hne (congrArg Holding.place (hd.place_eq_of_prefix hh hk hp)).symm

/-- What leaves the others alone leaves alone what was there at first. -/
theorem Desk.IsSound.kept_of_leavesOthers (hd : d.IsSound here start) {h : Holding}
    (hh : h ∈ d.held) (hl : d.LeavesOthers h fs) : Within start fs := by
  intro m n hn
  have hbefore := (hd.held h hh).kept m n hn
  rw [hl m (.inl (by simp [hbefore])), hd.kept m n hn]

/-! ### The moves -/

/-- A making goes on. -/
theorem Desk.IsSound.goOn (hd : d.IsSound here start) (hg : Grows d.files fs)
    {making : List (Plan (Except Failure Workspace))} (hmaking : ∀ p ∈ making, IsMaking p) :
    (⟨fs, making, d.held⟩ : Desk).IsSound here start where
  tree := hg.tree hd.tree
  sameLinks m := (hg.linkAt? m).trans (hd.sameLinks m)
  kept := hd.kept.trans hg.within
  making := hmaking
  held k hk := (hd.held k hk).mono (hg.within.directoryFault (hd.held k hk).there)
  apart := hd.apart

/-- A directory that was not there is in no workspace, if its parent is in none, and no workspace is
    in it. -/
theorem Desk.IsSound.isApart (hd : d.IsSound here start) {h k : Holding} (hk : k ∈ d.held)
    (hfree : d.files.node? h.place = none) (houtside : ¬k.place <+: h.place.dropLast) :
    h.IsApart k := by
  -- nothing is below what is not there, and what is above it is its parent or above that
  have hdir := node?_ne_none_of_directoryFault (hd.held k hk).there
  refine ⟨fun hp => hdir (hd.tree.node?_eq_none_of_prefix hfree hp), fun hp => houtside ?_⟩
  obtain ⟨rest, hplace⟩ := hp
  have hrest : rest ≠ [] := by
    rintro rfl
    rw [List.append_nil] at hplace
    exact hdir (hplace ▸ hfree)
  rw [← hplace, List.dropLast_append_of_ne_nil hrest]
  exact List.prefix_append _ _

/-- A workspace has been made. -/
theorem Desk.IsSound.made (hd : d.IsSound here start) (hid : '/' ∉ id.toList)
    (hplaced : Placed d.files here (pathOf root id) l) (hfree : d.files.node? l = none)
    (houtside : ∀ h ∈ d.held, ¬h.place <+: l.dropLast)
    {making : List (Plan (Except Failure Workspace))} (hmaking : ∀ p ∈ making, IsMaking p) :
    (⟨d.files.put l ⟨.directory, 0o700⟩, making,
      ⟨⟨pathOf root id, id⟩, l, d.files⟩ :: d.held⟩ : Desk).IsSound here start := by
  have hgrows : Grows d.files (d.files.put l ⟨.directory, 0o700⟩) :=
    grows_put hfree hplaced.directoryFault_dropLast
  have hgrown := hd.goOn hgrows hmaking
  refine { hgrown with held := fun k hk => ?_, apart := ?_ }
  · rcases List.mem_cons.1 hk with rfl | hk
    · exact ⟨⟨root, id, hid, rfl⟩, hplaced, hfree, hd.tree, hd.sameLinks, hd.kept,
        directoryFault_eq_none_of_node? node?_put_self⟩
    · exact hgrown.held k hk
  · exact List.pairwise_cons.2 ⟨fun k hk => hd.isApart hk hfree (houtside k hk), hd.apart⟩

/-- Something is written through a workspace. -/
theorem Desk.IsSound.write (hd : d.IsSound here start) {h : Holding} (hh : h ∈ d.held)
    {file : String} (hw : Written d.files (h.place ++ [file]) fs) :
    ({ d with files := fs } : Desk).IsSound here start where
  tree := hw.isTree hd.tree
  sameLinks m := (hw.links m).trans (hd.sameLinks m)
  kept := hd.kept_of_leavesOthers hh (hd.leavesOthers_of_written hh hw)
  making := hd.making
  held k hk := (hd.held k hk).mono (hd.there_of_written hh hk hw)
  apart := hd.apart

/-- A workspace is no longer held. -/
theorem Desk.IsSound.release (hd : d.IsSound here start) {h : Holding} {front back : List Holding}
    (hheld : d.held = front ++ h :: back) :
    (∀ k ∈ front ++ back, k ∈ d.held ∧ h.IsApart k) ∧
      ({ d with held := front ++ back } : Desk).IsSound here start := by
  have hsub : ∀ k ∈ front ++ back, k ∈ d.held := by
    intro k hk
    rw [hheld]
    rcases List.mem_append.1 hk with hk | hk <;> simp [hk]
  have hapart : (h :: (front ++ back)).Pairwise Holding.IsApart := by
    rw [← List.pairwise_middle fun h => ⟨h.2, h.1⟩, ← hheld]
    exact hd.apart
  obtain ⟨hothers, hrest⟩ := List.pairwise_cons.1 hapart
  exact ⟨fun k hk => ⟨hsub k hk, hothers k hk⟩,
    { hd with held := fun k hk => hd.held k (hsub k hk), apart := hrest }⟩

/-- A workspace is removed. -/
theorem Desk.IsSound.cut (hd : d.IsSound here start) {h : Holding} {front back : List Holding}
    (hheld : d.held = front ++ h :: back) :
    (⟨d.files.cut h.place, d.making, front ++ back⟩ : Desk).IsSound here start := by
  have hh : h ∈ d.held := by simp [hheld]
  obtain ⟨hothers, hrest⟩ := hd.release hheld
  have hlinks : ∀ m, h.place <+: m → d.files.linkAt? m = none := fun m hm =>
    (hd.sameLinks m).trans ((hd.held h hh).links_eq_none hm)
  refine { hrest with
    tree := hd.tree.cut
    sameLinks := fun m => (linkAt?_cut hlinks m).trans (hd.sameLinks m)
    kept := hd.kept_of_leavesOthers hh (hd.leavesOthers_of_cut hh)
    held := fun k hk => (hrest.held k hk).mono ?_ }
  rw [directoryFault_cut (hothers k hk).2.1]
  exact (hrest.held k hk).there

theorem Desk.IsSound.move (hd : d.IsSound here start) (hm : Desk.Moves here d d') :
    d'.IsSound here start := by
  cases hm with
  | begin root =>
      refine hd.goOn (.refl _) fun p hp => ?_
      rcases List.mem_cons.1 hp with rfl | hp
      · exact .begun root
      · exact hd.making p hp
  | @goOn front back action next reply fs h served hnext =>
      have hmaking : IsMaking (.ask action next) := hd.making _ (by rw [h]; simp)
      rcases hmaking.step served with ⟨hgrows, hrest⟩ | ⟨root, id, l, -, hok, -⟩
      · refine hd.goOn hgrows fun p hp => ?_
        rcases List.mem_append.1 hp with hp | hp
        · exact hd.making p (by rw [h]; simp [hp])
        · rcases List.mem_cons.1 hp with rfl | hp
          · exact hrest
          · exact hd.making p (by rw [h]; simp [hp])
      · exact absurd hok (hnext _)
  | @made front back action next reply fs w l h served hnext hl houtside =>
      have hmaking : IsMaking (.ask action next) := hd.making _ (by rw [h]; simp)
      obtain ⟨root, id, l', hid, rfl, hplaced, hfree, rfl⟩ := hmaking.made served hnext
      obtain rfl : l' = l := Except.ok.inj (hplaced.locateNew_eq.symm.trans hl)
      refine hd.made hid hplaced hfree houtside fun p hp => hd.making p ?_
      rw [h]
      rcases List.mem_append.1 hp with hp | hp <;> simp [hp]
  | @write h file contents event result fs hh hfile hdot hup hr served =>
      rcases hd.written hh hfile hdot hup hr served with rfl | hw
      · exact hd
      · exact hd.write hh hw
  | @drop h front back event fs hheld hr served =>
      rcases hd.dropped (by simp [hheld]) hr served with rfl | rfl
      · exact (hd.release hheld).2
      · exact hd.cut hheld

/-! ## What is promised -/

theorem Desk.IsSound.exclusive (hd : d.IsSound here start) : d.Exclusive here start where
  kept := hd.kept
  fresh front action next back reply fs w h served hnext := by
    have hmaking : IsMaking (.ask action next) := hd.making _ (by rw [h]; simp)
    obtain ⟨root, id, l, hid, rfl, hplaced, hfree, rfl⟩ := hmaking.made served hnext
    have hgrows : Grows d.files (d.files.put l ⟨.directory, 0o700⟩) :=
      grows_put hfree hplaced.directoryFault_dropLast
    exact ⟨l, hplaced, hfree, hplaced.mono hgrows.within, isEmptyDirectory_put hd.tree hfree⟩
  there h hh := ⟨(hd.held h hh).there, (hd.held h hh).placed, (hd.held h hh).free⟩
  apart := by
    refine hd.apart.imp_of_mem fun {h h'} hh hh' hapart => ⟨fun hpath => hapart.1 ?_, hapart⟩
    have hk := hd.held h hh
    have hk' := hd.held h' hh'
    have hplaced := hk'.placed
    rw [← hpath] at hplaced
    rw [hk.placed.unique hplaced fun m => (hk'.sameLinks m).trans (hk.sameLinks m).symm]
  write h hh file contents event result fs hfile hdot hup hr served := by
    rcases hd.written hh hfile hdot hup hr served with rfl | hw
    · exact fun _ _ => rfl
    · exact hd.leavesOthers_of_written hh hw
  drop h hh event fs hr served := by
    rcases hd.dropped hh hr served with rfl | rfl
    · exact fun _ _ => rfl
    · exact hd.leavesOthers_of_cut hh
  collision front path next back n h hfind reply fs served := by
    have hmaking : IsMaking (.ask (.createPrivate path) next) := hd.making _ (by rw [h]; simp)
    obtain ⟨root, id, hid, rfl, rfl⟩ := hmaking.of_createPrivate
    rcases cases_of_createPrivate served with ⟨-, hmake⟩ | ⟨e, rfl, rfl⟩
    · obtain ⟨l, hplaced, hfree, -⟩ := placed_of_makeDirectory hid hmake
      obtain ⟨hl, hn⟩ := find_eq_ok_iff.1 hfind
      obtain rfl := Except.ok.inj (hplaced.locate_eq.symm.trans hl)
      rw [hfree] at hn
      cases hn
    · exact ⟨rfl, _, rfl⟩

/-- However owners make, use and remove workspaces, nobody ever gets at what is another one's or was
    there before. -/
theorem exclusive_of_moves (ht : start.IsTree)
    (hm : Relation.ReflTransGen (Desk.Moves here) ⟨start, [], []⟩ d) : d.Exclusive here start := by
  have hfirst : (⟨start, [], []⟩ : Desk).IsSound here start :=
    ⟨ht, fun _ => rfl, .refl _, fun p hp => absurd hp List.not_mem_nil,
      fun k hk => absurd hk List.not_mem_nil, .nil⟩
  have hd : d.IsSound here start := by
    induction hm with
    | refl => exact hfirst
    | tail _ hmove ih => exact ih.move hmove
  exact hd.exclusive

/-- One workspace is held, and another one is about to be made with the same identifier: it is
    refused. -/
theorem exclusive_of_moves_collision :
    let made := (oneDirectory "tmp").put ["tmp", "polyglot-7"] ⟨.directory, 0o700⟩
    let first : Holding := ⟨⟨pathOf "/tmp" "7", "7"⟩, ["tmp", "polyglot-7"], oneDirectory "tmp"⟩
    let second := Plan.ask (.createPrivate (pathOf "/tmp" "7")) (afterDirectory "/tmp" "7")
    (oneDirectory "tmp").IsTree ∧
      Relation.ReflTransGen (Desk.Moves []) ⟨oneDirectory "tmp", [], []⟩ ⟨made, [second], [first]⟩ ∧
      (⟨made, [second], [first]⟩ : Desk).Exclusive [] (oneDirectory "tmp") ∧
      ∀ reply fs, Serves [] (.createPrivate (pathOf "/tmp" "7")) reply made fs →
        fs = made ∧
          ∃ reason, afterDirectory "/tmp" "7" reply = .done (.error (.workspace reason)) := by
  intro made first second
  have htree : (oneDirectory "tmp").IsTree := by decide
  have hmake : (oneDirectory "tmp").makeDirectory [] (pathOf "/tmp" "7") 0o700 = .ok made :=
    placed_oneDirectory.makeDirectory_eq rfl rfl
  have hmoves : Relation.ReflTransGen (Desk.Moves []) ⟨oneDirectory "tmp", [], []⟩
      ⟨made, [second], [first]⟩ := by
    let new := Plan.ask .drawId fun id => .ask (.createTree "/tmp") (afterRoot "/tmp" id)
    let drawn := Plan.ask (.createTree "/tmp") (afterRoot "/tmp" "7")
    have hnew : create "/tmp" = new := create_eq "/tmp"
    have hdrew : Serves [] .drawId "7" (oneDirectory "tmp") (oneDirectory "tmp") :=
      .drew "7" _ (by decide)
    have hrooted := serves_createTree (by decide) createTree_oneDirectory
    have hserved := serves_createPrivate (by decide) hmake
    have hbegin (making : List (Plan (Except Failure Workspace))) :
        Desk.Moves [] ⟨oneDirectory "tmp", making, []⟩
          ⟨oneDirectory "tmp", new :: making, []⟩ := hnew ▸ .begin _ "/tmp"
    have hdraw (front back : List (Plan (Except Failure Workspace))) :
        Desk.Moves [] ⟨oneDirectory "tmp", front ++ new :: back, []⟩
          ⟨oneDirectory "tmp", front ++ drawn :: back, []⟩ :=
      @Desk.Moves.goOn [] ⟨_, _, []⟩ front back .drawId _ _ _ rfl hdrew nofun
    have hroot (front back : List (Plan (Except Failure Workspace))) :
        Desk.Moves [] ⟨oneDirectory "tmp", front ++ drawn :: back, []⟩
          ⟨oneDirectory "tmp", front ++ second :: back, []⟩ :=
      @Desk.Moves.goOn [] ⟨_, _, []⟩ front back (.createTree _) _ _ _ rfl hrooted nofun
    have hmade : Desk.Moves [] ⟨oneDirectory "tmp", [] ++ second :: [second], []⟩
        ⟨made, [] ++ [second], [first]⟩ :=
      @Desk.Moves.made [] ⟨_, _, []⟩ [] [second] (.createPrivate _) _ _ _ _ _ rfl hserved rfl
        placed_oneDirectory.locateNew_eq nofun
    exact .head (hbegin []) <| .head (hbegin [new]) <| .head (hdraw [] [new]) <|
      .head (hdraw [drawn] []) <| .head (hroot [] [drawn]) <| .head (hroot [second] []) <|
      .single hmade
  have hexclusive := exclusive_of_moves htree hmoves
  have hplaced : Placed made [] (pathOf "/tmp" "7") ["tmp", "polyglot-7"] :=
    placed_oneDirectory.mono (grows_of_makeDirectory hmake).1.within
  have hfind : made.find [] (pathOf "/tmp" "7") false = .ok (["tmp", "polyglot-7"], _) :=
    find_eq_ok_iff.2 ⟨hplaced.locate_eq, rfl⟩
  exact ⟨htree, hmoves, hexclusive, hexclusive.collision [] _ _ [] _ rfl hfind⟩

end Playground.Workspace
