import Playground.Proofs.Execution.Phase
import Playground.Proofs.Machine.World

set_option autoImplicit false

/-! # Executions that share a host

Executions in one world share its files, and the root of their workspaces. The first one makes the
root, and after that each of them changes nothing outside its own workspace. So what one of them is
replied is what it is replied alone, in files of its own (`Follows.goesOn`), and what it does is
nothing to the others (`Follows.of_leaves`).

Looking a program up is the one thing that may lead anywhere in the files. An execution does what it
does alone if it finds its programs as it does alone, whatever the others may have made
(`LooksUpAsAlone`); if it does not, it still is nothing to the others.

There is one exception. Where the root cannot be made, the first one who tries may leave directories
behind that were made on the way, and those who try later may fail for another reason
(`IsLike`). -/

namespace Playground.Execution

open Plan Machine FileSystem
open Workspace (nameOf pathOf rootFailure)

/-- Both are the same answer, or both say that the root could not be made. If its path goes up, the
    reasons may differ. -/
def IsLike (root : String) (outcome expected : Outcome) : Prop :=
  outcome = expected ∨ ".." ∈ Path.names root ∧
    ∃ e e', outcome = .ofFailure (rootFailure root e) ∧ expected = .ofFailure (rootFailure root e')

/-! ## The ground on which workspaces are made -/

/-- What has come of making the root. -/
inductive Ground where
  | untouched
  /-- It is there, at this location. -/
  | laid (base : FileSystem) (top : Location)
  | refused (base : FileSystem)

/-- The location of the workspace with an identifier. -/
def areaOf (top : Location) (id : String) : Location := top ++ [nameOf id]

structure IsLaid (w : World) (root : String) (fs base : FileSystem) (top : Location) : Prop where
  made : fs.guarded root (fs.createTree w.here root 0o755) = (.ok (), base)
  tree : base.IsTree
  leads : LeadsTo base w.here root top
  directory : root = "" ∨ root.utf8ByteSize ≤ maxPathSize ∧ base.directoryFault top = none

/-- Nothing is different outside workspaces, and nothing that was there is different. -/
structure IsAround (ids : Nat → String) (top : Location) (base g : FileSystem) : Prop where
  outside : ∀ m, (∀ ticket, ¬areaOf top (ids ticket) <+: m) → g.node? m = base.node? m
  within : Within base g
  closed : g.closed = base.closed

def Ground.Holds (w : World) (ids : Nat → String) (root : String) (fs g : FileSystem) :
    Ground → Prop
  | .untouched => g = fs
  | .laid base top => IsLaid w root fs base top ∧ IsAround ids top base g
  | .refused base => g = base ∧
      ∃ e, fs.guarded root (fs.createTree w.here root 0o755) = (.error e, base)

/-- Nothing has been made where the workspace with an identifier will be. -/
def Ground.IsClear (id : String) (g : FileSystem) : Ground → Prop
  | .laid base top => ∀ m, areaOf top id <+: m → g.node? m = base.node? m
  | _ => True

/-- The execution with an identifier leaves all that concerns others as it is. -/
inductive Leaves (id : String) : Ground → FileSystem → Ground → FileSystem → Prop where
  | nothing (ground : Ground) (g : FileSystem) : Leaves id ground g ground g
  | outside {base g g' : FileSystem} {top : Location}
      (h : ∀ m, ¬areaOf top id <+: m → g'.node? m = g.node? m) :
      Leaves id (.laid base top) g (.laid base top) g'
  | first {ground' : Ground} {g g' : FileSystem}
      (h : ∀ base top, ground' = .laid base top → g' = base) :
      Leaves id .untouched g ground' g'

/-! ## Following an execution alone -/

/-- The files of all show to an execution what the files that it would have alone do: it has made
    nothing yet, or its workspace looks the same. -/
inductive Resembles (w : World) (root : String) (fs : FileSystem) (ground : Ground) (id : String)
    (g : FileSystem) : FileSystem → Prop where
  | clear (h : ground.IsClear id g) : Resembles w root fs ground id g fs
  | working {base f : FileSystem} {top : Location} (hground : ground = .laid base top)
      (h : Mirrors w.here (pathOf root id) (areaOf top id) base f g) :
      Resembles w root fs ground id g f

/-- Wherever a plan looks a program up when it is followed alone, the program is found as it is
    alone, in all files that executions may make of those at hand. -/
def LooksUpAsAlone (w : World) (ids : Nat → String) (root : String) (fs : FileSystem)
    (ticket : Nat) (whole : Plan Outcome) : Prop :=
  ∀ (f : FileSystem) (program : String) (next : Option String → Plan Outcome),
    w.Visits (ids ticket) fs whole f (.ask (.locate program) next) →
    ∀ (ground : Ground) (g : FileSystem), ground.Holds w ids root fs g →
      Resembles w root fs ground (ids ticket) g f → w.lookUp g program = w.lookUp f program

/-- A plan that is in a phase does what concerns its workspace in files that look the same to it as
    those that it would have alone. If it finds what it would find alone, it is what is left of the
    whole plan there. -/
def Follows (w : World) (root : String) (fs : FileSystem) (ground : Ground) (id : String)
    (g : FileSystem) (finds : Prop) (whole : Plan Outcome) : Phase → Plan Outcome → Prop
  | .looking, p => ground.IsClear id g ∧ (finds → w.Visits id fs whole fs p)
  | .drawn drawn, p => drawn = id ∧ ground.IsClear id g ∧ (finds → w.Visits id fs whole fs p)
  | .rooted drawn, p => drawn = id ∧ ground.IsClear id g ∧
      ∃ base top, ground = .laid base top ∧ (finds → w.Visits id fs whole base p)
  | .working drawn isFresh, p => drawn = id ∧ ∃ base top f, ground = .laid base top ∧
      Mirrors w.here (pathOf root id) (areaOf top id) base f g ∧
      (isFresh = true → IsEmptyDirectory f (areaOf top id)) ∧ (finds → w.Visits id fs whole f p)
  | .refused e, _ => finds → ∃ e', w.run id fs whole = .ofFailure (rootFailure root e') ∧
      (e = e' ∨ ".." ∈ Path.names root)
  | .ended, p => finds → ∃ f, w.Visits id fs whole f p
  | .astray, _ => False

variable {w : World} {ids : Nat → String} {s : Settings} {root id : String} {t : Toolchain}
  {fs g g' base f : FileSystem} {top : Location} {ground ground' : Ground} {finds : Prop}
  {whole : Plan Outcome}

/-! ### On laid ground -/

/-- Workspaces with different identifiers have nothing in common. -/
theorem not_prefix_areaOf {id' : String} {m : Location} (hne : id' ≠ id)
    (hm : areaOf top id' <+: m) : ¬areaOf top id <+: m := by
  intro hm'
  have heq := (List.prefix_of_prefix_length_le hm hm' (by simp [areaOf])).eq_of_length
    (by simp [areaOf])
  exact hne (Workspace.nameOf_injective (List.singleton_inj.1 (List.append_cancel_left heq)))

/-- Whether or not the root can be made, only directories come to be. -/
theorem grows_of_createTree {result : Except HostError Unit}
    (h : fs.guarded root (fs.createTree w.here root 0o755) = (result, base)) : Grows fs base := by
  unfold guarded at h
  split at h
  · obtain rfl := (Prod.mk.inj h).2
    exact .refl fs
  · have hgrows := (makes_makeTree fs w.here 0o755 (ancestors root)).grows
    rwa [← createTree, h] at hgrows

theorem exists_isLaid (ht : fs.IsTree)
    (h : fs.guarded root (fs.createTree w.here root 0o755) = (.ok (), base)) :
    ∃ top, IsLaid w root fs base top := by
  have hmade := h
  have hgrows := grows_of_createTree h
  unfold guarded at h
  split at h
  · cases h
  · rcases isDirectory_of_createTree h with rfl | hdir
    · exact ⟨w.here, hmade, hgrows.tree ht, ⟨maxLinks, .nil⟩, .inl rfl⟩
    · obtain ⟨-, hsize, top, hleads, hdir⟩ := isDirectory_iff.1 hdir
      exact ⟨top, hmade, hgrows.tree ht, hleads, .inr ⟨hsize, hdir⟩⟩

theorem isAround_refl : IsAround ids top base base := ⟨fun _ _ => rfl, .refl base, rfl⟩

/-- What happens in a workspace that was not there happens to nothing that was. -/
theorem IsAround.spares {ticket : Nat} (h : IsAround ids top base g)
    (hfree : ∀ m, areaOf top (ids ticket) <+: m → base.node? m = none)
    (hs : Spares g (areaOf top (ids ticket)) g') : IsAround ids top base g' where
  outside m hm := (hs.outside m (hm ticket)).trans (h.outside m hm)
  within m n hn := by
    rw [hs.outside m, h.within m n hn]
    intro hm
    rw [hfree m hm] at hn
    cases hn
  closed := hs.closed.trans h.closed

theorem IsAround.directoryFault (h : IsAround ids top base g) :
    g.directoryFault top = base.directoryFault top := by
  refine directoryFault_congr (h.outside top fun ticket hp => ?_)
  have hlength := hp.length_le
  rw [areaOf, List.length_append, List.length_singleton] at hlength
  omega

/-- The root leads to the same place. -/
theorem IsLaid.exists_leads (h : IsLaid w root fs base top) (ha : IsAround ids top base g) :
    ∃ links, Leads base maxLinks (origin w.here root) (Path.names root) links top ∧
      Leads g maxLinks (origin w.here root) (Path.names root) links top := by
  obtain ⟨links, hleads⟩ := h.leads
  refine ⟨links, hleads, ?_⟩
  rcases h.directory with rfl | ⟨-, hdir⟩
  · rw [Path.names_empty] at hleads ⊢
    cases hleads
    exact .nil
  · exact hleads.mono ha.within
      (linkAt?_eq_none_of_directoryFault (ha.directoryFault.trans hdir))

/-- The root is there for all. -/
theorem IsLaid.serve_createTree (h : IsLaid w root fs base top) (ha : IsAround ids top base g) :
    w.serve id g (.createTree root) = (.ok (), g) := by
  have hdir : root = "" ∨ g.isDirectory w.here root = true := by
    rcases h.directory with hroot | ⟨hsize, hdir⟩
    · exact .inl hroot
    · by_cases hroot : root = ""
      · exact .inl hroot
      · obtain ⟨links, -, hleads⟩ := h.exists_leads ha
        exact .inr (isDirectory_iff.2
          ⟨hroot, hsize, top, ⟨links, hleads⟩, ha.directoryFault.trans hdir⟩)
  have hnul : hasNul root = false := by
    rw [← Bool.not_eq_true]
    intro hnul
    have hmade := h.made
    rw [guarded, if_pos hnul] at hmade
    cases hmade
  exact serve_createTree_eq hnul (createTree_of_isDirectory hdir)

/-- If the root could not be made, it cannot be made later, and for the same reason if its path does
    not go up. -/
theorem exists_serve_createTree_again (ht : fs.IsTree) {e : HostError}
    (h : fs.guarded root (fs.createTree w.here root 0o755) = (.error e, base)) :
    ∃ e', w.serve id base (.createTree root) = (.error e', base) ∧
      (e' = e ∨ ".." ∈ Path.names root) := by
  rw [Machine.serve_createTree]
  unfold guarded at h ⊢
  split at h
  · next hnul => exact ⟨.nulInPath, if_pos hnul, .inl (Except.error.inj (Prod.mk.inj h).1)⟩
  · next hnul =>
      rw [if_neg hnul]
      by_cases hup : ".." ∈ Path.names root
      · obtain ⟨e', he⟩ := createTree_again h
        exact ⟨e', he, .inr hup⟩
      · exact ⟨e, createTree_again_of_no_up h ht hup, .inl rfl⟩

/-! ### One action -/

/-- A plan after which nothing may be asked for has returned. -/
theorem exists_eq_done {α : Type} {post : α → Phase → Prop} {phase : Phase} {p : Plan α}
    (hp : Phased root t post phase p)
    (h : ∀ action reply, Phase.after root t phase action reply = .astray) :
    ∃ a, p = .done a ∧ post a phase := by
  cases p with
  | done a => exact ⟨a, rfl, hp.2⟩
  | ask action next =>
      obtain ⟨reply, -⟩ := exists_serves [] action ⟨[], []⟩
      exact absurd (h action reply) (hp.2 reply).holds

theorem after_refused {e : HostError} (action : Action) (reply : action.Reply) :
    Phase.after root t (.refused e) action reply = .astray := by
  cases action <;> rfl

theorem after_ended (action : Action) (reply : action.Reply) :
    Phase.after root t .ended action reply = .astray := by
  cases action <;> rfl

/-- What has been said in the end is what the whole plan returns alone. -/
theorem isLike_of_done {phase : Phase} {outcome : Outcome}
    (hp : Phased root t (IsEnd root) phase (.done outcome))
    (hf : Follows w root fs ground id g finds whole phase (.done outcome)) (h : finds) :
    IsLike root outcome (w.run id fs whole) := by
  obtain ⟨-, rfl | rfl | ⟨e, rfl, rfl⟩⟩ := hp
  · exact .inl (hf.2 h).run_eq.symm
  · obtain ⟨f, hvisits⟩ := hf h
    exact .inl hvisits.run_eq.symm
  · obtain ⟨e', hrun, rfl | hup⟩ := hf h
    · exact .inl hrun.symm
    · exact .inr ⟨hup, e, e', rfl, hrun⟩

variable {action : Action} {next : action.Reply → Plan Outcome} {phase : Phase}

/-- One action leaves what concerns others as it is, and the rest of the plan follows it. -/
def GoesOn (w : World) (ids : Nat → String) (root : String) (t : Toolchain) (fs : FileSystem)
    (ground : Ground) (id : String) (g : FileSystem) (finds : Prop) (whole : Plan Outcome)
    (phase : Phase) (action : Action) (next : action.Reply → Plan Outcome) : Prop :=
  ∃ ground' : Ground, ground'.Holds w ids root fs (w.serve id g action).2 ∧
    Leaves id ground g ground' (w.serve id g action).2 ∧
    Follows w root fs ground' id (w.serve id g action).2 finds whole
      (Phase.after root t phase action (w.serve id g action).1) (next (w.serve id g action).1)

/-- While tools are looked for nothing changes. -/
theorem Follows.looking {ticket : Nat} (hticket : ids ticket = id)
    (hfinds : finds → LooksUpAsAlone w ids root fs ticket whole)
    (hg : ground.Holds w ids root fs g)
    (hf : Follows w root fs ground id g finds whole .looking (.ask action next))
    {reply : action.Reply} (hne : Phase.after root t .looking action reply ≠ .astray) :
    GoesOn w ids root t fs ground id g finds whole .looking action next := by
  obtain ⟨hclear, hvisits⟩ := hf
  subst hticket
  cases action with
  | locate program =>
      refine ⟨ground, hg, .nothing _ _, ?_⟩
      rw [after_looking_locate (mem_requiredTools_of_locate hne)]
      refine ⟨hclear, fun h => ?_⟩
      have hsame := hfinds h fs program next (hvisits h) ground g hg (.clear hclear)
      exact (hvisits h).of_serve (serve_locate_eq hsame.symm)
  | drawId => exact ⟨ground, hg, .nothing _ _, rfl, hclear, fun h => (hvisits h).step⟩
  | _ => exact absurd rfl hne

/-- An execution that cannot make the root says so. -/
theorem run_refused {e : HostError} {p : Plan Outcome}
    (hp : Phased root t (IsEnd root) (.refused e) p) :
    w.run id base p = .ofFailure (rootFailure root e) := by
  obtain ⟨outcome, rfl, hlooking | hended | ⟨e', he, rfl⟩⟩ := exists_eq_done hp after_refused
  · cases hlooking
  · cases hended
  · cases he
    rfl

theorem goesOn_of_serve {reply : action.Reply} (ground' : Ground)
    (hs : w.serve id g action = (reply, g'))
    (hg : ground'.Holds w ids root fs g') (hl : Leaves id ground g ground' g')
    (hf : Follows w root fs ground' id g' finds whole (Phase.after root t phase action reply)
      (next reply)) : GoesOn w ids root t fs ground id g finds whole phase action next := by
  unfold GoesOn
  rw [hs]
  exact ⟨ground', hg, hl, hf⟩

/-- The root is made by the first one who needs it. -/
theorem Follows.drawn {drawn : String} {next : (Action.createTree root).Reply → Plan Outcome}
    (ht : fs.IsTree) (hg : ground.Holds w ids root fs g)
    (hf : Follows w root fs ground id g finds whole (.drawn drawn) (.ask (.createTree root) next))
    (hp : Phased root t (IsEnd root) (.drawn drawn) (.ask (.createTree root) next)) :
    GoesOn w ids root t fs ground id g finds whole (.drawn drawn) (.createTree root) next := by
  obtain ⟨rfl, hclear, hvisits⟩ := hf
  have hok : Phase.after root t (.drawn drawn) (.createTree root) (.ok ()) = .rooted drawn := by
    simp [Phase.after]
  have herror : ∀ e, Phase.after root t (.drawn drawn) (.createTree root) (.error e) =
      .refused e := by
    intro e
    simp [Phase.after]
  -- if making the root fails alone, that is what the whole plan returns
  have hrefused {base : FileSystem} (e : HostError)
      (hmade : fs.guarded root (fs.createTree w.here root 0o755) = (.error e, base)) (h : finds) :
      w.run drawn fs whole = .ofFailure (rootFailure root e) :=
    ((hvisits h).of_serve hmade).run_eq.trans (run_refused (herror e ▸ hp.2 (.error e)))
  cases ground with
  | untouched =>
      obtain rfl : g = fs := hg
      rcases hmade : g.guarded root (g.createTree w.here root 0o755) with ⟨e | ⟨⟩, base⟩
      · refine goesOn_of_serve (.refused base) hmade ⟨rfl, e, hmade⟩
          (.first fun _ _ h => by cases h) ?_
        rw [herror]
        exact fun h => ⟨e, hrefused e hmade h, .inl rfl⟩
      · obtain ⟨top, hlaid⟩ := exists_isLaid ht hmade
        refine goesOn_of_serve (.laid base top) hmade ⟨hlaid, isAround_refl⟩
          (.first fun _ _ h => by cases h; rfl) ?_
        rw [hok]
        exact ⟨rfl, fun _ _ => rfl, base, top, rfl, fun h => (hvisits h).of_serve hmade⟩
  | laid base top =>
      obtain ⟨hlaid, haround⟩ := hg
      -- alone it would make the root; here it finds what was made, which is the same
      refine goesOn_of_serve (.laid base top) (hlaid.serve_createTree haround) ⟨hlaid, haround⟩
        (.nothing _ _) ?_
      rw [hok]
      exact ⟨rfl, hclear, base, top, rfl, fun h => (hvisits h).of_serve hlaid.made⟩
  | refused base =>
      obtain ⟨rfl, e, hmade⟩ := hg
      -- alone it would be the first to try; here others have, and it may fail for another reason
      obtain ⟨e', hagain, hsame⟩ : ∃ e', w.serve drawn g (.createTree root) = (.error e', g) ∧
          (e' = e ∨ ".." ∈ Path.names root) := exists_serve_createTree_again ht hmade
      refine goesOn_of_serve (.refused g) hagain ⟨rfl, e, hmade⟩ (.nothing _ _) ?_
      rw [herror]
      exact fun h => ⟨e, hrefused e hmade h, hsame⟩

/-- A workspace is made for one, or it cannot be made. -/
theorem Follows.rooted {drawn : String}
    {next : (Action.createPrivate (pathOf root drawn)).Reply → Plan Outcome} (hid : '/' ∉ id.toList)
    {ticket : Nat} (hticket : ids ticket = id) (hg : ground.Holds w ids root fs g)
    (hf : Follows w root fs ground id g finds whole (.rooted drawn)
      (.ask (.createPrivate (pathOf root drawn)) next)) :
    GoesOn w ids root t fs ground id g finds whole (.rooted drawn)
      (.createPrivate (pathOf root drawn)) next := by
  obtain ⟨rfl, hclear, base, top, rfl, hvisits⟩ := hf
  obtain ⟨hlaid, haround⟩ := hg
  obtain ⟨links, hbase, hall⟩ := hlaid.exists_leads haround
  rcases cases_of_serve_createPrivate hlaid.tree hid hbase hall haround.directoryFault
    haround.closed hclear with
    ⟨e, hserve, hserveAll⟩ | ⟨f', g', hserve, hserveAll, hempty, hmirrors, hspares⟩
  · refine goesOn_of_serve (.laid base top) hserveAll ⟨hlaid, haround⟩ (.nothing _ _) ?_
    simp only [Phase.after, if_true]
    exact fun h => ⟨base, (hvisits h).of_serve hserve⟩
  · subst hticket
    refine goesOn_of_serve (.laid base top) hserveAll ⟨hlaid, haround.spares hmirrors.free hspares⟩
      (.outside hspares.outside) ?_
    simp only [Phase.after, if_true]
    exact ⟨rfl, base, top, f', rfl, hmirrors, fun _ => hempty,
      fun h => (hvisits h).of_serve hserve⟩

/-- An action after which an execution still has its workspace, which looks the same. -/
theorem goesOn_of_agree {ticket : Nat} {isFresh isFresh' : Bool} (hlaid : IsLaid w root fs base top)
    (haround : IsAround ids top base g) (hfree : ∀ m, areaOf top (ids ticket) <+: m →
      base.node? m = none)
    (hagree : Agree w.here (pathOf root (ids ticket)) (areaOf top (ids ticket)) base g
      (w.serve (ids ticket) f action) (w.serve (ids ticket) g action))
    (hafter : ∀ reply, Phase.after root t (.working (ids ticket) isFresh) action reply =
      .working (ids ticket) isFresh')
    (hempty : isFresh' = true →
      IsEmptyDirectory (w.serve (ids ticket) f action).2 (areaOf top (ids ticket)))
    (hvisits : finds → w.Visits (ids ticket) fs whole f (.ask action next)) :
    GoesOn w ids root t fs (.laid base top) (ids ticket) g finds whole
      (.working (ids ticket) isFresh) action next := by
  refine ⟨.laid base top, ⟨hlaid, haround.spares hfree hagree.spares⟩,
    .outside hagree.spares.outside, ?_⟩
  rw [hafter, hagree.reply]
  exact ⟨rfl, base, top, _, rfl, hagree.mirrors, hempty, fun h => (hvisits h).step⟩

/-- An execution that has its workspace works in it as if it were alone. -/
theorem Follows.working {drawn : String} {isFresh : Bool} {ticket : Nat} (hticket : ids ticket = id)
    (hfinds : finds → LooksUpAsAlone w ids root fs ticket whole) (hg : ground.Holds w ids root fs g)
    (hf : Follows w root fs ground id g finds whole (.working drawn isFresh) (.ask action next))
    {reply : action.Reply}
    (hne : Phase.after root t (.working drawn isFresh) action reply ≠ .astray) :
    GoesOn w ids root t fs ground id g finds whole (.working drawn isFresh) action next := by
  obtain ⟨rfl, base, top, f, rfl, hmirrors, hempty, hvisits⟩ := hf
  have hground := hg
  obtain ⟨hlaid, haround⟩ := hg
  subst hticket
  have hwithin := haround.within
  cases action with
  | locate program =>
      refine ⟨.laid base top, hground, .nothing _ _, ?_⟩
      rw [after_locate (mem_lookedUp_of_locate hne)]
      refine ⟨rfl, base, top, f, rfl, hmirrors, hempty, fun h => ?_⟩
      have hsame := hfinds h f program next (hvisits h) _ g hground (.working rfl hmirrors)
      exact (hvisits h).of_serve (serve_locate_eq hsame.symm)
  | killGroup group =>
      exact goesOn_of_agree hlaid haround hmirrors.free (hmirrors.agree _)
        (after_killGroup isFresh group) hempty hvisits
  | killProcess process =>
      exact goesOn_of_agree hlaid haround hmirrors.free (hmirrors.agree _)
        (after_killProcess isFresh process) hempty hvisits
  | watch launch limit =>
      have hdirectory : launch.directory = pathOf root (ids ticket) := by
        by_contra hdir
        refine hne ?_
        cases isFresh <;> simp [Phase.after, hdir]
      exact goesOn_of_agree hlaid haround hmirrors.free
        (hmirrors.watch hwithin hdirectory limit) (after_watch isFresh hdirectory limit)
        (fun h => absurd h (by decide)) hvisits
  | write path contents =>
      cases isFresh with
      | false => exact absurd rfl hne
      | true =>
          have hsource : t.sourceName?.map (Path.join (pathOf root (ids ticket))) = some path := by
            by_contra hother
            exact hne (by simp [Phase.after, hother])
          obtain ⟨name, hname, rfl⟩ := Option.map_eq_some_iff.1 hsource
          obtain ⟨hdir, hnothing⟩ := hempty rfl
          have hagree := hmirrors.write hwithin haround.closed hdir
            (Workspace.isSingle_of_sourceName? hname)
            (hnothing _ (List.prefix_append _ _) (by simp)) (ids ticket) contents
          have hafter : ∀ reply, Phase.after root t (.working (ids ticket) true)
              (.write (Path.join (pathOf root (ids ticket)) name) contents) reply =
                .working (ids ticket) false := by
            simp [Phase.after, hname]
          exact goesOn_of_agree hlaid haround hmirrors.free hagree hafter
            (fun h => absurd h (by decide)) hvisits
  | remove path =>
      have hpath : path = pathOf root (ids ticket) := by
        by_contra hother
        refine hne ?_
        cases isFresh <;> simp [Phase.after, hother]
      subst hpath
      have hspares := hmirrors.remove hwithin
      refine ⟨.laid base top, ⟨hlaid, haround.spares hmirrors.free hspares⟩,
        .outside hspares.outside, ?_⟩
      rw [after_remove]
      exact fun h => ⟨_, (hvisits h).step⟩
  | _ => cases isFresh <;> exact absurd rfl hne

/-- One action of an execution. -/
theorem Follows.goesOn {ticket : Nat} (ht : fs.IsTree) (hticket : ids ticket = id)
    (hfinds : finds → LooksUpAsAlone w ids root fs ticket whole) (hid : '/' ∉ id.toList)
    (hg : ground.Holds w ids root fs g)
    (hf : Follows w root fs ground id g finds whole phase (.ask action next))
    (hp : Phased root t (IsEnd root) phase (.ask action next)) :
    GoesOn w ids root t fs ground id g finds whole phase action next := by
  obtain ⟨reply, -⟩ := exists_serves [] action fs
  have hne : Phase.after root t phase action reply ≠ .astray := (hp.2 reply).holds
  cases phase with
  | looking => exact hf.looking hticket hfinds hg hne
  | working drawn isFresh => exact hf.working hticket hfinds hg hne
  | drawn drawn =>
      cases action with
      | createTree path =>
          obtain rfl : path = root := by
            by_contra hother
            exact hne (by simp [Phase.after, hother])
          exact hf.drawn ht hg hp
      | _ => exact absurd rfl hne
  | rooted drawn =>
      cases action with
      | createPrivate path =>
          obtain rfl : path = pathOf root drawn := by
            by_contra hother
            exact hne (by simp [Phase.after, hother])
          exact hf.rooted hid hticket hg
      | _ => exact absurd rfl hne
  | refused e => exact absurd (after_refused action reply) hne
  | ended => exact absurd (after_ended action reply) hne
  | astray => exact hf.elim

/-! ### Finding programs -/

/-- What there was at first is still there. -/
theorem Ground.Holds.within (hg : ground.Holds w ids root fs g) : Within fs g := by
  cases ground with
  | untouched =>
      obtain rfl : g = fs := hg
      exact .refl g
  | laid base top => exact (grows_of_createTree hg.1.made).within.trans hg.2.within
  | refused base =>
      obtain ⟨rfl, e, hmade⟩ := hg
      exact (grows_of_createTree hmade).within

theorem Resembles.within (h : Resembles w root fs ground id g f)
    (hg : ground.Holds w ids root fs g) : Within fs f := by
  cases h with
  | clear => exact .refl fs
  | working hground hmirrors =>
      subst hground
      exact (grows_of_createTree hg.1.made).within.trans (hmirrors.own.within hmirrors.free)

/-- Under an absolute root an execution finds its programs as it does alone, if its tools are there
    where they are looked for first. -/
theorem looksUpAsAlone_of_first {ticket : Nat} (habs : Path.isAbsolute root = true)
    (hp : Phased root t (IsEnd root) .looking whole)
    (hfirst : ∀ tool ∈ t.requiredTools, w.FindsFirst fs tool) :
    LooksUpAsAlone w ids root fs ticket whole := by
  intro f program next hvisits ground g hg hresembles
  obtain ⟨phase, hphased⟩ := hvisits.exists_keeps hp
  have htool := mem_requiredTools_of_phased habs hphased
  exact (hfirst program htool).lookUp_eq (hresembles.within hg) hg.within

/-! ### What others do -/

theorem Ground.IsClear.of_leaves {id' : String} (hne : id' ≠ id)
    (hl : Leaves id ground g ground' g') (h : ground.IsClear id' g) : ground'.IsClear id' g' := by
  cases hl with
  | nothing => exact h
  | outside hsame => exact fun m hm => (hsame m (not_prefix_areaOf hne hm)).trans (h m hm)
  | @first ground' _ _ hbase =>
      cases ground' with
      | laid base top =>
          obtain rfl := hbase base top rfl
          exact fun _ _ => rfl
      | untouched => trivial
      | refused => trivial

/-- What one execution does is nothing to the others. -/
theorem Follows.of_leaves {id' : String} {p : Plan Outcome} (hne : id' ≠ id)
    (hl : Leaves id ground g ground' g') (h : Follows w root fs ground id' g finds whole phase p) :
    Follows w root fs ground' id' g' finds whole phase p := by
  cases phase with
  | looking => exact ⟨h.1.of_leaves hne hl, h.2⟩
  | drawn => exact ⟨h.1, h.2.1.of_leaves hne hl, h.2.2⟩
  | rooted =>
      obtain ⟨hdrawn, hclear, base, top, rfl, hvisits⟩ := h
      cases hl with
      | nothing => exact ⟨hdrawn, hclear, base, top, rfl, hvisits⟩
      | outside hsame =>
          exact ⟨hdrawn, hclear.of_leaves hne (.outside hsame), base, top, rfl, hvisits⟩
  | working =>
      obtain ⟨hdrawn, base, top, f, rfl, hmirrors, hempty, hvisits⟩ := h
      cases hl with
      | nothing => exact ⟨hdrawn, base, top, f, rfl, hmirrors, hempty, hvisits⟩
      | outside hsame =>
          exact ⟨hdrawn, base, top, f, rfl,
            hmirrors.congr fun m hm => hsame m (not_prefix_areaOf hne hm), hempty, hvisits⟩
  | refused => exact h
  | ended => exact h
  | astray => exact h

end Playground.Execution
