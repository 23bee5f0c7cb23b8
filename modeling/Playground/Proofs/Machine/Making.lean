import Mathlib.Data.List.Chain
import Playground.Proofs.Machine.Tree
import Playground.Proofs.Path

set_option autoImplicit false

/-! # Making directories on the way

`createTree` tries a path, then the ones above it, until one can be made or is there, and then goes
back down. Whatever comes of it, nothing that was there changes, what is new are directories, and
each of them is where one of these paths leads (`Makes.grows`, `Makes.isNamed`).

A path leads to a directory only if the paths above it do (`Reaches.of_under`). So nothing is made
for a path that leads to a directory (`makeTree_of_reaches`). -/

namespace Playground.Machine.FileSystem

variable {fs fs' : FileSystem} {base l m here there : Location} {path parent : String} {mode : Nat}
  {paths : List String} {links links' : Nat} {ns ms : List String} {follow : Bool} {e : HostError}

open Playground.Path (DropsDots)

/-! ## The paths above a path -/

/-- The second path is that of the directory that the first one is a name in. -/
def Above (path parent : String) : Prop :=
  Path.isAbsolute parent = Path.isAbsolute path ∧
    ∃ name, DropsDots (Path.names path) (Path.names parent ++ [name])

/-- The way to the first path begins with the second one. -/
def Under (path parent : String) : Prop :=
  Path.isAbsolute parent = Path.isAbsolute path ∧
    ∃ rest, DropsDots (Path.names path) (Path.names parent ++ rest)

theorem Under.refl (path : String) : Under path path :=
  ⟨rfl, [], by rw [List.append_nil]; exact .refl _⟩

theorem Above.under {top : String} (h : Above path parent) (h' : Under parent top) :
    Under path top := by
  obtain ⟨habs, name, hnames⟩ := h
  obtain ⟨habs', rest, hrest⟩ := h'
  refine ⟨habs'.trans habs, rest ++ [name], ?_⟩
  rw [← List.append_assoc]
  exact hnames.trans (hrest.append (.refl _))

theorem pairwise_of_isChain (h : List.IsChain Above paths) : paths.Pairwise Under := by
  induction paths with
  | nil => exact .nil
  | cons path paths ih =>
      have hrest := ih h.tail
      refine List.pairwise_cons.2 ⟨fun top ht => ?_, hrest⟩
      cases paths with
      | nil => cases ht
      | cons parent paths =>
          have habove := (List.isChain_cons_cons.1 h).1
          rcases List.mem_cons.1 ht with rfl | ht
          · exact habove.under (.refl _)
          · exact habove.under ((List.pairwise_cons.1 hrest).1 top ht)

/-- The paths that parts make one by one, the longest first. The base of parts is the root or
    nothing. -/
theorem exists_up_eq {rootParts : List String} (hroot : rootParts = [] ∨ rootParts = ["/"])
    {parts : List String} (hparts : ∀ part ∈ parts, Path.IsSingle part)
    (hne : parts ++ rootParts ≠ []) :
    ∃ path paths, ancestors.up (parts ++ rootParts) = path :: paths ∧
      Path.names path = parts.reverse ∧ Path.isAbsolute path = !rootParts.isEmpty ∧
      List.IsChain Above (path :: paths) := by
  -- the parts are the last one first: each of them makes the path of those after it longer
  induction parts with
  | nil =>
      rcases hroot with rfl | rfl
      · exact absurd rfl hne
      · exact ⟨"/", [], rfl, by decide, by decide, .singleton _⟩
  | cons part parts ih =>
      have hpart := hparts part List.mem_cons_self
      by_cases hnil : parts ++ rootParts = []
      · obtain ⟨rfl, rfl⟩ := List.append_eq_nil_iff.1 hnil
        exact ⟨part, [], rfl, hpart.names_eq, hpart.isAbsolute_eq_false, .singleton _⟩
      · obtain ⟨path, paths, hup, hnames, habs, hchain⟩ :=
          ih (fun p hp => hparts p (List.mem_cons_of_mem _ hp)) hnil
        refine ⟨Path.join path part, path :: paths, ?_, ?_, ?_, ?_⟩
        · rw [List.cons_append, ancestors.up, hup]
        · rw [Path.names_join hpart, hnames, List.reverse_cons]
        · rw [Path.isAbsolute_join hpart, habs]
        · refine .cons_cons ⟨(Path.isAbsolute_join hpart).symm, part, ?_⟩ hchain
          rw [Path.names_join hpart]
          exact .refl _

/-- The paths above a path. Above those that do not begin at the root is the empty one. -/
theorem exists_ancestors_eq (path : String) :
    ∃ paths, List.IsChain Above (path :: paths) ∧
      (ancestors path = path :: paths ∨ ancestors path = path :: paths ++ [""]) := by
  obtain ⟨ns, hns, hparts⟩ := Path.exists_parts_eq path
  have hsingle : ∀ part ∈ ns, Path.IsSingle part :=
    fun part hp => Path.isSingle_of_mem_names (hns.mem hp)
  -- what is above the path is what is above its last part
  have hdrop : ∀ rootParts : List String, (rootParts = [] ∨ rootParts = ["/"]) →
      Path.isAbsolute path = !rootParts.isEmpty →
      List.IsChain Above (path :: (ancestors.up (ns.reverse ++ rootParts)).drop 1) := by
    intro rootParts hroot habs
    rcases List.eq_nil_or_concat' ns with rfl | ⟨front, last, rfl⟩
    · rcases hroot with rfl | rfl
      · exact .singleton _
      · exact .singleton _
    · rw [List.reverse_append, List.reverse_singleton, List.singleton_append, List.cons_append]
      by_cases hnil : front.reverse ++ rootParts = []
      · rw [hnil]
        exact .singleton _
      · obtain ⟨parent, paths, hup, hnames, habs', hchain⟩ := exists_up_eq hroot
          (fun part hp => hsingle part (by simp [List.mem_reverse.1 hp])) hnil
        rw [ancestors.up, hup]
        refine .cons_cons ⟨habs'.trans habs.symm, last, ?_⟩ hchain
        rwa [hnames, List.reverse_reverse]
  unfold ancestors
  split
  · next ns' hroot =>
      rw [hparts] at hroot
      split at hroot
      · next habs =>
          obtain rfl := (List.cons.inj hroot).2
          exact ⟨_, hdrop ["/"] (.inr rfl) (by simpa using habs), .inl rfl⟩
      · refine absurd (hsingle "/" (by rw [hroot]; exact List.mem_cons_self)).no_slash ?_
        decide
  · next hroot =>
      rw [hparts] at hroot ⊢
      split at hroot
      · exact absurd rfl (hroot ns)
      · next habs =>
          rw [if_neg habs]
          have hchain := hdrop [] (.inl rfl) (by simpa using habs)
          rw [List.append_nil] at hchain
          exact ⟨_, hchain, .inr rfl⟩

/-! ## Ways without dots, and ways down -/

theorem Leads.dropsDots (h : Leads fs links here ns links' there) (hd : DropsDots ns ms) :
    Leads fs links here ms links' there := by
  induction h generalizing ms with
  | nil =>
      cases hd
      exact .nil
  | dot dir _ ih =>
      rcases hd.of_cons with ⟨ms, rfl, hrest⟩ | ⟨-, hrest⟩
      · exact .dot dir (ih hrest)
      · exact ih hrest
  | up dir _ ih =>
      rcases hd.of_cons with ⟨ms, rfl, hrest⟩ | ⟨hdot, -⟩
      · exact .up dir (ih hrest)
      · exact absurd hdot (by decide)
  | down dir step link _ ih =>
      rcases hd.of_cons with ⟨ms, rfl, hrest⟩ | ⟨hdot, -⟩
      · exact .down dir step link (ih hrest)
      · exact absurd hdot step.ne_dot
  | through dir step link _ ih =>
      rcases hd.of_cons with ⟨ms, rfl, hrest⟩ | ⟨hdot, -⟩
      · exact .through dir step link (ih ((DropsDots.refl _).append hrest))
      · exact absurd hdot step.ne_dot

/-- Where there are no links, names other than `..` lead down. -/
theorem Leads.isPrefix (h : Leads fs links here ns links' there)
    (hlinks : ∀ m, l <+: m → fs.linkAt? m = none) (hup : ".." ∉ ns) (hl : l <+: here) :
    l <+: there := by
  induction h with
  | nil => exact hl
  | dot _ _ ih => exact ih (fun hm => hup (List.mem_cons_of_mem _ hm)) hl
  | up => exact absurd List.mem_cons_self hup
  | down _ _ _ _ ih =>
      exact ih (fun hm => hup (List.mem_cons_of_mem _ hm)) (hl.trans (List.prefix_append _ _))
  | through _ _ link =>
      rw [hlinks _ (hl.trans (List.prefix_append _ _))] at link
      cases link

/-- A walk that does not follow a link in the last place ends where names lead, or at the link. -/
theorem leads_or_link_of_walk (h : fs.walk false links here ns = .ok l) :
    (∃ links', Leads fs links here ns links' l) ∨ fs.linkAt? l ≠ none := by
  rcases List.eq_nil_or_concat' ns with rfl | ⟨front, last, rfl⟩
  · rw [walk_nil] at h
    cases h
    exact .inl ⟨links, .nil⟩
  · obtain ⟨left, there, hfront, hlast⟩ := exists_leads_of_walk h (.inl (by simp))
    have dir := directoryFault_of_walk hlast
    rcases step_of_walk hlast with rfl | rfl | step
    · rw [walk_dot dir, walk_nil] at hlast
      cases hlast
      exact .inl ⟨left, hfront.append (.dot dir .nil)⟩
    · rw [walk_up dir, walk_nil] at hlast
      cases hlast
      exact .inl ⟨left, hfront.append (.up dir .nil)⟩
    · rw [walk_last dir step] at hlast
      cases hlast
      cases link : fs.linkAt? (there ++ [last]) with
      | none => exact .inl ⟨left, hfront.step dir step link⟩
      | some target => exact .inr (by simp)

/-- A walk to a directory that does not follow a link in the last place ends at the directory or at
    a link. -/
theorem exists_walk_of_leads (h : Leads fs links here ns links' there)
    (hdir : fs.directoryFault there = none) :
    ∃ l, fs.walk false links here ns = .ok l ∧ fs.node? l ≠ none := by
  have hthere := node?_ne_none_of_directoryFault hdir
  rcases List.eq_nil_or_concat' ns with rfl | ⟨front, last, rfl⟩
  · cases h
    exact ⟨_, walk_nil, hthere⟩
  · obtain ⟨left, l, hfront, hlast⟩ := h.of_append
    have dir := hlast.directoryFault_eq_none
    rw [hfront.walk_append (.inl (by simp))]
    obtain ⟨rfl, hnil⟩ | ⟨rfl, hnil⟩ | ⟨step, -, hnil⟩ | ⟨_, target, -, step, link, -⟩ :=
      hlast.of_cons
    · cases hnil
      exact ⟨_, by rw [walk_dot dir, walk_nil], hthere⟩
    · cases hnil
      exact ⟨_, by rw [walk_up dir, walk_nil], hthere⟩
    · cases hnil
      exact ⟨_, walk_last dir step, hthere⟩
    · obtain ⟨mode, hm⟩ := linkAt?_eq_some_iff.1 link
      exact ⟨_, walk_last dir step, by simp [hm]⟩

/-! ## Paths that lead to directories -/

def Reaches (fs : FileSystem) (base : Location) (path : String) : Prop :=
  ∃ l, LeadsTo fs base path l ∧ fs.directoryFault l = none

theorem isDirectory_iff_reaches :
    fs.isDirectory base path = true ↔
      path ≠ "" ∧ path.utf8ByteSize ≤ maxPathSize ∧ fs.Reaches base path :=
  isDirectory_iff

/-- The path above one that can be walked leads to a directory. -/
theorem reaches_of_walk (h : Above path parent)
    (hw : fs.walk follow maxLinks (origin base path) (Path.names path) = .ok l) :
    fs.Reaches base parent := by
  obtain ⟨habs, name, hnames⟩ := h
  obtain ⟨front, back, hsplit, hfront, hback⟩ := hnames.of_append
  have hne : back ≠ [] := by
    rintro rfl
    cases hback
  rw [hsplit] at hw
  obtain ⟨links, there, hleads, hrest⟩ := exists_leads_of_walk hw (.inl hne)
  obtain ⟨first, rest, rfl⟩ := List.exists_cons_of_ne_nil hne
  refine ⟨there, ⟨links, ?_⟩, directoryFault_of_walk hrest⟩
  rw [origin_congr habs]
  exact hleads.dropsDots hfront

theorem Reaches.of_above (h : fs.Reaches base path) (ha : Above path parent) :
    fs.Reaches base parent := by
  obtain ⟨l, ⟨links, hl⟩, -⟩ := h
  exact reaches_of_walk ha hl.walk_eq

/-- Where a path leads that begins with another one, and where that one leads. -/
theorem LeadsTo.of_under (h : LeadsTo fs base path l) (hu : Under path parent) :
    ∃ rest there links links', LeadsTo fs base parent there ∧
      Leads fs links there rest links' l ∧ ∀ name ∈ rest, name ∈ Path.names path := by
  obtain ⟨habs, rest, hnames⟩ := hu
  obtain ⟨links, hl⟩ := h
  obtain ⟨left, there, hfront, hback⟩ := (hl.dropsDots hnames).of_append
  refine ⟨rest, there, left, links, ⟨left, ?_⟩, hback, fun name hm => ?_⟩
  · rwa [origin_congr habs]
  · exact hnames.mem (List.mem_append_right _ hm)

theorem Reaches.of_under (h : fs.Reaches base path) (hu : Under path parent) :
    fs.Reaches base parent := by
  obtain ⟨l, hl, hdir⟩ := h
  obtain ⟨rest, there, links, links', hthere, hrest, -⟩ := hl.of_under hu
  refine ⟨there, hthere, ?_⟩
  cases rest with
  | nil =>
      cases hrest
      exact hdir
  | cons name rest => exact hrest.directoryFault_eq_none

/-! ## Making one directory -/

/-- Nothing has changed but that there are more directories. -/
structure Grows (fs fs' : FileSystem) : Prop where
  within : Within fs fs'
  new : ∀ l, fs.node? l = none → fs'.node? l ≠ none → fs'.directoryFault l = none
  closed : fs'.closed = fs.closed
  tree : fs.IsTree → fs'.IsTree

theorem Grows.refl (fs : FileSystem) : Grows fs fs :=
  ⟨.refl fs, fun _ hn hn' => absurd hn hn', rfl, id⟩

theorem Grows.trans {fs'' : FileSystem} (h : Grows fs fs') (h' : Grows fs' fs'') :
    Grows fs fs'' where
  within := h.within.trans h'.within
  new l hn hn'' := by
    by_cases hn' : fs'.node? l = none
    · exact h'.new l hn' hn''
    · exact h'.within.directoryFault (h.new l hn hn')
  closed := h'.closed.trans h.closed
  tree ht := h'.tree (h.tree ht)

theorem linkAt?_eq_none_of_directoryFault (h : fs.directoryFault l = none) :
    fs.linkAt? l = none := by
  obtain ⟨mode, hm⟩ := directoryFault_eq_none_iff.1 h
  exact linkAt?_eq_none_of_directory hm

theorem Grows.linkAt? (h : Grows fs fs') (l : Location) : fs'.linkAt? l = fs.linkAt? l := by
  cases hn : fs.node? l with
  | some n => exact linkAt?_congr ((h.within l n hn).trans hn.symm)
  | none =>
      rw [linkAt?_eq_none_of_node?_eq_none hn]
      by_cases hn' : fs'.node? l = none
      · exact linkAt?_eq_none_of_node?_eq_none hn'
      · exact linkAt?_eq_none_of_directoryFault (h.new l hn hn')

theorem LeadsTo.grows (h : LeadsTo fs base path l) (hg : Grows fs fs')
    (hl : fs.linkAt? l = none) : LeadsTo fs' base path l := by
  obtain ⟨links, hleads⟩ := h
  exact ⟨links, hleads.mono hg.within ((hg.linkAt? l).trans hl)⟩

/-- A directory that is put where nothing was. -/
theorem grows_put (hn : fs.node? l = none) (hdir : fs.directoryFault l.dropLast = none) :
    Grows fs (fs.put l ⟨.directory, mode⟩) where
  within m n hm := by
    rw [node?_put_of_ne, hm]
    rintro rfl
    rw [hn] at hm
    cases hm
  new m hm hm' := by
    by_cases hml : m = l
    · subst hml
      exact directoryFault_eq_none_of_node? node?_put_self
    · rw [node?_put_of_ne hml] at hm'
      exact absurd hm hm'
  closed := rfl
  tree ht := ht.put (fun _ => hdir) (directoryFault_ne_none hn)

/-- A path at which a directory is made leads to it from then on. -/
theorem grows_of_makeDirectory (h : fs.makeDirectory base path mode = .ok fs') :
    Grows fs fs' ∧ ∃ l, fs.locateNew base path false = .ok l ∧ fs.node? l = none ∧
      fs' = fs.put l ⟨.directory, mode⟩ ∧ LeadsTo fs' base path l := by
  obtain ⟨l, hl, hn, ho, rfl⟩ := make_eq_ok_iff.1 h
  have hgrows : Grows fs (fs.put l ⟨.directory, mode⟩) :=
    grows_put hn (directoryFault_of_obstacle ho)
  refine ⟨hgrows, l, hl, hn, rfl, ?_⟩
  have hlink := linkAt?_eq_none_of_node?_eq_none hn
  rcases leads_or_link_of_walk (locateNew_eq_ok_iff.1 hl).2.2 with ⟨links, hleads⟩ | h
  · exact LeadsTo.grows ⟨links, hleads⟩ hgrows hlink
  · exact absurd hlink h

/-- Where a path leads to a directory, none can be made, and not because something is missing. -/
theorem makeDirectory_of_reaches (h : fs.Reaches base path) (hne : path ≠ "") :
    ∃ e, fs.makeDirectory base path mode = .error e ∧ e ≠ .notFound := by
  obtain ⟨l, ⟨links, hl⟩, hdir⟩ := h
  unfold makeDirectory make
  by_cases hsize : path.utf8ByteSize ≤ maxPathSize
  · obtain ⟨m, hm, hnode⟩ := exists_walk_of_leads hl hdir
    obtain ⟨n, hn⟩ := Option.ne_none_iff_exists'.1 hnode
    rw [locateNew_eq_ok_iff.2 ⟨hne, hsize, hm⟩]
    exact ⟨.alreadyExists, by simp [hn], by simp⟩
  · refine ⟨.nameTooLong, ?_, by simp⟩
    simp [locateNew, hne, Nat.lt_of_not_le hsize]

/-- If only something on the way is missing, the path is not too long. -/
theorem size_le_of_makeDirectory (h : fs.makeDirectory base path mode = .error .notFound) :
    path.utf8ByteSize ≤ maxPathSize := by
  by_contra hsize
  unfold makeDirectory make locateNew at h
  split at h
  · next hempty =>
      split at hempty
      · next he =>
          subst he
          exact hsize (by decide)
      · rw [if_pos (Nat.lt_of_not_le hsize)] at hempty
        cases hempty
        cases h
  · next hl =>
      split at hl
      · cases hl
      · rw [if_pos (Nat.lt_of_not_le hsize)] at hl
        cases hl

/-! ## Making a list of directories -/

theorem notMade_snd (fs : FileSystem) (base : Location) (path : String) (e : HostError) :
    (fs.notMade base path e).2 = fs := rfl

theorem notMade_eq_ok_iff : (fs.notMade base path e).1 = .ok () ↔ fs.isDirectory base path := by
  unfold notMade
  split <;> simp_all

theorem makeTree_of_error (hne : path ≠ "") (h : fs.makeDirectory base path mode = .error e)
    (he : e ≠ .notFound) : fs.makeTree base mode (path :: paths) = fs.notMade base path e := by
  rw [makeTree, if_neg hne, h]
  cases e <;> first | rfl | exact absurd rfl he

/-- Nothing is made for a path that leads to a directory. -/
theorem makeTree_of_reaches (h : path = "" ∨ fs.Reaches base path) :
    (fs.makeTree base mode (path :: paths)).2 = fs := by
  by_cases hne : path = ""
  · rw [makeTree, if_pos hne]
  · obtain ⟨e, he, hnot⟩ := makeDirectory_of_reaches (h.resolve_left hne) hne
    rw [makeTree_of_error hne he hnot, notMade_snd]

theorem makeTree_of_isDirectory (h : path = "" ∨ fs.isDirectory base path = true) :
    fs.makeTree base mode (path :: paths) = (.ok (), fs) := by
  by_cases hne : path = ""
  · rw [makeTree, if_pos hne]
  · have hdir := h.resolve_left hne
    obtain ⟨e, he, hnot⟩ := makeDirectory_of_reaches (isDirectory_iff_reaches.1 hdir).2.2 hne
    rw [makeTree_of_error hne he hnot, notMade, if_pos hdir]

/-- When the directory above has been made, the path leads to one. -/
theorem makeTree_of_above (hne : path ≠ "")
    (h : fs.makeDirectory base path mode = .error .notFound)
    (habove : fs.makeTree base mode paths = (.ok (), fs'))
    (hdir : fs'.isDirectory base path = true) :
    fs.makeTree base mode (path :: paths) = (.ok (), fs') := by
  obtain ⟨e, he, -⟩ : ∃ e, fs'.makeDirectory base path mode = .error e ∧ e ≠ .notFound :=
    makeDirectory_of_reaches (isDirectory_iff_reaches.1 hdir).2.2 hne
  simp only [makeTree, hne, h, habove, he, notMade, hdir, if_true, if_false]

/-- What making a list of directories comes to. -/
inductive Makes (base : Location) (mode : Nat) (fs : FileSystem) :
    List String → Except HostError Unit × FileSystem → Prop where
  | nothing : Makes base mode fs [] (.error .notFound, fs)
  | empty {paths : List String} : Makes base mode fs ("" :: paths) (.ok (), fs)
  | made {fs' : FileSystem} {path : String} {paths : List String}
      (h : fs.makeDirectory base path mode = .ok fs') :
      Makes base mode fs (path :: paths) (.ok (), fs')
  | stopped {path : String} {paths : List String} {e : HostError} (hne : path ≠ "")
      (h : fs.makeDirectory base path mode = .error e) (he : e ≠ .notFound) :
      Makes base mode fs (path :: paths) (fs.notMade base path e)
  | failed {fs' : FileSystem} {path : String} {paths : List String} {e : HostError}
      (hne : path ≠ "") (h : fs.makeDirectory base path mode = .error .notFound)
      (rest : Makes base mode fs paths (.error e, fs')) :
      Makes base mode fs (path :: paths) (.error e, fs')
  | followed {fs' fs'' : FileSystem} {path : String} {paths : List String} (hne : path ≠ "")
      (h : fs.makeDirectory base path mode = .error .notFound)
      (rest : Makes base mode fs paths (.ok (), fs'))
      (h' : fs'.makeDirectory base path mode = .ok fs'') :
      Makes base mode fs (path :: paths) (.ok (), fs'')
  | blocked {fs' : FileSystem} {path : String} {paths : List String} {e : HostError}
      (hne : path ≠ "") (h : fs.makeDirectory base path mode = .error .notFound)
      (rest : Makes base mode fs paths (.ok (), fs'))
      (h' : fs'.makeDirectory base path mode = .error e) :
      Makes base mode fs (path :: paths) (fs'.notMade base path e)

theorem makes_makeTree (fs : FileSystem) (base : Location) (mode : Nat) (paths : List String) :
    Makes base mode fs paths (fs.makeTree base mode paths) := by
  induction paths with
  | nil => exact .nothing
  | cons path paths ih =>
      by_cases hne : path = ""
      · subst hne
        rw [makeTree, if_pos rfl]
        exact .empty
      · cases h : fs.makeDirectory base path mode with
        | ok fs' =>
            rw [makeTree, if_neg hne, h]
            exact .made h
        | error e =>
            by_cases he : e = .notFound
            · subst he
              rw [makeTree, if_neg hne, h]
              rcases hrest : fs.makeTree base mode paths with ⟨_ | _, fs'⟩
              · rw [hrest] at ih
                exact .failed hne h ih
              · rw [hrest] at ih
                cases h' : fs'.makeDirectory base path mode with
                | ok fs'' =>
                    simp only [h']
                    exact .followed hne h ih h'
                | error e =>
                    simp only [h']
                    exact .blocked hne h ih h'
            · rw [makeTree_of_error hne h he]
              exact .stopped hne h he

variable {result : Except HostError Unit × FileSystem}

theorem Makes.grows (h : Makes base mode fs paths result) : Grows fs result.2 := by
  induction h with
  | nothing => exact .refl _
  | empty => exact .refl _
  | made h => exact (grows_of_makeDirectory h).1
  | stopped => exact .refl _
  | failed _ _ _ ih => exact ih
  | followed _ _ _ h' ih => exact ih.trans (grows_of_makeDirectory h').1
  | blocked _ _ _ _ ih => exact ih

/-- One of the paths leads to each directory that is new. -/
def IsNamed (base : Location) (fs fs' : FileSystem) (paths : List String) : Prop :=
  ∀ l, fs.node? l = none → fs'.node? l ≠ none →
    ∃ path ∈ paths, path ≠ "" ∧ LeadsTo fs' base path l

theorem isNamed_refl : IsNamed base fs fs paths := fun _ hn hn' => absurd hn hn'

theorem isNamed_of_makeDirectory (h : fs.makeDirectory base path mode = .ok fs') :
    IsNamed base fs fs' (path :: paths) := by
  obtain ⟨-, l, hlocate, hn, rfl, hl⟩ := grows_of_makeDirectory h
  intro m hm hm'
  by_cases hml : m = l
  · subst hml
    exact ⟨path, List.mem_cons_self, (locateNew_eq_ok_iff.1 hlocate).1, hl⟩
  · rw [node?_put_of_ne hml] at hm'
    exact absurd hm hm'

theorem IsNamed.cons (h : IsNamed base fs fs' paths) : IsNamed base fs fs' (path :: paths) := by
  intro l hn hn'
  obtain ⟨path', hp, hne, hl⟩ := h l hn hn'
  exact ⟨path', List.mem_cons_of_mem _ hp, hne, hl⟩

theorem IsNamed.trans {fs'' : FileSystem} (h : IsNamed base fs fs' paths)
    (h' : IsNamed base fs' fs'' paths) (hg : Grows fs fs') (hg' : Grows fs' fs'') :
    IsNamed base fs fs'' paths := by
  intro l hn hn''
  by_cases hn' : fs'.node? l = none
  · exact h' l hn' hn''
  · obtain ⟨path, hp, hne, hl⟩ := h l hn hn'
    exact ⟨path, hp, hne, hl.grows hg' (linkAt?_eq_none_of_directoryFault (hg.new l hn hn'))⟩

theorem Makes.isNamed (h : Makes base mode fs paths result) :
    IsNamed base fs result.2 paths := by
  induction h with
  | nothing => exact isNamed_refl
  | empty => exact isNamed_refl
  | made h => exact isNamed_of_makeDirectory h
  | stopped => exact isNamed_refl
  | failed _ _ _ ih => exact ih.cons
  | followed _ _ rest h' ih =>
      exact ih.cons.trans (isNamed_of_makeDirectory h') rest.grows (grows_of_makeDirectory h').1
  | blocked _ _ _ _ ih => exact ih.cons

/-- Something is new, or nothing has changed. -/
theorem Makes.eq_or_exists_new (h : Makes base mode fs paths result) :
    result.2 = fs ∨ ∃ l, fs.node? l = none ∧ result.2.node? l ≠ none := by
  have hmade : ∀ {fs fs' : FileSystem} {path : String},
      fs.makeDirectory base path mode = .ok fs' →
        ∃ l, fs.node? l = none ∧ fs'.node? l ≠ none := by
    intro fs fs' path h
    obtain ⟨-, l, -, hn, rfl, -⟩ := grows_of_makeDirectory h
    exact ⟨l, hn, by rw [node?_put_self]; simp⟩
  induction h with
  | nothing => exact .inl rfl
  | empty => exact .inl rfl
  | made h => exact .inr (hmade h)
  | stopped => exact .inl rfl
  | failed _ _ _ ih => exact ih
  | followed _ _ rest h' _ =>
      obtain ⟨l, hn, hn'⟩ := hmade h'
      refine .inr ⟨l, ?_, hn'⟩
      rw [← Option.not_isSome_iff_eq_none, Option.isSome_iff_exists]
      rintro ⟨n, hn''⟩
      rw [rest.grows.within l n hn''] at hn
      cases hn
  | blocked _ _ _ _ ih => exact ih

/-- A list of directories that has been made is there. -/
theorem Makes.isDirectory (h : Makes base mode fs (path :: paths) (.ok (), fs')) :
    path = "" ∨ fs'.isDirectory base path = true := by
  have hmade : ∀ {fs : FileSystem}, fs.makeDirectory base path mode = .ok fs' →
      fs'.isDirectory base path = true := by
    intro fs h
    obtain ⟨-, l, hl, -, rfl, hleads⟩ := grows_of_makeDirectory h
    obtain ⟨hne, hsize, -⟩ := locateNew_eq_ok_iff.1 hl
    exact isDirectory_iff.2
      ⟨hne, hsize, l, hleads, directoryFault_eq_none_of_node? node?_put_self⟩
  generalize hresult : (Except.ok (), fs') = result at h
  cases h with
  | empty => exact .inl rfl
  | made h =>
      cases hresult
      exact .inr (hmade h)
  | stopped _ h he =>
      obtain ⟨hok, rfl⟩ := Prod.mk.inj hresult
      exact .inr (notMade_eq_ok_iff.1 hok.symm)
  | failed => cases hresult
  | followed _ _ _ h' =>
      cases hresult
      exact .inr (hmade h')
  | blocked =>
      obtain ⟨hok, rfl⟩ := Prod.mk.inj hresult
      exact .inr (notMade_eq_ok_iff.1 hok.symm)

/-! ## Making a directory with all that lead to it -/

theorem isChain_ancestors (path : String) :
    List.IsChain (fun path parent => parent = "" ∨ Above path parent) (ancestors path) := by
  obtain ⟨paths, hchain, h | h⟩ := exists_ancestors_eq path
  · rw [h]
    exact hchain.imp fun _ _ ha => .inr ha
  · rw [h]
    refine (hchain.imp fun _ _ ha => .inr ha).append (.singleton _) ?_
    intro _ _ top htop
    exact .inl (by simpa [eq_comm] using htop)

theorem exists_ancestors_eq_cons (path : String) : ∃ paths, ancestors path = path :: paths := by
  obtain ⟨paths, -, h | h⟩ := exists_ancestors_eq path
  · exact ⟨paths, h⟩
  · exact ⟨paths ++ [""], h⟩

theorem pairwise_ancestors (path : String) :
    (ancestors path).Pairwise fun path top => top = "" ∨ Under path top := by
  obtain ⟨paths, hchain, h | h⟩ := exists_ancestors_eq path
  · rw [h]
    exact (pairwise_of_isChain hchain).imp .inr
  · rw [h]
    refine List.pairwise_append.2
      ⟨(pairwise_of_isChain hchain).imp .inr, List.pairwise_singleton _ _, ?_⟩
    exact fun _ _ top htop => .inl (List.mem_singleton.1 htop)

theorem under_of_mem_ancestors {top : String} (h : top ∈ ancestors path) :
    top = "" ∨ Under path top := by
  obtain ⟨paths, hpaths⟩ := exists_ancestors_eq_cons path
  have hpairwise := pairwise_ancestors path
  rw [hpaths] at h hpairwise
  rcases List.mem_cons.1 h with rfl | h
  · exact .inr (.refl _)
  · exact (List.pairwise_cons.1 hpairwise).1 top h

/-- A directory that is there is not made again. -/
theorem createTree_of_isDirectory (h : path = "" ∨ fs.isDirectory base path = true) :
    fs.createTree base path mode = (.ok (), fs) := by
  obtain ⟨paths, hpaths⟩ := exists_ancestors_eq_cons path
  rw [createTree, hpaths, makeTree_of_isDirectory h]

theorem createTree_of_leadsTo (hne : path ≠ "") (hsize : path.utf8ByteSize ≤ maxPathSize)
    (hl : LeadsTo fs base path l) (hdir : fs.directoryFault l = none) :
    fs.createTree base path mode = (.ok (), fs) :=
  createTree_of_isDirectory (.inr (isDirectory_iff.2 ⟨hne, hsize, l, hl, hdir⟩))

/-- A directory that was made is there. -/
theorem isDirectory_of_createTree (h : fs.createTree base path mode = (.ok (), fs')) :
    path = "" ∨ fs'.isDirectory base path = true := by
  obtain ⟨paths, hpaths⟩ := exists_ancestors_eq_cons path
  rw [createTree, hpaths] at h
  have hmakes := makes_makeTree fs base mode (path :: paths)
  rw [h] at hmakes
  exact hmakes.isDirectory

/-- Nothing is made on the way to a directory that is there. -/
theorem makeTree_of_suffix (h : fs.Reaches base path) (hs : paths <:+ ancestors path) :
    (fs.makeTree base mode paths).2 = fs := by
  cases paths with
  | nil => rfl
  | cons top paths =>
      refine makeTree_of_reaches ?_
      rcases under_of_mem_ancestors (hs.subset List.mem_cons_self) with hempty | hu
      · exact .inl hempty
      · exact .inr (h.of_under hu)

/-- When something has been made for paths that another one begins with, and that one does not go
    up, nothing is in the directory that it leads to. -/
theorem Makes.nothing_in (h : Makes base mode fs paths result) (ht : fs.IsTree)
    (hup : ".." ∉ Path.names path) (hunder : ∀ top ∈ paths, top = "" ∨ Under path top)
    (hne : result.2 ≠ fs) (hl : LeadsTo result.2 base path l) (name : String) :
    result.2.node? (l ++ [name]) = none := by
  have hgrows := h.grows
  -- the path goes down from all that is new
  have hdown : ∀ {m}, fs.node? m = none → result.2.node? m ≠ none → m <+: l := by
    intro m hm hm'
    obtain ⟨top, htop, hempty, _, htopl⟩ := h.isNamed m hm hm'
    have hlinks : ∀ m', m <+: m' → result.2.linkAt? m' = none := by
      intro m' hmm'
      rw [hgrows.linkAt?]
      exact linkAt?_eq_none_of_node?_eq_none (ht.node?_eq_none_of_prefix hm hmm')
    obtain ⟨rest, there, links, links', ⟨_, hthere⟩, hrest, hmem⟩ :=
      hl.of_under ((hunder top htop).resolve_left hempty)
    obtain ⟨-, rfl⟩ := htopl.unique (fun _ => rfl) hthere
    exact hrest.isPrefix hlinks (fun h => hup (hmem _ h)) (List.prefix_refl _)
  -- a child would be new as well, and the path would go down from it to above itself
  by_contra hchild
  obtain ⟨m, hm, hm'⟩ := h.eq_or_exists_new.resolve_left hne
  have hnew : fs.node? (l ++ [name]) = none :=
    ht.node?_eq_none_of_prefix hm ((hdown hm hm').trans (List.prefix_append _ _))
  have hlength := (hdown hnew hchild).length_le
  rw [List.length_append, List.length_singleton] at hlength
  omega

/-- When something has been made on the way to a path that does not go up, the path led to no
    directory, and if it does now, nothing is in it. -/
theorem empty_of_makeTree (ht : fs.IsTree) (hup : ".." ∉ Path.names path)
    (hs : paths <:+ ancestors path) (hne : (fs.makeTree base mode paths).2 ≠ fs) :
    ¬fs.Reaches base path ∧
      ∀ l, LeadsTo (fs.makeTree base mode paths).2 base path l →
        ∀ name, (fs.makeTree base mode paths).2.node? (l ++ [name]) = none :=
  ⟨fun hr => hne (makeTree_of_suffix hr hs), fun _ hl =>
    (makes_makeTree fs base mode paths).nothing_in ht hup
      (fun _ htop => under_of_mem_ancestors (hs.subset htop)) hne hl⟩

end Playground.Machine.FileSystem
