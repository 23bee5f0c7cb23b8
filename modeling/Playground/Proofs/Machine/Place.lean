import Playground.Proofs.Machine.Tree
import Playground.Proofs.Path

set_option autoImplicit false

/-! # Places

A path is `Placed` at a location if it is that of a name in a directory that is there, whether or
not there is something of this name. It stays placed there whatever is added (`Placed.mono`), and no
path is placed at two locations of file systems that have the same links (`Placed.unique`). `Spares`
says that one file system differs from another one in nothing but what is at a place and below. -/

namespace Playground.Machine.FileSystem

variable {fs fs' fs₁ : FileSystem} {here l l' m : Location} {path file : String} {mode : Nat}
  {follow : Bool}

/-! ## Placed paths -/

structure Placed (fs : FileSystem) (here : Location) (path : String) (l : Location) : Prop where
  ne_empty : path ≠ ""
  fits : path.utf8ByteSize ≤ maxPathSize
  no_slash : Path.endsInSlash path = false
  way : ∃ front name links directory, Path.names path = front ++ [name] ∧ IsStep name ∧
    Leads fs maxLinks (origin here path) front links directory ∧
    fs.directoryFault directory = none ∧ l = directory ++ [name]

theorem Placed.directoryFault_dropLast (h : Placed fs here path l) :
    fs.directoryFault l.dropLast = none := by
  obtain ⟨front, name, links, directory, -, -, -, hdir, rfl⟩ := h.way
  rwa [List.dropLast_concat]

theorem Placed.mono (h : Placed fs here path l) (hw : Within fs fs') : Placed fs' here path l := by
  obtain ⟨front, name, links, directory, hnames, hstep, hleads, hdir, rfl⟩ := h.way
  obtain ⟨mode, hm⟩ := directoryFault_eq_none_iff.1 (hw.directoryFault hdir)
  exact ⟨h.ne_empty, h.fits, h.no_slash, front, name, links, directory, hnames, hstep,
    hleads.mono hw (linkAt?_eq_none_of_directory hm), hw.directoryFault hdir, rfl⟩

theorem Placed.unique (h : Placed fs here path l) (h' : Placed fs' here path l')
    (hlinks : ∀ m, fs'.linkAt? m = fs.linkAt? m) : l' = l := by
  obtain ⟨front, name, links, directory, hnames, -, hleads, -, rfl⟩ := h.way
  obtain ⟨front', name', links', directory', hnames', -, hleads', -, rfl⟩ := h'.way
  obtain ⟨rfl, hlast⟩ := List.append_inj' (hnames.symm.trans hnames') rfl
  obtain ⟨-, rfl⟩ := hleads.unique hlinks hleads'
  rw [hlast]

theorem Placed.locateNew_eq (h : Placed fs here path l) :
    fs.locateNew here path false = .ok l := by
  obtain ⟨front, name, links, directory, hnames, hstep, hleads, hdir, rfl⟩ := h.way
  refine locateNew_eq_ok_iff.2 ⟨h.ne_empty, h.fits, ?_⟩
  rw [hnames, hleads.walk_append (.inl (by simp)), walk_last hdir hstep]

theorem Placed.locate_eq (h : Placed fs here path l) : fs.locate here path false = .ok l := by
  rw [locate_eq_locateNew h.no_slash, h.locateNew_eq]

theorem Placed.leadsTo (h : Placed fs here path l) (hl : fs.linkAt? l = none) :
    LeadsTo fs here path l := by
  obtain ⟨front, name, links, directory, hnames, hstep, hleads, hdir, rfl⟩ := h.way
  refine ⟨links, ?_⟩
  rw [hnames]
  exact hleads.step hdir hstep hl

theorem Placed.locate_follow_eq (h : Placed fs here path l) (hl : fs.linkAt? l = none) :
    fs.locate here path true = .ok l := by
  obtain ⟨links, hleads⟩ := h.leadsTo hl
  rw [locate_eq_locateNew h.no_slash]
  exact locateNew_eq_ok_iff.2 ⟨h.ne_empty, h.fits, hleads.walk_eq⟩

/-- A directory can be made at a place where there is nothing, if nothing stands in the way. -/
theorem Placed.makeDirectory_eq (h : Placed fs here path l) (hn : fs.node? l = none)
    (ho : fs.obstacle l = none) :
    fs.makeDirectory here path mode = .ok (fs.put l ⟨.directory, mode⟩) :=
  make_eq_ok_iff.2 ⟨l, h.locateNew_eq, hn, ho, rfl⟩

/-- Where a path with a last name of its own is looked up, it is placed. -/
theorem placed_of_locateNew {front : List String} {name : String}
    (h : fs.locateNew here path false = .ok l) (hnames : Path.names path = front ++ [name])
    (hdot : name ≠ ".") (hup : name ≠ "..") (hslash : Path.endsInSlash path = false) :
    Placed fs here path l := by
  obtain ⟨hne, hsize, hwalk⟩ := locateNew_eq_ok_iff.1 h
  rw [hnames] at hwalk
  obtain ⟨links, directory, hleads, hlast⟩ := exists_leads_of_walk hwalk (.inl (by simp))
  have hdir := directoryFault_of_walk hlast
  have hstep := ((step_of_walk hlast).resolve_left hdot).resolve_left hup
  rw [walk_last hdir hstep] at hlast
  cases hlast
  exact ⟨hne, hsize, hslash, front, name, links, directory, hnames, hstep, hleads, hdir, rfl⟩

/-- Where an absolute path is does not depend on where it is looked up from. -/
theorem Placed.of_isAbsolute {base : Location} (h : Placed fs here path l)
    (habs : Path.isAbsolute path = true) : Placed fs base path l := by
  obtain ⟨front, name, links, directory, hnames, hstep, hleads, hdir, rfl⟩ := h.way
  refine ⟨h.ne_empty, h.fits, h.no_slash, front, name, links, directory, hnames, hstep, ?_, hdir,
    rfl⟩
  rwa [origin_of_isAbsolute habs] at hleads ⊢

/-! ## Files in a directory that is placed -/

/-- A name in a directory that is there is placed one name below it. -/
theorem Placed.join (h : Placed fs here path l) (hdir : fs.directoryFault l = none)
    (hfile : Path.IsSingle file) (hstep : IsStep file)
    (hfits : (Path.join path file).utf8ByteSize ≤ maxPathSize) :
    Placed fs here (Path.join path file) (l ++ [file]) := by
  obtain ⟨mode, hm⟩ := directoryFault_eq_none_iff.1 hdir
  obtain ⟨links, hleads⟩ := h.leadsTo (linkAt?_eq_none_of_directory hm)
  refine ⟨Path.join_ne_empty hfile, hfits, Path.endsInSlash_join hfile, _, file, links, l,
    Path.names_join hfile, hstep, ?_, hdir, rfl⟩
  rwa [origin_congr (Path.isAbsolute_join hfile)]

/-- The only location for a file in a directory is one name below it, unless there is a link. That
    is so in another file system with the same links too. -/
theorem Placed.locateNew_join (h : Placed fs here path l) (hl : fs.linkAt? l = none)
    (hlinks : ∀ m, fs'.linkAt? m = fs.linkAt? m) (hfile : Path.IsSingle file) (hdot : file ≠ ".")
    (hup : file ≠ "..") (hlink : fs'.linkAt? (l ++ [file]) = none)
    (hm : fs'.locateNew here (Path.join path file) true = .ok m) : m = l ++ [file] := by
  obtain ⟨links, hleads⟩ := h.leadsTo hl
  obtain ⟨-, -, hwalk⟩ := locateNew_eq_ok_iff.1 hm
  rw [Path.names_join hfile] at hwalk
  obtain ⟨links', there, hleads', hlast⟩ := exists_leads_of_walk hwalk (.inr rfl)
  rw [origin_congr (Path.isAbsolute_join hfile)] at hleads'
  obtain ⟨-, rfl⟩ := hleads.unique hlinks hleads'
  have hstep := ((step_of_walk hlast).resolve_left hdot).resolve_left hup
  rw [walk_down (directoryFault_of_walk hlast) hstep hlink, walk_nil] at hlast
  exact (Except.ok.inj hlast).symm

/-! ## Empty directories -/

def IsEmptyDirectory (fs : FileSystem) (l : Location) : Prop :=
  fs.directoryFault l = none ∧ ∀ m, l <+: m → m ≠ l → fs.node? m = none

/-- A directory that is put where nothing was is empty. -/
theorem isEmptyDirectory_put (ht : fs.IsTree) (hn : fs.node? l = none) :
    IsEmptyDirectory (fs.put l ⟨.directory, mode⟩) l := by
  refine ⟨directoryFault_eq_none_of_node? node?_put_self, fun m hm hne => ?_⟩
  rw [node?_put_of_ne hne, ht.node?_eq_none_of_prefix hn hm]

/-! ## Other file systems -/

/-- Nothing is different but at a location and below, where there is a directory or nothing. -/
structure Spares (fs : FileSystem) (l : Location) (fs' : FileSystem) : Prop where
  outside : ∀ m, ¬l <+: m → fs'.node? m = fs.node? m
  closed : fs'.closed = fs.closed
  left : fs'.directoryFault l = none ∨ ∀ m, l <+: m → fs'.node? m = none

theorem Spares.trans {fs'' : FileSystem} (h : Spares fs l fs') (h' : Spares fs' l fs'') :
    Spares fs l fs'' :=
  ⟨fun m hm => (h'.outside m hm).trans (h.outside m hm), h'.closed.trans h.closed, h'.left⟩

/-- What was there is still there, if nothing was at the location and below. -/
theorem Spares.within (h : Spares fs l fs') (hl : ∀ m, l <+: m → fs.node? m = none) :
    Within fs fs' := by
  intro m n hm
  rw [h.outside m, hm]
  intro hlm
  rw [hl m hlm] at hm
  cases hm

theorem Spares.linkAt?_eq_none (h : Spares fs l fs') : fs'.linkAt? l = none := by
  rcases h.left with hdir | hnone
  · obtain ⟨mode, hm⟩ := directoryFault_eq_none_iff.1 hdir
    exact linkAt?_eq_none_of_directory hm
  · exact linkAt?_eq_none_of_node?_eq_none (hnone l (List.prefix_refl l))

theorem spares_put (fs : FileSystem) (l : Location) (mode : Nat) :
    Spares fs l (fs.put l ⟨.directory, mode⟩) where
  outside m hm := node?_put_of_ne (by rintro rfl; exact hm (List.prefix_refl _))
  closed := rfl
  left := .inl (directoryFault_eq_none_of_node? node?_put_self)

/-- What is put below a directory is in it. -/
theorem spares_put_below {n : Node} (hdir : fs.directoryFault l = none) (hm : l <+: m)
    (hne : m ≠ l) : Spares fs l (fs.put m n) where
  outside k hk := node?_put_of_ne (by rintro rfl; exact hk hm)
  closed := rfl
  left := .inl (by rw [directoryFault_congr (node?_put_of_ne hne.symm), hdir])

theorem spares_put_twice {n n' : Node} (hdir : fs.directoryFault l = none) (hm : l <+: m)
    (hne : m ≠ l) : Spares fs l ((fs.put m n).put m n') := by
  have hput : (fs.put m n).directoryFault l = none := by
    rw [directoryFault_congr (node?_put_of_ne hne.symm), hdir]
  exact (spares_put_below hdir hm hne).trans (spares_put_below hput hm hne)

/-- A file that is written below a directory that is there. -/
theorem Written.spares (h : Written fs m fs') (hl : fs.directoryFault l = none) (hm : l <+: m) :
    Spares fs l fs' where
  outside k hk := h.node?_of_ne (by rintro rfl; exact hk hm)
  closed := h.closed
  left := by
    refine .inl ?_
    rw [directoryFault_congr (h.node?_of_ne ?_), hl]
    rintro rfl
    exact h.no_directory hl

end Playground.Machine.FileSystem
