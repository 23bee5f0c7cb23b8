import Playground.Proofs.Machine.Place
import Playground.Proofs.Machine.Retry
import Playground.Workspace

set_option autoImplicit false

/-! # Where workspaces are

The name of a workspace is one name in its root, whatever the identifier, as long as that is no path
itself. So a workspace that could be made is one name below the place that its root leads to. -/

namespace Playground.Workspace

open Machine FileSystem

variable {fs fs' : FileSystem} {here l : Location} {root id : String} {mode : Nat}

/-- The name of the workspace with an identifier. -/
def nameOf (id : String) : String := "polyglot-" ++ id

theorem isSingle_nameOf (h : '/' ∉ id.toList) : Path.IsSingle (nameOf id) :=
  Path.IsSingle.append ⟨by decide, by decide⟩ h

theorem nameOf_ne (id : String) : nameOf id ≠ "." ∧ nameOf id ≠ ".." := by
  have hfirst : ∀ name, nameOf id = name → name.toList.head? = some 'p' := by
    rintro _ rfl
    rw [nameOf, String.toList_append]
    rfl
  exact ⟨fun h => absurd (hfirst _ h) (by decide), fun h => absurd (hfirst _ h) (by decide)⟩

theorem nameOf_injective {id' : String} (h : nameOf id = nameOf id') : id = id' := by
  have hlist := congrArg String.toList h
  rw [nameOf, nameOf, String.toList_append, String.toList_append] at hlist
  exact String.toList_inj.1 (List.append_cancel_left hlist)

theorem names_pathOf (h : '/' ∉ id.toList) :
    Path.names (pathOf root id) = Path.names root ++ [nameOf id] :=
  Path.names_join (isSingle_nameOf h)

theorem isAbsolute_pathOf (h : '/' ∉ id.toList) :
    Path.isAbsolute (pathOf root id) = Path.isAbsolute root :=
  Path.isAbsolute_join (isSingle_nameOf h)

theorem endsInSlash_pathOf (h : '/' ∉ id.toList) : Path.endsInSlash (pathOf root id) = false :=
  Path.endsInSlash_join (isSingle_nameOf h)

/-- The location of a workspace is one name below that of its root. -/
theorem placed_pathOf (hid : '/' ∉ id.toList)
    (h : fs.locateNew here (pathOf root id) false = .ok l) : Placed fs here (pathOf root id) l :=
  placed_of_locateNew h (names_pathOf hid) (nameOf_ne id).1 (nameOf_ne id).2
    (endsInSlash_pathOf hid)

/-- Where a root leads to a directory, its workspaces are below it, if their names are not too
    long. -/
theorem placed_of_leadsTo (hid : '/' ∉ id.toList) (hroot : LeadsTo fs here root l)
    (hdir : fs.directoryFault l = none) (hpath : (pathOf root id).utf8ByteSize ≤ maxPathSize)
    (hname : (nameOf id).utf8ByteSize ≤ maxNameSize) :
    Placed fs here (pathOf root id) (l ++ [nameOf id]) := by
  obtain ⟨links, hl⟩ := hroot
  refine ⟨Path.join_ne_empty (isSingle_nameOf hid), hpath, endsInSlash_pathOf hid, _, nameOf id,
    links, l, names_pathOf hid, ⟨hname, (nameOf_ne id).1, (nameOf_ne id).2⟩, ?_, hdir, rfl⟩
  rwa [origin_congr (isAbsolute_pathOf hid)]

/-- A workspace that has been made was not there. -/
theorem placed_of_makeDirectory (hid : '/' ∉ id.toList)
    (h : fs.makeDirectory here (pathOf root id) mode = .ok fs') :
    ∃ l, Placed fs here (pathOf root id) l ∧ fs.node? l = none ∧ fs.obstacle l = none ∧
      fs' = fs.put l ⟨.directory, mode⟩ := by
  obtain ⟨l, hl, hn, ho, rfl⟩ := make_eq_ok_iff.1 h
  exact ⟨l, placed_pathOf hid hl, hn, ho, rfl⟩

/-- The names of source files are single names. -/
theorem isSingle_of_sourceName? {t : Toolchain} {name : String} (h : t.sourceName? = some name) :
    Path.IsSingle name ∧ name ≠ "." ∧ name ≠ ".." := by
  cases t with
  | python => cases h
  | java =>
      cases h
      exact ⟨⟨by decide, by decide⟩, by decide, by decide⟩
  | cpp =>
      cases h
      exact ⟨⟨by decide, by decide⟩, by decide, by decide⟩

/-! ## Files with one directory -/

/-- A path of one name leads to what is directly below the top. -/
theorem leadsTo_top {root name : String} (hnames : Path.names root = [name]) (hstep : IsStep name)
    (htop : fs.directoryFault [] = none) (hdir : fs.directoryFault [name] = none) :
    LeadsTo fs [] root [name] := by
  have horigin : origin [] root = [] := ite_self _
  refine ⟨maxLinks, ?_⟩
  rw [hnames, horigin]
  exact .down htop hstep (linkAt?_eq_none_of_directoryFault hdir) .nil

def oneDirectory (name : String) : FileSystem :=
  ⟨[([], ⟨.directory, 0o755⟩), ([name], ⟨.directory, 0o755⟩)], []⟩

/-- The directory is found by its name, with a slash before it or without one. -/
theorem leadsTo_oneDirectory (hnames : Path.names root = ["tmp"]) :
    LeadsTo (oneDirectory "tmp") [] root ["tmp"] :=
  leadsTo_top hnames ⟨by decide, by decide, by decide⟩ rfl rfl

theorem createTree_oneDirectory :
    (oneDirectory "tmp").createTree [] "/tmp" 0o755 = (.ok (), oneDirectory "tmp") :=
  createTree_of_leadsTo (by decide) (by decide) (leadsTo_oneDirectory (by decide)) rfl

theorem placed_oneDirectory :
    Placed (oneDirectory "tmp") [] (pathOf "/tmp" "7") ["tmp", "polyglot-7"] :=
  placed_of_leadsTo (by decide) (leadsTo_oneDirectory (by decide)) rfl (by decide) (by decide)

/-! ## A path that goes up -/

theorem isStep_new : IsStep "new" := ⟨by decide, by decide, by decide⟩

theorem leads_new_up {names : List String} {links : Nat} (hroot : fs.directoryFault [] = none)
    (hnew : fs.directoryFault ["new"] = none) (rest : Leads fs maxLinks [] names links l) :
    Leads fs maxLinks [] ("new" :: ".." :: names) links l :=
  .down hroot isStep_new (linkAt?_eq_none_of_directoryFault hnew) (.up hnew rest)

theorem leadsTo_new_up (hroot : fs.directoryFault [] = none)
    (hnew : fs.directoryFault ["new"] = none) : LeadsTo fs [] "/new/.." [] := by
  have hnames : Path.names "/new/.." = ["new", ".."] := by decide
  refine ⟨maxLinks, ?_⟩
  rw [hnames]
  exact leads_new_up hroot hnew .nil

theorem makeDirectory_past_new {path : String} {more : List String} (hne : path ≠ "")
    (hsize : path.utf8ByteSize ≤ maxPathSize) (hnames : Path.names path = "new" :: ".." :: more)
    (hroot : fs.directoryFault [] = none) (hnew : fs.node? ["new"] = none) :
    fs.makeDirectory [] path mode = .error .notFound := by
  have horigin : origin [] path = [] := ite_self _
  refine makeDirectory_past_missing hne hsize hnames (by simp) isStep_new ?_ ?_
  · rwa [horigin]
  · rwa [horigin]

/-- The directory that the path goes up from is made. -/
theorem makeTree_new_up {paths : List String} (hroot : fs.directoryFault [] = none)
    (hnew : fs.node? ["new"] = none) (ho : fs.obstacle ["new"] = none) :
    fs.makeTree [] mode ("/new/.." :: "/new" :: paths) =
      (.ok (), fs.put ["new"] ⟨.directory, mode⟩) := by
  have hplaced : Placed fs [] "/new" ["new"] :=
    ⟨by decide, by decide, by decide, [], "new", maxLinks, [], by decide, isStep_new, .nil, hroot,
      rfl⟩
  have hnames : Path.names "/new/.." = ["new", ".."] := by decide
  have hroot' : (fs.put ["new"] ⟨.directory, mode⟩).directoryFault [] = none :=
    (directoryFault_congr (node?_put_of_ne (by simp))).trans hroot
  have hnew' : (fs.put ["new"] ⟨.directory, mode⟩).directoryFault ["new"] = none :=
    directoryFault_eq_none_of_node? node?_put_self
  refine makeTree_of_above (by decide)
    (makeDirectory_past_new (by decide) (by decide) hnames hroot hnew) ?_ ?_
  · rw [makeTree, if_neg (by decide), hplaced.makeDirectory_eq hnew ho]
  · exact isDirectory_iff.2 ⟨by decide, by decide, [], leadsTo_new_up hroot' hnew', hroot'⟩

end Playground.Workspace
