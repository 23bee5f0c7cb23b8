import Playground.Machine.Owner
import Playground.Proofs.Machine.Tree
import Playground.Proofs.Path

set_option autoImplicit false

/-! # Looking programs up

A program that the machine has looked up is a file that may be started, and the path that was
returned leads to it from the directory of the owner (`exists_findsProgram_of_locateProgram`). It
leads to it from everywhere if it is absolute (`FindsProgram.of_isAbsolute`), and it still does after
nodes have been added (`FindsProgram.mono`). A path that was looked up is absolute, unless the
program is a name alone and a directory of the search path is not (`IsAnchored.isAbsolute`). -/

namespace Playground.Machine

namespace Node

/-- Is it a file that may be started? -/
def isProgram : Node → Bool
  | ⟨.file _, mode⟩ => mode &&& 0o111 != 0
  | _ => false

/-- Is it a file that names an interpreter? -/
def isScript : Node → Bool
  | ⟨.file contents, _⟩ => [0x23, 0x21].isPrefixOf contents
  | _ => false

end Node

/-! ## Where a path leads to a program -/

namespace FileSystem

variable {fs fs' : FileSystem} {base base' l : Location} {path : String} {n : Node} {follow : Bool}

/-- From a directory, a path leads to a file that may be started. -/
structure FindsProgram (fs : FileSystem) (base : Location) (path : String) (l : Location)
    (n : Node) : Prop where
  find_eq : fs.find base path true = .ok (l, n)
  isProgram : n.isProgram = true

/-- A path whose names lead to a file that may be started. -/
theorem findsProgram_of_leads {links : Nat} (hne : path ≠ "")
    (hsize : path.utf8ByteSize ≤ maxPathSize) (hends : Path.endsInSlash path = false)
    (hleads : Leads fs maxLinks (origin base path) (Path.names path) links l)
    (hn : fs.node? l = some n) (hprogram : n.isProgram = true) :
    FindsProgram fs base path l n := by
  refine ⟨find_eq_ok_iff.2 ⟨?_, hn⟩, hprogram⟩
  rw [locate_eq_locateNew hends]
  exact locateNew_eq_ok_iff.2 ⟨hne, hsize, hleads.walk_eq⟩

theorem isExecutable_iff :
    fs.isExecutable base path = true ↔ ∃ l n, FindsProgram fs base path l n := by
  unfold isExecutable
  constructor
  · intro h
    split at h
    · next l contents mode hfind => exact ⟨l, ⟨.file contents, mode⟩, hfind, h⟩
    · cases h
  · rintro ⟨l, ⟨entry, mode⟩, hfind, hprogram⟩
    rw [hfind]
    cases entry with
    | file contents => exact hprogram
    | _ => cases hprogram

theorem linkAt?_eq_none_of_isProgram (hn : fs.node? l = some n) (h : n.isProgram = true) :
    fs.linkAt? l = none := by
  obtain ⟨entry, mode⟩ := n
  cases entry with
  | file contents => simp [linkAt?, hn]
  | _ => cases h

/-- An absolute path leads to the same node from everywhere. -/
theorem find_of_isAbsolute (h : Path.isAbsolute path = true) :
    fs.find base path follow = fs.find base' path follow := by
  simp only [find, locate, h, if_true]

theorem FindsProgram.of_isAbsolute (h : FindsProgram fs base path l n)
    (habs : Path.isAbsolute path = true) : FindsProgram fs base' path l n :=
  ⟨(find_of_isAbsolute habs).trans h.find_eq, h.isProgram⟩

/-- Nodes that are added do not change which program a path leads to. -/
theorem FindsProgram.mono (h : FindsProgram fs base path l n) (hw : Within fs fs') :
    FindsProgram fs' base path l n := by
  obtain ⟨hlocate, hn⟩ := find_eq_ok_iff.1 h.find_eq
  obtain ⟨hne, hsize, hwalk⟩ := locate_eq_ok_iff.1 hlocate
  obtain ⟨links, hleads⟩ := exists_leads_of_walk_eq hwalk
  have hlink : fs'.linkAt? l = none := linkAt?_eq_none_of_isProgram (hw l n hn) h.isProgram
  exact ⟨find_eq_ok_iff.2 ⟨locate_eq_ok_iff.2 ⟨hne, hsize, (hleads.mono hw hlink).walk_eq⟩,
    hw l n hn⟩, h.isProgram⟩

end FileSystem

/-! ## Looking up -/

section Candidates

variable {fs fs' : FileSystem} {here : Location} {searchPath : List String}
  {program path : String}

theorem mem_candidates_iff :
    path ∈ candidates here searchPath program ↔ hasNul program = false ∧
      ∃ directory, path = Path.join directory program ∧
        (1 < (Path.parts program).length ∧ directory = State.pathOf here ∨
          (Path.parts program).length ≤ 1 ∧ directory ∈ searchPath) := by
  unfold candidates
  split
  · next h => simp [h]
  · next hnul =>
      rw [Bool.not_eq_true] at hnul
      split
      · next hparts => simp [hnul, hparts, Nat.not_le.2 hparts]
      · next hparts => simp [hnul, hparts, Nat.le_of_not_lt hparts, and_comm, eq_comm]

theorem FileSystem.locateProgram_spec (h : fs.locateProgram here searchPath program = some path) :
    fs.isExecutable here path = true ∧ path ∈ candidates here searchPath program :=
  ⟨by simpa using List.find?_some h, List.mem_of_find?_eq_some h⟩

/-- A program that is found in the first place is found there, whatever is added. -/
theorem FileSystem.locateProgram_of_first
    (hfirst : (candidates here searchPath program).head? = some path)
    (hfound : fs.isExecutable here path = true) (hw : Within fs fs') :
    fs'.locateProgram here searchPath program = some path := by
  obtain ⟨l, n, hfinds⟩ := isExecutable_iff.1 hfound
  have hexecutable := isExecutable_iff.2 ⟨l, n, hfinds.mono hw⟩
  obtain ⟨others, hcandidates⟩ := List.head?_eq_some_iff.1 hfirst
  rw [locateProgram, hcandidates, List.find?_cons, hexecutable]

end Candidates

namespace State

open FileSystem (FindsProgram)

variable {m : State} {program path : String} {l : Location} {n : Node}

theorem isAbsolute_pathOf (l : Location) : Path.isAbsolute (pathOf l) = true := by
  cases l with
  | nil => decide
  | cons name l => simp [pathOf, Path.isAbsolute, String.join_cons, String.toList_append]

/-- What was looked up may be started, and it was looked for in the owner's directory, or in one of
    the search path if it is a name alone. -/
theorem locateProgram_spec (h : m.locateProgram program = some path) :
    m.files.isExecutable m.directory path = true ∧
      ∃ directory, path = Path.join directory program ∧
        (directory = pathOf m.directory ∨
          (Path.parts program).length ≤ 1 ∧ directory ∈ m.searchPath) := by
  obtain ⟨hexecutable, hmem⟩ := FileSystem.locateProgram_spec h
  obtain ⟨-, directory, hpath, ⟨-, hdir⟩ | hsearched⟩ := mem_candidates_iff.1 hmem
  · exact ⟨hexecutable, directory, hpath, .inl hdir⟩
  · exact ⟨hexecutable, directory, hpath, .inr hsearched⟩

theorem exists_findsProgram_of_locateProgram (h : m.locateProgram program = some path) :
    ∃ l n, FindsProgram m.files m.directory path l n :=
  FileSystem.isExecutable_iff.1 (locateProgram_spec h).1

/-- A path with several parts is looked for in the owner's directory. -/
theorem locateProgram_of_parts (hnul : hasNul program = false)
    (hparts : 1 < (Path.parts program).length)
    (h : FindsProgram m.files m.directory (Path.join (pathOf m.directory) program) l n) :
    m.locateProgram program = some (Path.join (pathOf m.directory) program) := by
  have hexecutable := FileSystem.isExecutable_iff.2 ⟨l, n, h⟩
  exact FileSystem.locateProgram_of_first (by simp [candidates, hnul, hparts]) hexecutable
    (.refl m.files)

/-- An absolute path is looked up as it is written. -/
theorem eq_of_locateProgram (habs : Path.isAbsolute program = true)
    (h : m.locateProgram program = some path) : path = program := by
  obtain ⟨-, directory, rfl, -⟩ := locateProgram_spec h
  exact Path.join_of_isAbsolute habs

/-- Where a program is found does not depend on the directory that its path is followed from: the
    path is not one that begins there, and neither are the directories that a name alone is looked
    for in. -/
structure IsAnchored (m : State) (program : String) : Prop where
  not_here : Path.startsHere program = false
  searched : (Path.parts program).length ≤ 1 →
    ∀ directory ∈ m.searchPath, Path.isAbsolute directory = true

theorem IsAnchored.isAbsolute (h : IsAnchored m program)
    (hl : m.locateProgram program = some path) : Path.isAbsolute path = true := by
  obtain ⟨-, directory, rfl, rfl | ⟨hparts, hd⟩⟩ := locateProgram_spec hl
  · exact Path.isAbsolute_join_of_left (isAbsolute_pathOf m.directory)
  · exact Path.isAbsolute_join_of_left (h.searched hparts directory hd)

/-! ## Starting -/

/-- When a process is to become a program that is there, then only the interpreter that the program
    names can be missing. -/
theorem isScript_of_load_eq {base : Location} {depth : Nat} {arguments : List (List UInt8)}
    (h : FindsProgram m.files base path l n)
    (hload : m.load base depth path arguments = .error .notFound) : n.isScript = true := by
  obtain ⟨hfind, hprogram⟩ := h
  obtain ⟨entry, mode⟩ := n
  cases entry with
  | file contents =>
      have hmode : mode &&& 0o111 ≠ 0 := by simpa [Node.isProgram] using hprogram
      rw [load, hfind] at hload
      simp only [hmode, if_false] at hload
      split at hload
      · cases hload
      · split at hload
        · next hscript => exact hscript
        · cases hload
  | _ => cases hprogram

end State

end Playground.Machine
