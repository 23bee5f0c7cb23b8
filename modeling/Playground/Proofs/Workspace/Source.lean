import Playground.Proofs.Workspace.Location

set_option autoImplicit false

/-! # A workspace with its source

A compiler is started in a workspace in which there is nothing but the source (`HoldsOnly`). The
path of the source leads to it from there if the root of the workspaces is absolute: then it leads to
the same place from everywhere. If the root is relative, the path begins with names that are not in
the workspace, so from there it leads nowhere, unless it goes up first. -/

namespace Playground.Workspace

open Machine FileSystem

variable {fs fs' : FileSystem} {here k l : Location} {root id path file : String}
  {octets : List UInt8} {mode : Nat}

/-- A directory with one file in it and nothing else. -/
structure HoldsOnly (fs : FileSystem) (k : Location) (file : String) (octets : List UInt8) :
    Prop where
  directory : fs.directoryFault k = none
  written : ∃ mode, fs.node? (k ++ [file]) = some ⟨.file octets, mode⟩
  alone : ∀ m, k <+: m → m ≠ k → m ≠ k ++ [file] → fs.node? m = none

/-- A file that was written in an empty directory is alone in it. -/
theorem holdsOnly_of_write (hp : Placed fs here path k) (he : IsEmptyDirectory fs k)
    (hfile : Path.IsSingle file ∧ file ≠ "." ∧ file ≠ "..")
    (h : fs.write here (Path.join path file) octets mode = .ok fs') : HoldsOnly fs' k file octets := by
  obtain ⟨hdir, hempty⟩ := he
  obtain ⟨hsingle, hdot, hup⟩ := hfile
  have hne : k ++ [file] ≠ k := by simp
  have hnone : fs.node? (k ++ [file]) = none := hempty _ (List.prefix_append _ _) hne
  have hput : fs' = (fs.put (k ++ [file]) ⟨.file [], mode⟩).put (k ++ [file])
      ⟨.file octets, mode⟩ := by
    obtain ⟨l, hl, -⟩ := written_of_write h
    obtain rfl := hp.locateNew_join (linkAt?_eq_none_of_directoryFault hdir) (fun _ => rfl)
      hsingle hdot hup (linkAt?_eq_none_of_node?_eq_none hnone) hl
    rw [write_of_absent hl hnone (Path.endsInSlash_join hsingle)] at h
    cases hobstacle : fs.obstacle (k ++ [file]) with
    | some e =>
        rw [hobstacle] at h
        cases h
    | none =>
        rw [hobstacle] at h
        exact (Except.ok.inj h).symm
  subst hput
  refine ⟨?_, ⟨mode, node?_put_self⟩, fun m hm hk hf => ?_⟩
  · rw [directoryFault_congr (node?_put_of_ne hne.symm),
      directoryFault_congr (node?_put_of_ne hne.symm), hdir]
  · rw [node?_put_of_ne hf, node?_put_of_ne hf]
    exact hempty m hm hk

namespace HoldsOnly

variable (h : HoldsOnly fs k file octets)

include h

theorem linkAt?_eq_none {m : Location} (hm : k <+: m) : fs.linkAt? m = none := by
  by_cases hk : m = k
  · subst hk
    exact linkAt?_eq_none_of_directoryFault h.directory
  · by_cases hf : m = k ++ [file]
    · obtain ⟨mode, hmode⟩ := h.written
      simp [linkAt?, hf, hmode]
    · exact linkAt?_eq_none_of_node?_eq_none (h.alone m hm hk hf)

/-- There is no directory below. -/
theorem eq_of_directoryFault {m : Location} (hm : k <+: m) (hdir : fs.directoryFault m = none) :
    m = k := by
  by_contra hk
  by_cases hf : m = k ++ [file]
  · obtain ⟨mode, hmode⟩ := h.written
    simp [directoryFault, hf, hmode] at hdir
  · exact directoryFault_ne_none (h.alone m hm hk hf) hdir

theorem find_eq {base : Location} (hp : Placed fs base path (k ++ [file])) :
    ∃ mode, fs.find base path true = .ok (k ++ [file], ⟨.file octets, mode⟩) := by
  obtain ⟨mode, hmode⟩ := h.written
  have hlink : fs.linkAt? (k ++ [file]) = none := h.linkAt?_eq_none (List.prefix_append _ _)
  exact ⟨mode, find_eq_ok_iff.2 ⟨hp.locate_follow_eq hlink, hmode⟩⟩

/-- From within, a relative path that goes through another directory leads nowhere. -/
theorem find_eq_error (hsingle : Path.IsSingle file) (hid : '/' ∉ id.toList)
    (hrel : Path.isAbsolute root = false) (hup : ".." ∉ Path.names root) :
    ∃ e, fs.find k (Path.join (pathOf root id) file) true = .error e := by
  cases hfind : fs.find k (Path.join (pathOf root id) file) true with
  | error e => exact ⟨e, rfl⟩
  | ok found =>
      obtain ⟨l, n⟩ := found
      have hlocate := (find_eq_ok_iff.1 hfind).1
      rw [locate_eq_locateNew (Path.endsInSlash_join hsingle)] at hlocate
      obtain ⟨-, -, hwalk⟩ := locateNew_eq_ok_iff.1 hlocate
      have horigin : origin k (Path.join (pathOf root id) file) = k := by
        rw [origin_congr (Path.isAbsolute_join hsingle), origin_congr (isAbsolute_pathOf hid)]
        exact if_neg (by simp [hrel])
      rw [horigin, Path.names_join hsingle, names_pathOf hid] at hwalk
      obtain ⟨links, there, hleads, hlast⟩ := exists_leads_of_walk hwalk (.inr rfl)
      obtain ⟨left, mid, hfront, hback⟩ := hleads.of_append
      -- all this goes down from the directory, and ends in it all the same
      have hmid : k <+: mid := hfront.isPrefix (fun m => h.linkAt?_eq_none) hup (List.prefix_refl k)
      obtain ⟨hdot, -⟩ | ⟨hdots, -⟩ | ⟨-, -, hnil⟩ | ⟨_, _, -, -, link, -⟩ := hback.of_cons
      · exact absurd hdot (nameOf_ne id).1
      · exact absurd hdots (nameOf_ne id).2
      · cases hnil
        have hthere := h.eq_of_directoryFault (hmid.trans (List.prefix_append _ _))
          (directoryFault_of_walk hlast)
        have hlength := hmid.length_le
        rw [← hthere, List.length_append, List.length_singleton] at hlength
        omega
      · rw [h.linkAt?_eq_none (hmid.trans (List.prefix_append _ _))] at link
        cases link

end HoldsOnly

end Playground.Workspace
