import Mathlib.Data.List.Infix
import Playground.Machine.FileAction
import Playground.Proofs.Machine.Walk

set_option autoImplicit false

/-! # Trees of nodes

What the operations on a file system do to its nodes. Each of them puts one node or cuts off one
tree, and `IsTree` says that every node is in a directory. So where there is nothing, there is
nothing below. -/

namespace Playground.Machine.FileSystem

variable {fs fs' : FileSystem} {base l m : Location} {path target : String} {n : Node} {mode : Nat}
  {follow : Bool}

/-! ## Putting and cutting -/

theorem lookup_filter (entries : List (Location × Node)) (keep : Location → Bool) (m : Location) :
    (entries.filter fun entry => keep entry.1).lookup m =
      if keep m then entries.lookup m else none := by
  induction entries with
  | nil => simp
  | cons entry entries ih =>
      obtain ⟨l, n⟩ := entry
      by_cases hm : m = l
      · subst hm
        cases hk : keep m with
        | true => simp [hk]
        | false =>
            rw [List.filter_cons_of_neg (by simpa using hk), ih, hk]
            simp
      · have hne : (m == l) = false := by simpa using hm
        rw [List.lookup_cons, hne]
        cases hk : keep l with
        | true =>
            rw [List.filter_cons_of_pos (by simpa using hk), List.lookup_cons, hne]
            exact ih
        | false =>
            rw [List.filter_cons_of_neg (by simpa using hk)]
            exact ih

theorem node?_put (fs : FileSystem) (l : Location) (n : Node) (m : Location) :
    (fs.put l n).node? m = if m = l then some n else fs.node? m := by
  unfold node? put
  rw [List.lookup_cons]
  by_cases hm : m = l
  · simp [hm]
  · have hne : (m == l) = false := by simpa using hm
    rw [hne, if_neg hm]
    show List.lookup m (fs.nodes.filter fun entry => entry.1 != l) = _
    rw [lookup_filter fs.nodes (· != l), if_pos (by simpa using hm)]

theorem node?_put_self : (fs.put l n).node? l = some n := by rw [node?_put, if_pos rfl]

theorem node?_put_of_ne (h : m ≠ l) : (fs.put l n).node? m = fs.node? m := by
  rw [node?_put, if_neg h]

theorem node?_cut (fs : FileSystem) (l m : Location) :
    (fs.cut l).node? m = if l <+: m then none else fs.node? m := by
  unfold node? cut
  rw [lookup_filter fs.nodes fun m => !l.isPrefixOf m]
  by_cases hm : l <+: m
  · simp [List.isPrefixOf_iff_prefix.2 hm, hm]
  · have hfalse : l.isPrefixOf m = false := by
      rw [← Bool.not_eq_true, List.isPrefixOf_iff_prefix]
      exact hm
    simp [hfalse, hm]

theorem nameIn_eq_some_iff {name : String} : nameIn l m = some name ↔ m = l ++ [name] := by
  unfold nameIn
  by_cases hm : m.dropLast = l
  · subst hm
    rw [if_pos (by simp)]
    constructor
    · intro hlast
      obtain ⟨front, rfl⟩ := List.getLast?_eq_some_iff.1 hlast
      simp
    · intro hm
      rw [hm, List.getLast?_concat]
  · rw [if_neg (by simpa using hm)]
    refine ⟨by simp, ?_⟩
    rintro rfl
    exact absurd List.dropLast_concat hm

/-- The names in a directory are those of the nodes that are one name below it. -/
theorem mem_namesIn {name : String} : name ∈ fs.namesIn l ↔ fs.node? (l ++ [name]) ≠ none := by
  unfold namesIn node?
  rw [List.mem_filterMap, ne_eq, List.lookup_eq_none_iff]
  constructor
  · rintro ⟨entry, hentry, hname⟩ hnone
    have hne := hnone entry hentry
    rw [nameIn_eq_some_iff.1 hname] at hne
    simp at hne
  · intro h
    simp only [not_forall] at h
    obtain ⟨entry, hentry, he⟩ := h
    exact ⟨entry, hentry, nameIn_eq_some_iff.2 (by simpa using Eq.symm (by simpa using he))⟩

/-! ## Trees -/

/-- Every node but the root is in a directory. -/
structure IsTree (fs : FileSystem) : Prop where
  parent : ∀ l, l ≠ [] → fs.node? l ≠ none → fs.directoryFault l.dropLast = none

/-- It is enough to look at the nodes one by one. -/
theorem isTree_iff :
    fs.IsTree ↔ ∀ entry ∈ fs.nodes, entry.1 ≠ [] → fs.directoryFault entry.1.dropLast = none := by
  constructor
  · intro h entry hentry hne
    refine h.parent entry.1 hne fun hnone => ?_
    exact absurd (List.lookup_eq_none_iff.1 hnone entry hentry) (by simp)
  · intro h
    refine ⟨fun l hl hn => ?_⟩
    obtain ⟨entry, hentry, he⟩ : ∃ entry ∈ fs.nodes, l = entry.1 := by
      by_contra hno
      refine hn (List.lookup_eq_none_iff.2 fun entry hentry => ?_)
      exact bne_iff_ne.2 fun he => hno ⟨entry, hentry, he⟩
    subst he
    exact h entry hentry hl

instance (fs : FileSystem) : Decidable fs.IsTree := decidable_of_iff _ isTree_iff.symm

theorem directoryFault_eq_none_of_node? (h : fs.node? l = some ⟨.directory, mode⟩) :
    fs.directoryFault l = none :=
  directoryFault_eq_none_iff.2 ⟨mode, h⟩

theorem directoryFault_ne_none (h : fs.node? l = none) : fs.directoryFault l ≠ none := by
  simp [directoryFault, h]

theorem node?_ne_none_of_directoryFault (h : fs.directoryFault l = none) : fs.node? l ≠ none := by
  obtain ⟨mode, hm⟩ := directoryFault_eq_none_iff.1 h
  simp [hm]

/-- What leads down to a node are directories. -/
theorem IsTree.directoryFault_of_prefix (h : fs.IsTree) (hm : fs.node? m ≠ none) (hl : l <+: m)
    (hne : l ≠ m) : fs.directoryFault l = none := by
  induction m using List.reverseRecOn with
  | nil => exact absurd (List.prefix_nil.1 hl) hne
  | append_singleton m name ih =>
      have hdir : fs.directoryFault m = none := by
        simpa using h.parent (m ++ [name]) (by simp) hm
      rcases List.prefix_concat_iff.1 hl with rfl | hl
      · exact absurd rfl hne
      · by_cases hlm : l = m
        · rwa [hlm]
        · exact ih (node?_ne_none_of_directoryFault hdir) hl hlm

/-- Where there is no directory, there is nothing below. -/
theorem IsTree.node?_eq_none (h : fs.IsTree) (hl : fs.directoryFault l ≠ none) (hm : l <+: m)
    (hne : l ≠ m) : fs.node? m = none := by
  by_contra hnode
  exact hl (h.directoryFault_of_prefix hnode hm hne)

theorem IsTree.node?_eq_none_of_prefix (h : fs.IsTree) (hl : fs.node? l = none) (hm : l <+: m) :
    fs.node? m = none := by
  by_cases hne : l = m
  · rwa [← hne]
  · exact h.node?_eq_none (directoryFault_ne_none hl) hm hne

theorem directoryFault_congr (h : fs'.node? l = fs.node? l) :
    fs'.directoryFault l = fs.directoryFault l := by
  simp only [directoryFault, h]

theorem IsTree.congr (h : fs.IsTree) (hn : ∀ m, fs'.node? m = fs.node? m) : fs'.IsTree where
  parent m hm hnode := by
    rw [directoryFault_congr (hn _)]
    exact h.parent m hm (by rwa [← hn])

/-- A tree stays one when a node is put in a directory, where there was no directory. -/
theorem IsTree.put (h : fs.IsTree) (hdir : l ≠ [] → fs.directoryFault l.dropLast = none)
    (hl : fs.directoryFault l ≠ none) : (fs.put l n).IsTree where
  parent m hm hnode := by
    have hparent : fs.directoryFault m.dropLast = none := by
      by_cases hml : m = l
      · rw [hml]
        exact hdir (by rwa [← hml])
      · rw [node?_put_of_ne hml] at hnode
        exact h.parent m hm hnode
    obtain ⟨mode, hmode⟩ := directoryFault_eq_none_iff.1 hparent
    refine directoryFault_eq_none_iff.2 ⟨mode, ?_⟩
    rw [node?_put_of_ne, hmode]
    rintro rfl
    exact hl hparent

theorem IsTree.cut (h : fs.IsTree) : (fs.cut l).IsTree where
  parent m hm hnode := by
    rw [node?_cut] at hnode
    split at hnode
    · exact absurd rfl hnode
    · next hl =>
        obtain ⟨mode, hmode⟩ := directoryFault_eq_none_iff.1 (h.parent m hm hnode)
        refine directoryFault_eq_none_iff.2 ⟨mode, ?_⟩
        rw [node?_cut, if_neg, hmode]
        exact fun hp => hl (hp.trans (List.dropLast_prefix m))

/-! ## Looking paths up -/

/-- Where a path is looked up from. -/
def origin (base : Location) (path : String) : Location :=
  if Path.isAbsolute path then [] else base

theorem origin_congr {path' : String} (h : Path.isAbsolute path' = Path.isAbsolute path) :
    origin base path' = origin base path := by
  simp only [origin, h]

theorem origin_of_isAbsolute (h : Path.isAbsolute path = true) : origin base path = [] := if_pos h

/-- A path leads from a directory to a location. -/
def LeadsTo (fs : FileSystem) (base : Location) (path : String) (l : Location) : Prop :=
  ∃ links, Leads fs maxLinks (origin base path) (Path.names path) links l

theorem locateNew_eq_ok_iff :
    fs.locateNew base path follow = .ok l ↔
      path ≠ "" ∧ path.utf8ByteSize ≤ maxPathSize ∧
        fs.walk follow maxLinks (origin base path) (Path.names path) = .ok l := by
  unfold locateNew
  split
  · next h => simp [h]
  · next h =>
      split
      · next hsize => simp [h, Nat.not_le.2 hsize]
      · next hsize => simp [h, Nat.not_lt.1 hsize, origin]

/-- A path that does not end in a slash is looked up like one at which a node is to be made. -/
theorem locate_eq_locateNew (h : Path.endsInSlash path = false) :
    fs.locate base path follow = fs.locateNew base path follow := by
  simp [locate, locateNew, h]

theorem find_eq_ok_iff :
    fs.find base path follow = .ok (l, n) ↔
      fs.locate base path follow = .ok l ∧ fs.node? l = some n := by
  unfold find
  cases fs.locate base path follow with
  | error e => simp
  | ok l' =>
      simp only [Except.ok.injEq]
      constructor
      · intro h
        cases hn : fs.node? l' with
        | none => simp [hn] at h
        | some n' =>
            simp only [hn, Except.ok.injEq, Prod.mk.injEq] at h
            obtain ⟨rfl, rfl⟩ := h
            exact ⟨rfl, hn⟩
      · rintro ⟨rfl, hn⟩
        simp [hn]

theorem locate_eq_ok_iff :
    fs.locate base path follow = .ok l ↔
      path ≠ "" ∧ path.utf8ByteSize ≤ maxPathSize ∧
        fs.walk follow maxLinks (origin base path)
          (Path.names path ++ if Path.endsInSlash path then ["."] else []) = .ok l := by
  unfold locate
  split
  · next h => simp [h]
  · next h =>
      split
      · next hsize => simp [h, Nat.not_le.2 hsize]
      · next hsize => simp [h, Nat.not_lt.1 hsize, origin]

/-- A path finds a directory if it is not too long and leads to it. -/
theorem find_directory_iff :
    (∃ mode, fs.find base path true = .ok (l, ⟨.directory, mode⟩)) ↔
      path ≠ "" ∧ path.utf8ByteSize ≤ maxPathSize ∧ LeadsTo fs base path l ∧
        fs.directoryFault l = none := by
  simp only [find_eq_ok_iff, exists_and_left, ← directoryFault_eq_none_iff, locate_eq_ok_iff]
  constructor
  · rintro ⟨⟨hne, hsize, hwalk⟩, hdir⟩
    refine ⟨hne, hsize, ?_, hdir⟩
    obtain ⟨links, hl⟩ := exists_leads_of_walk_eq hwalk
    obtain ⟨links', there, hnames, hdots⟩ := hl.of_append
    split at hdots
    · obtain ⟨-, hnil⟩ | ⟨hup, -⟩ | ⟨step, -⟩ | ⟨_, _, -, step, -⟩ := hdots.of_cons
      · cases hnil
        exact ⟨_, hnames⟩
      · exact absurd hup (by decide)
      · exact absurd rfl step.ne_dot
      · exact absurd rfl step.ne_dot
    · cases hdots
      exact ⟨_, hnames⟩
  · rintro ⟨hne, hsize, ⟨links, hl⟩, hdir⟩
    refine ⟨⟨hne, hsize, ?_⟩, hdir⟩
    split
    · exact (hl.append (.dot hdir .nil)).walk_eq
    · rw [List.append_nil]
      exact hl.walk_eq

/-- A path is that of a directory if it is not too long and leads to one. -/
theorem isDirectory_iff :
    fs.isDirectory base path = true ↔
      path ≠ "" ∧ path.utf8ByteSize ≤ maxPathSize ∧
        ∃ l, LeadsTo fs base path l ∧ fs.directoryFault l = none := by
  have hfind : fs.isDirectory base path = true ↔
      ∃ l mode, fs.find base path true = .ok (l, ⟨.directory, mode⟩) := by
    unfold isDirectory
    constructor
    · intro h
      split at h
      · next l mode hl => exact ⟨l, mode, hl⟩
      · cases h
    · rintro ⟨l, mode, hl⟩
      rw [hl]
  simp only [hfind, find_directory_iff, exists_and_left]

/-- The names in a directory; there are none if it is not there. -/
def entries (fs : FileSystem) (base : Location) (path : String) : List String :=
  match fs.list base path with
  | .ok names => names
  | .error _ => []

theorem mem_entries_iff {name : String} :
    name ∈ fs.entries base path ↔
      path ≠ "" ∧ path.utf8ByteSize ≤ maxPathSize ∧
        ∃ l, LeadsTo fs base path l ∧ fs.directoryFault l = none ∧
          fs.node? (l ++ [name]) ≠ none := by
  have hfind : name ∈ fs.entries base path ↔
      ∃ l, (∃ mode, fs.find base path true = .ok (l, ⟨.directory, mode⟩)) ∧
        fs.node? (l ++ [name]) ≠ none := by
    unfold entries list
    constructor
    · intro h
      split at h
      · next names hnames =>
          split at hnames
          · cases hnames
          · next l mode hl =>
              cases hnames
              exact ⟨l, ⟨mode, hl⟩, mem_namesIn.1 (List.mem_mergeSort.1 h)⟩
          · cases hnames
      · cases h
    · rintro ⟨l, ⟨mode, hl⟩, hname⟩
      simp only [hl]
      exact List.mem_mergeSort.2 (mem_namesIn.2 hname)
  simp only [hfind, find_directory_iff]
  constructor
  · rintro ⟨l, ⟨hne, hsize, hl, hdir⟩, hname⟩
    exact ⟨hne, hsize, l, hl, hdir, hname⟩
  · rintro ⟨hne, hsize, l, hl, hdir, hname⟩
    exact ⟨l, ⟨hne, hsize, hl, hdir⟩, hname⟩

theorem LeadsTo.congr (h : LeadsTo fs base path l) (hn : ∀ m, fs'.node? m = fs.node? m) :
    LeadsTo fs' base path l := by
  obtain ⟨links, hl⟩ := h
  exact ⟨links, hl.congr hn⟩

theorem entries_congr (hn : ∀ m, fs'.node? m = fs.node? m) (name : String) :
    name ∈ fs'.entries base path ↔ name ∈ fs.entries base path := by
  have hmem : ∀ {fs fs' : FileSystem}, (∀ m, fs'.node? m = fs.node? m) →
      name ∈ fs.entries base path → name ∈ fs'.entries base path := by
    intro fs fs' hn h
    obtain ⟨hne, hsize, l, hl, hdir, hname⟩ := mem_entries_iff.1 h
    refine mem_entries_iff.2 ⟨hne, hsize, l, hl.congr hn, ?_, ?_⟩
    · rwa [directoryFault_congr (hn l)]
    · rwa [hn]
  exact ⟨hmem fun m => (hn m).symm, hmem hn⟩

/-! ## Making and removing -/

theorem directoryFault_of_obstacle (h : fs.obstacle l = none) :
    fs.directoryFault l.dropLast = none := by
  unfold obstacle at h
  split at h
  · cases h
  · next hdir => exact hdir

theorem make_eq_ok_iff :
    fs.make base path n = .ok fs' ↔
      ∃ l, fs.locateNew base path false = .ok l ∧ fs.node? l = none ∧ fs.obstacle l = none ∧
        fs' = fs.put l n := by
  unfold make
  cases fs.locateNew base path false with
  | error e => simp
  | ok l =>
      simp only [Except.ok.injEq, exists_eq_left']
      cases hn : fs.node? l with
      | some n' => simp
      | none =>
          cases ho : fs.obstacle l with
          | some e => simp
          | none => simp [eq_comm]

theorem openFile_eq_ok_iff {mode : Nat} :
    fs.openFile base path mode = .ok (l, fs') ↔
      fs.locateNew base path true = .ok l ∧ Path.endsInSlash path = false ∧
        ((∃ n, fs.node? l = some n ∧ n.entry ≠ .directory ∧ fs' = fs) ∨
          (fs.node? l = none ∧ fs.obstacle l = none ∧ fs' = fs.put l ⟨.file [], mode⟩)) := by
  unfold openFile
  cases fs.locateNew base path true with
  | error e => simp
  | ok l' =>
      simp only [Except.ok.injEq]
      constructor
      · intro h
        split at h
        · cases h
        · next n hdir hn =>
            split at h
            · cases h
            · next hslash =>
                cases h
                refine ⟨rfl, by simpa using hslash, .inl ⟨n, hn, ?_, rfl⟩⟩
                obtain ⟨entry, mode⟩ := n
                rintro rfl
                exact hdir mode rfl
        · next hn =>
            split at h
            · cases h
            · next ho =>
                split at h
                · cases h
                · next hslash =>
                    cases h
                    exact ⟨rfl, by simpa using hslash, .inr ⟨hn, ho, rfl⟩⟩
      · rintro ⟨rfl, hslash, ⟨⟨entry, mode⟩, hn, hdir, rfl⟩ | ⟨hn, ho, rfl⟩⟩
        · cases entry <;> simp_all
        · simp [hn, ho, hslash]

/-- New contents are put where there is a file. -/
theorem setContents_cases (fs : FileSystem) (l : Location) (contents : List UInt8) :
    (∃ old mode, fs.node? l = some ⟨.file old, mode⟩ ∧
        fs.setContents l contents = fs.put l ⟨.file contents, mode⟩) ∨
      fs.setContents l contents = fs := by
  unfold setContents
  split
  · next old mode h => exact .inl ⟨old, mode, h, rfl⟩
  · exact .inr rfl

/-- A file that is not there is made and filled, or nothing is written. -/
theorem write_of_absent {octets : List UInt8} (hl : fs.locateNew base path true = .ok l)
    (hn : fs.node? l = none) (hslash : Path.endsInSlash path = false) :
    fs.write base path octets mode =
      match fs.obstacle l with
      | some e => .error e
      | none => .ok ((fs.put l ⟨.file [], mode⟩).put l ⟨.file octets, mode⟩) := by
  unfold write openFile
  simp only [hl, hn]
  cases fs.obstacle l with
  | some e => rfl
  | none => simp [hslash, setContents, node?_put_self]

/-- A file that is written is put where there was no directory and no link. -/
structure Written (fs : FileSystem) (l : Location) (fs' : FileSystem) : Prop where
  no_directory : fs.directoryFault l ≠ none
  place : l ≠ [] → fs.IsTree → fs.directoryFault l.dropLast = none
  node : ∃ n : Node, ∀ m, fs'.node? m = (fs.put l n).node? m
  links : ∀ m, fs'.linkAt? m = fs.linkAt? m
  closed : fs'.closed = fs.closed

/-- A node that is no link, in the place of what is none, changes no link. -/
theorem linkAt?_put (hl : fs.linkAt? l = none) (hn : ∀ target, n.entry ≠ .link target)
    (m : Location) : (fs.put l n).linkAt? m = fs.linkAt? m := by
  by_cases hm : m = l
  · subst hm
    rw [hl, ← Option.not_isSome_iff_eq_none, Option.isSome_iff_exists]
    rintro ⟨target, ht⟩
    obtain ⟨mode, hmode⟩ := linkAt?_eq_some_iff.1 ht
    rw [node?_put_self, Option.some.injEq] at hmode
    exact hn target (by rw [hmode])
  · exact linkAt?_congr (node?_put_of_ne hm)

theorem written_of_write {contents : List UInt8}
    (h : fs.write base path contents mode = .ok fs') :
    ∃ l, fs.locateNew base path true = .ok l ∧ Written fs l fs' := by
  unfold write at h
  cases hopen : fs.openFile base path mode with
  | error e =>
      rw [hopen] at h
      cases h
  | ok opened =>
      obtain ⟨l, fs₁⟩ := opened
      simp only [hopen, Except.ok.injEq] at h
      subst h
      obtain ⟨hl, -, hcase⟩ := openFile_eq_ok_iff.1 hopen
      refine ⟨l, hl, ?_⟩
      rcases hcase with ⟨n, hn, hdir, rfl⟩ | ⟨hn, ho, rfl⟩
      · have hno : fs₁.directoryFault l ≠ none := by
          rw [ne_eq, directoryFault_eq_none_iff, hn]
          rintro ⟨mode, hmode⟩
          cases hmode
          exact hdir rfl
        have hplace : l ≠ [] → fs₁.IsTree → fs₁.directoryFault l.dropLast = none :=
          fun hl htree => htree.parent l hl (by simp [hn])
        rcases setContents_cases fs₁ l contents with ⟨old, mode', hold, he⟩ | he
        · rw [he]
          exact ⟨hno, hplace, ⟨_, fun _ => rfl⟩,
            linkAt?_put (by simp [linkAt?, hold]) (by simp), rfl⟩
        · rw [he]
          refine ⟨hno, hplace, ⟨n, fun m => ?_⟩, fun _ => rfl, rfl⟩
          rw [node?_put]
          split
          · next hm => rw [hm, hn]
          · rfl
      · have hlink : fs.linkAt? l = none := linkAt?_eq_none_of_node?_eq_none hn
        have hplace : l ≠ [] → fs.IsTree → fs.directoryFault l.dropLast = none :=
          fun _ _ => directoryFault_of_obstacle ho
        have hmade := linkAt?_put (n := ⟨.file [], mode⟩) hlink (by simp)
        rcases setContents_cases (fs.put l ⟨.file [], mode⟩) l contents with
          ⟨old, mode', hold, he⟩ | he
        · rw [he]
          refine ⟨directoryFault_ne_none hn, hplace, ⟨⟨.file contents, mode'⟩, fun m => ?_⟩,
            fun m => ?_, rfl⟩
          · simp only [node?_put]
            split <;> rfl
          · rw [linkAt?_put (by simp [linkAt?, hold]) (by simp), hmade]
        · rw [he]
          exact ⟨directoryFault_ne_none hn, hplace, ⟨_, fun _ => rfl⟩, hmade, rfl⟩

theorem Written.isTree (h : Written fs l fs') (ht : fs.IsTree) : fs'.IsTree := by
  obtain ⟨n, hn⟩ := h.node
  exact (ht.put (fun hl => h.place hl ht) h.no_directory).congr hn

theorem Written.node?_of_ne (h : Written fs l fs') (hm : m ≠ l) : fs'.node? m = fs.node? m := by
  obtain ⟨n, hn⟩ := h.node
  rw [hn, node?_put_of_ne hm]

/-- A tree is removed if the path leads to one, or to a link. -/
theorem without_cases (fs : FileSystem) (base : Location) (path : String) :
    fs.without base path = fs ∨
      ∃ l, fs.locate base path false = .ok l ∧ fs.without base path = fs.cut l := by
  unfold without settle removeTree
  cases hfind : fs.find base path false with
  | error e => exact .inl rfl
  | ok found =>
      obtain ⟨l, entry, mode⟩ := found
      have hl := (find_eq_ok_iff.1 hfind).1
      cases entry with
      | directory => exact .inr ⟨l, hl, rfl⟩
      | link target => exact .inr ⟨l, hl, rfl⟩
      | file contents => exact .inl rfl
      | device d => exact .inl rfl
      | pipe => exact .inl rfl

theorem without_of_directory (hl : fs.locate base path false = .ok l)
    (hdir : fs.directoryFault l = none) : fs.without base path = fs.cut l := by
  obtain ⟨mode, hm⟩ := directoryFault_eq_none_iff.1 hdir
  simp only [without, settle, removeTree, find_eq_ok_iff.2 ⟨hl, hm⟩]

/-- Nothing is removed if nothing is there. -/
theorem without_of_absent (hl : fs.locate base path false = .ok l) (hn : fs.node? l = none) :
    fs.without base path = fs := by
  simp only [without, settle, removeTree, find, hl, hn]

end Playground.Machine.FileSystem
