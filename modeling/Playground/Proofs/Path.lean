import Mathlib.Data.List.Basic
import Playground.Path

set_option autoImplicit false

/-! # The names of paths

A path is put together from names and taken apart into names. A single name that is joined to a path
is its last name (`names_join`), and the names of a path are single names (`isSingle_of_mem_names`).
A `.` among the names of a path does not matter for where it leads; `DropsDots` is the relation
between names with and without such ones. -/

namespace Playground.Path

variable {path directory name : String} {piece cs ds : List Char}

/-! ## Single names -/

/-- A text that is one name, and not a way through several directories. -/
structure IsSingle (name : String) : Prop where
  ne_empty : name ≠ ""
  no_slash : '/' ∉ name.toList

theorem IsSingle.isAbsolute_eq_false (h : IsSingle name) : isAbsolute name = false := by
  have hno := h.no_slash
  unfold isAbsolute
  cases hcs : name.toList with
  | nil => rfl
  | cons c cs =>
      rw [hcs] at hno
      simp only [List.head?_cons, beq_eq_false_iff_ne, ne_eq, Option.some.injEq]
      rintro rfl
      exact hno (by simp)

/-- A name that does not begin with a dot is neither of the two that are no names of nodes. -/
theorem IsSingle.append (h : IsSingle directory) {rest : String} (hrest : '/' ∉ rest.toList) :
    IsSingle (directory ++ rest) where
  ne_empty := by
    intro he
    have hlist := congrArg String.toList he
    rw [String.toList_append, String.toList_empty] at hlist
    exact h.ne_empty (String.toList_inj.1 (List.append_eq_nil_iff.1 hlist).1)
  no_slash := by
    rw [String.toList_append, List.mem_append]
    rintro (hm | hm)
    · exact h.no_slash hm
    · exact hrest hm

/-! ## Taking paths apart -/

theorem splitFrom_of_no_slash (h : '/' ∉ cs) : splitFrom piece cs = [piece ++ cs] := by
  induction cs generalizing piece with
  | nil => simp [splitFrom]
  | cons c cs ih =>
      have hc : c ≠ '/' := by
        rintro rfl
        exact h (by simp)
      rw [splitFrom, if_neg hc, ih fun hm => h (by simp [hm]), List.append_assoc]
      rfl

theorem splitFrom_append_slash :
    splitFrom piece (cs ++ '/' :: ds) = splitFrom piece cs ++ splitFrom [] ds := by
  induction cs generalizing piece with
  | nil => rfl
  | cons c cs ih =>
      rw [List.cons_append, splitFrom, splitFrom]
      split
      · rw [ih, List.cons_append]
      · exact ih

theorem names_append_slash (a b : String) : names (a ++ "/" ++ b) = names a ++ names b := by
  have hlist : (a ++ "/" ++ b).toList = a.toList ++ '/' :: b.toList := by
    simp [String.toList_append]
  rw [names, hlist, splitFrom_append_slash, List.filter_append, List.map_append]
  rfl

@[simp] theorem names_empty : names "" = [] := by decide

theorem IsSingle.names_eq (h : IsSingle name) : names name = [name] := by
  have hne : name.toList ≠ [] := by
    intro hnil
    exact h.ne_empty (String.toList_inj.1 hnil)
  rw [names, splitFrom_of_no_slash h.no_slash]
  simp [hne]

theorem no_slash_of_mem_splitFrom {part : List Char} (h : part ∈ splitFrom piece cs)
    (hpiece : '/' ∉ piece) : '/' ∉ part := by
  induction cs generalizing piece with
  | nil =>
      rw [splitFrom, List.mem_singleton] at h
      rwa [h]
  | cons c cs ih =>
      rw [splitFrom] at h
      split at h
      · rcases List.mem_cons.1 h with rfl | h
        · exact hpiece
        · exact ih h (by simp)
      · next hc =>
          refine ih h ?_
          rw [List.mem_append, List.mem_singleton]
          rintro (hm | rfl)
          · exact hpiece hm
          · exact hc rfl

theorem isSingle_of_mem_names (h : name ∈ names path) : IsSingle name := by
  obtain ⟨part, hpart, rfl⟩ := List.mem_map.1 h
  obtain ⟨hmem, hne⟩ := List.mem_filter.1 hpart
  refine ⟨?_, ?_⟩
  · intro he
    have hnil := congrArg String.toList he
    simp at hnil
    simp [hnil] at hne
  · rw [String.toList_ofList]
    exact no_slash_of_mem_splitFrom hmem (by simp)

/-! ## Joining -/

/-- A path after which no slash is needed is empty or ends in one. -/
theorem exists_of_needsSlash_eq_false (h : needsSlash directory = false) :
    directory = "" ∨ ∃ rest, directory = rest ++ "/" := by
  unfold needsSlash at h
  cases hlast : directory.toList.getLast? with
  | none => exact .inl (String.toList_inj.1 (List.getLast?_eq_none_iff.1 hlast))
  | some c =>
      simp only [hlast, bne_eq_false_iff_eq] at h
      subst h
      obtain ⟨cs, hcs⟩ := List.getLast?_eq_some_iff.1 hlast
      refine .inr ⟨String.ofList cs, String.toList_inj.1 ?_⟩
      rw [hcs]
      simp [String.toList_append]

/-- How a single name is joined to a path. -/
theorem IsSingle.join_eq (h : IsSingle name) :
    join directory name =
      if needsSlash directory then directory ++ "/" ++ name else directory ++ name := by
  simp [join, h.isAbsolute_eq_false]

theorem names_join (h : IsSingle name) :
    names (join directory name) = names directory ++ [name] := by
  rw [h.join_eq]
  split
  · rw [names_append_slash, h.names_eq]
  · next hslash =>
      rcases exists_of_needsSlash_eq_false (Bool.not_eq_true _ ▸ hslash) with rfl | ⟨rest, rfl⟩
      · simp [h.names_eq]
      · have hrest := names_append_slash rest ""
        rw [String.append_empty, names_empty, List.append_nil] at hrest
        rw [names_append_slash, h.names_eq, hrest]

theorem isAbsolute_append (h : directory ≠ "") (rest : String) :
    isAbsolute (directory ++ rest) = isAbsolute directory := by
  have hne : directory.toList ≠ [] := fun hnil => h (String.toList_inj.1 hnil)
  unfold isAbsolute
  rw [String.toList_append, List.head?_append_of_ne_nil _ hne]

/-- What is joined to an absolute path is absolute. -/
theorem isAbsolute_join_of_left (h : isAbsolute directory = true) :
    isAbsolute (join directory name) = true := by
  have hd : directory ≠ "" := by
    rintro rfl
    cases h
  unfold join
  split
  · assumption
  · split
    · rw [String.append_assoc, isAbsolute_append hd, h]
    · rw [isAbsolute_append hd, h]

theorem isAbsolute_join (h : IsSingle name) :
    isAbsolute (join directory name) = isAbsolute directory := by
  by_cases hd : directory = ""
  · subst hd
    rw [join_empty_left, h.isAbsolute_eq_false]
    rfl
  · rw [h.join_eq]
    split
    · rw [String.append_assoc, isAbsolute_append hd]
    · exact isAbsolute_append hd name

theorem endsInSlash_join (h : IsSingle name) : endsInSlash (join directory name) = false := by
  have hne : name.toList ≠ [] := fun hnil => h.ne_empty (String.toList_inj.1 hnil)
  have hlast : ∀ front : String, (front ++ name).toList.getLast? = name.toList.getLast? := by
    intro front
    rw [String.toList_append, List.getLast?_append_of_ne_nil _ hne]
  have hend : (join directory name).toList.getLast? = name.toList.getLast? := by
    rw [h.join_eq]
    split
    · exact hlast _
    · exact hlast _
  rw [endsInSlash, hend, beq_eq_false_iff_ne]
  intro hslash
  exact h.no_slash (List.mem_of_getLast? hslash)

/-- Of two names in a directory, the shorter one has the shorter path. -/
theorem IsSingle.utf8ByteSize_join_le {other : String} (h : IsSingle name) (h' : IsSingle other)
    (hle : name.utf8ByteSize ≤ other.utf8ByteSize) :
    (join directory name).utf8ByteSize ≤ (join directory other).utf8ByteSize := by
  rw [h.join_eq, h'.join_eq]
  split <;> simpa [String.utf8ByteSize_append] using hle

theorem join_ne_empty (h : IsSingle name) : join directory name ≠ "" := by
  intro he
  have hnames : names (join directory name) = names directory ++ [name] := names_join h
  rw [he, names_empty] at hnames
  exact absurd hnames (by simp)

/-! ## Dots -/

/-- The second names are the first ones without some of the dots. -/
inductive DropsDots : List String → List String → Prop where
  | nil : DropsDots [] []
  | keep {ns ms : List String} (name : String) (rest : DropsDots ns ms) :
      DropsDots (name :: ns) (name :: ms)
  | drop {ns ms : List String} (rest : DropsDots ns ms) : DropsDots ("." :: ns) ms

theorem DropsDots.refl (ns : List String) : DropsDots ns ns := by
  induction ns with
  | nil => exact .nil
  | cons name ns ih => exact .keep name ih

theorem DropsDots.of_cons {ns ms : List String} (h : DropsDots (name :: ns) ms) :
    (∃ ms', ms = name :: ms' ∧ DropsDots ns ms') ∨ (name = "." ∧ DropsDots ns ms) := by
  cases h with
  | keep _ rest => exact .inl ⟨_, rfl, rest⟩
  | drop rest => exact .inr ⟨rfl, rest⟩

theorem DropsDots.append {ns ms ns' ms' : List String} (h : DropsDots ns ms)
    (h' : DropsDots ns' ms') : DropsDots (ns ++ ns') (ms ++ ms') := by
  induction h with
  | nil => exact h'
  | keep name _ ih => exact .keep name ih
  | drop _ ih => exact .drop ih

theorem DropsDots.trans {ns ms ps : List String} (h : DropsDots ns ms) (h' : DropsDots ms ps) :
    DropsDots ns ps := by
  induction h generalizing ps with
  | nil => exact h'
  | keep name _ ih =>
      cases h' with
      | keep _ rest => exact .keep name (ih rest)
      | drop rest => exact .drop (ih rest)
  | drop _ ih => exact .drop (ih h')

theorem dropsDots_filter (ns : List String) : DropsDots ns (ns.filter (· != ".")) := by
  induction ns with
  | nil => exact .nil
  | cons name ns ih =>
      by_cases h : name = "."
      · subst h
        exact .drop ih
      · rw [List.filter_cons_of_pos (by simpa using h)]
        exact .keep name ih

/-- Names with dots come apart where the names without them do. -/
theorem DropsDots.of_append {ns ms ms' : List String} (h : DropsDots ns (ms ++ ms')) :
    ∃ front back, ns = front ++ back ∧ DropsDots front ms ∧ DropsDots back ms' := by
  induction ns generalizing ms with
  | nil =>
      cases h' : ms with
      | nil =>
          subst h'
          exact ⟨[], [], rfl, .nil, h⟩
      | cons name ms =>
          subst h'
          cases h
  | cons name ns ih =>
      cases ms with
      | nil => exact ⟨[], name :: ns, rfl, .nil, h⟩
      | cons name' ms =>
          cases h with
          | keep _ rest =>
              obtain ⟨front, back, rfl, hfront, hback⟩ := ih rest
              exact ⟨name :: front, back, rfl, .keep name hfront, hback⟩
          | drop rest =>
              have hrest : DropsDots ns ((name' :: ms) ++ ms') := rest
              obtain ⟨front, back, rfl, hfront, hback⟩ := ih hrest
              exact ⟨"." :: front, back, rfl, .drop hfront, hback⟩

theorem DropsDots.mem {ns ms : List String} (h : DropsDots ns ms) (hm : name ∈ ms) : name ∈ ns := by
  induction h with
  | nil => exact hm
  | keep name' _ ih =>
      rcases List.mem_cons.1 hm with rfl | hm
      · exact List.mem_cons_self
      · exact List.mem_cons_of_mem _ (ih hm)
  | drop _ ih => exact List.mem_cons_of_mem _ (ih hm)

/-! ## Parts -/

/-- The parts of a path are its names without some of the dots, after the root if it has one. -/
theorem exists_parts_eq (path : String) :
    ∃ ns, DropsDots (names path) ns ∧
      parts path = if isAbsolute path then "/" :: ns else ns := by
  unfold parts
  cases isAbsolute path with
  | true => exact ⟨_, dropsDots_filter _, rfl⟩
  | false =>
      simp only [Bool.false_eq_true, if_false]
      split
      · next rest hnames => exact ⟨_, hnames ▸ .keep "." (dropsDots_filter rest), rfl⟩
      · exact ⟨_, dropsDots_filter _, rfl⟩

end Playground.Path
