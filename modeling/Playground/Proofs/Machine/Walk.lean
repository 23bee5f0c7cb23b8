import Playground.Machine.FileSystem

set_option autoImplicit false

/-! # Where paths lead

`FileSystem.Leads` says rule by rule where names lead from a location: down to a node, up to the
directory above, or through a link to where its target leads. A walk over such names and some more
goes on from there (`Leads.walk_append`), and every walk is one of these and what is left of it
(`exists_leads_of_walk`).

On the way there are only directories and links. So names still lead to a location after nodes have
been added elsewhere (`Leads.mono`), and in file systems that have the same links they never lead to
two locations (`Leads.unique`). -/

namespace Playground.Machine.FileSystem

variable {fs fs' : FileSystem} {links links' : Nat} {here there l l' : Location}
  {names ns ms : List String} {name target : String} {follow : Bool}

/-! ## What there is at a location -/

theorem directoryFault_eq_none_iff :
    fs.directoryFault l = none ↔ ∃ mode, fs.node? l = some ⟨.directory, mode⟩ := by
  unfold directoryFault
  split <;> simp_all

theorem linkAt?_eq_none_of_node?_eq_none (h : fs.node? l = none) : fs.linkAt? l = none := by
  simp [linkAt?, h]

theorem linkAt?_eq_none_of_directory {mode : Nat} (h : fs.node? l = some ⟨.directory, mode⟩) :
    fs.linkAt? l = none := by
  simp [linkAt?, h]

theorem linkAt?_congr (h : fs'.node? l = fs.node? l) : fs'.linkAt? l = fs.linkAt? l := by
  simp only [linkAt?, h]

/-! ## Following names -/

/-- A name that is looked for in a directory. -/
structure IsStep (name : String) : Prop where
  fits : name.utf8ByteSize ≤ maxNameSize
  ne_dot : name ≠ "."
  ne_up : name ≠ ".."

/-- The names lead from one location to another, when all links on the way are followed and there
    are so many links that may be followed at the start and at the end. -/
inductive Leads (fs : FileSystem) : Nat → Location → List String → Nat → Location → Prop where
  | nil {links : Nat} {here : Location} : Leads fs links here [] links here
  | dot {links links' : Nat} {here there : Location} {names : List String}
      (dir : fs.directoryFault here = none) (rest : Leads fs links here names links' there) :
      Leads fs links here ("." :: names) links' there
  | up {links links' : Nat} {here there : Location} {names : List String}
      (dir : fs.directoryFault here = none)
      (rest : Leads fs links here.dropLast names links' there) :
      Leads fs links here (".." :: names) links' there
  | down {links links' : Nat} {here there : Location} {name : String} {names : List String}
      (dir : fs.directoryFault here = none) (step : IsStep name)
      (link : fs.linkAt? (here ++ [name]) = none)
      (rest : Leads fs links (here ++ [name]) names links' there) :
      Leads fs links here (name :: names) links' there
  | through {links links' : Nat} {here there : Location} {name target : String}
      {names : List String} (dir : fs.directoryFault here = none) (step : IsStep name)
      (link : fs.linkAt? (here ++ [name]) = some target)
      (rest : Leads fs links (if Path.isAbsolute target then [] else here)
        (Path.names target ++ names) links' there) :
      Leads fs (links + 1) here (name :: names) links' there

@[simp] theorem walk_nil : fs.walk follow links here [] = .ok here := by rw [walk]

theorem walk_dot (dir : fs.directoryFault here = none) :
    fs.walk follow links here ("." :: names) = fs.walk follow links here names := by
  have hsize : ¬maxNameSize < ".".utf8ByteSize := by decide
  rw [walk, dir]
  simp only [hsize, if_false, if_true]

theorem walk_up (dir : fs.directoryFault here = none) :
    fs.walk follow links here (".." :: names) = fs.walk follow links here.dropLast names := by
  have hsize : ¬maxNameSize < "..".utf8ByteSize := by decide
  have hne : ".." ≠ "." := by decide
  rw [walk, dir]
  simp only [hsize, hne, if_false, if_true]

theorem walk_down (dir : fs.directoryFault here = none) (step : IsStep name)
    (link : fs.linkAt? (here ++ [name]) = none) :
    fs.walk follow links here (name :: names) =
      fs.walk follow links (here ++ [name]) names := by
  rw [walk, dir]
  simp only [Nat.not_lt.2 step.fits, step.ne_dot, step.ne_up, if_false, link]
  cases names with
  | nil => rw [walk_nil]
  | cons => rfl

theorem walk_through (dir : fs.directoryFault here = none) (step : IsStep name)
    (link : fs.linkAt? (here ++ [name]) = some target) (h : names ≠ [] ∨ follow = true) :
    fs.walk follow (links + 1) here (name :: names) =
      fs.walk follow links (if Path.isAbsolute target then [] else here)
        (Path.names target ++ names) := by
  have hgo : ¬(names = [] ∧ follow = false) := by
    rintro ⟨hn, hf⟩
    rcases h with h | h
    · exact h hn
    · rw [hf] at h
      cases h
  rw [walk, dir]
  simp only [Nat.not_lt.2 step.fits, step.ne_dot, step.ne_up, if_false, link, hgo]

/-- A last name that is not followed leads to its place in the directory. -/
theorem walk_last (dir : fs.directoryFault here = none) (step : IsStep name) :
    fs.walk false links here [name] = .ok (here ++ [name]) := by
  rw [walk, dir]
  simp only [Nat.not_lt.2 step.fits, step.ne_dot, step.ne_up, if_false]
  cases fs.linkAt? (here ++ [name]) <;> simp

/-- Names are looked for in directories only. -/
theorem directoryFault_of_walk (h : fs.walk follow links here (name :: names) = .ok l) :
    fs.directoryFault here = none := by
  rw [walk] at h
  cases hdir : fs.directoryFault here with
  | none => rfl
  | some e =>
      rw [hdir] at h
      cases h

/-- What a walk does first. -/
theorem step_of_walk (h : fs.walk follow links here (name :: names) = .ok l) :
    name = "." ∨ name = ".." ∨ IsStep name := by
  have dir := directoryFault_of_walk h
  rw [walk, dir] at h
  by_cases hsize : maxNameSize < name.utf8ByteSize
  · simp only [hsize, if_true] at h
    cases h
  · by_cases hdot : name = "."
    · exact .inl hdot
    · by_cases hup : name = ".."
      · exact .inr (.inl hup)
      · exact .inr (.inr ⟨Nat.not_lt.1 hsize, hdot, hup⟩)

/-- A link that is to be followed needs one of those that may be. -/
theorem exists_succ_of_walk (h : fs.walk follow links here (name :: names) = .ok l)
    (step : IsStep name) (link : fs.linkAt? (here ++ [name]) = some target)
    (hf : names ≠ [] ∨ follow = true) : ∃ left, links = left + 1 := by
  cases links with
  | succ left => exact ⟨left, rfl⟩
  | zero =>
      have hgo : ¬(names = [] ∧ follow = false) := by
        rintro ⟨hn, hfalse⟩
        rcases hf with hf | hf
        · exact hf hn
        · rw [hfalse] at hf
          cases hf
      have dir := directoryFault_of_walk h
      rw [walk, dir] at h
      simp only [Nat.not_lt.2 step.fits, step.ne_dot, step.ne_up, if_false, link, hgo] at h
      cases h

/-! ## Walks and where names lead -/

/-- Names that lead somewhere are walked first, whatever comes after them. -/
theorem Leads.walk_append (h : Leads fs links here ns links' there) (hf : ms ≠ [] ∨ follow = true) :
    fs.walk follow links here (ns ++ ms) = fs.walk follow links' there ms := by
  induction h with
  | nil => rfl
  | dot dir _ ih => rw [List.cons_append, walk_dot dir, ih]
  | up dir _ ih => rw [List.cons_append, walk_up dir, ih]
  | down dir step link _ ih => rw [List.cons_append, walk_down dir step link, ih]
  | through dir step link _ ih =>
      rw [List.cons_append, walk_through dir step link (hf.imp_left (by simp [·])),
        ← List.append_assoc, ih]

theorem Leads.walk_eq (h : Leads fs links here ns links' there) :
    fs.walk true links here ns = .ok there := by
  have happend : fs.walk true links here (ns ++ []) = fs.walk true links' there [] :=
    h.walk_append (.inr rfl)
  rwa [List.append_nil, walk_nil] at happend

/-- A walk that comes to an end has led somewhere before each of its names. -/
theorem exists_leads_of_walk {links : Nat} {here : Location} {ns : List String}
    (h : fs.walk follow links here (ns ++ ms) = .ok l) (hf : ms ≠ [] ∨ follow = true) :
    ∃ links' there, Leads fs links here ns links' there ∧
      fs.walk follow links' there ms = .ok l := by
  cases ns with
  | nil => exact ⟨links, here, .nil, h⟩
  | cons name rest =>
      rw [List.cons_append] at h
      have dir := directoryFault_of_walk h
      have hf' : rest ++ ms ≠ [] ∨ follow = true := hf.imp_left (by simp [·])
      rcases step_of_walk h with rfl | rfl | step
      · rw [walk_dot dir] at h
        obtain ⟨links', there, hl, hw⟩ := exists_leads_of_walk h hf
        exact ⟨links', there, .dot dir hl, hw⟩
      · rw [walk_up dir] at h
        obtain ⟨links', there, hl, hw⟩ := exists_leads_of_walk h hf
        exact ⟨links', there, .up dir hl, hw⟩
      · cases link : fs.linkAt? (here ++ [name]) with
        | none =>
            rw [walk_down dir step link] at h
            obtain ⟨links', there, hl, hw⟩ := exists_leads_of_walk h hf
            exact ⟨links', there, .down dir step link hl, hw⟩
        | some target =>
            obtain ⟨left, rfl⟩ := exists_succ_of_walk h step link hf'
            rw [walk_through dir step link hf', ← List.append_assoc] at h
            obtain ⟨links', there, hl, hw⟩ := exists_leads_of_walk h hf
            exact ⟨links', there, .through dir step link hl, hw⟩
  termination_by (links, ns.length)

theorem exists_leads_of_walk_eq (h : fs.walk true links here ns = .ok l) :
    ∃ links', Leads fs links here ns links' l := by
  rw [← List.append_nil ns] at h
  obtain ⟨links', there, hl, hw⟩ := exists_leads_of_walk h (.inr rfl)
  rw [walk_nil] at hw
  cases hw
  exact ⟨links', hl⟩

/-! ## Putting ways together -/

theorem Leads.append {links'' : Nat} (h : Leads fs links here ns links' there)
    (h' : Leads fs links' there ms links'' l) : Leads fs links here (ns ++ ms) links'' l := by
  induction h with
  | nil => exact h'
  | dot dir _ ih => exact .dot dir (ih h')
  | up dir _ ih => exact .up dir (ih h')
  | down dir step link _ ih => exact .down dir step link (ih h')
  | through dir step link _ ih =>
      refine .through dir step link ?_
      have ih := ih h'
      rwa [List.append_assoc] at ih

theorem Leads.step (h : Leads fs links here ns links' there) (dir : fs.directoryFault there = none)
    (step : IsStep name) (link : fs.linkAt? (there ++ [name]) = none) :
    Leads fs links here (ns ++ [name]) links' (there ++ [name]) :=
  h.append (.down dir step link .nil)

/-- How a way goes on with its first name. -/
theorem Leads.of_cons (h : Leads fs links here (name :: names) links' there) :
    (name = "." ∧ Leads fs links here names links' there) ∨
      (name = ".." ∧ Leads fs links here.dropLast names links' there) ∨
      (IsStep name ∧ fs.linkAt? (here ++ [name]) = none ∧
        Leads fs links (here ++ [name]) names links' there) ∨
      ∃ left target, links = left + 1 ∧ IsStep name ∧
        fs.linkAt? (here ++ [name]) = some target ∧
        Leads fs left (if Path.isAbsolute target then [] else here)
          (Path.names target ++ names) links' there := by
  cases h with
  | dot _ rest => exact .inl ⟨rfl, rest⟩
  | up _ rest => exact .inr (.inl ⟨rfl, rest⟩)
  | down _ step link rest => exact .inr (.inr (.inl ⟨step, link, rest⟩))
  | through _ step link rest => exact .inr (.inr (.inr ⟨_, _, rfl, step, link, rest⟩))

/-- In file systems with the same links, names lead to one location only. -/
theorem Leads.unique {left left' : Nat} (hlinks : ∀ l, fs'.linkAt? l = fs.linkAt? l)
    (h : Leads fs links here ns left l) (h' : Leads fs' links here ns left' l') :
    left' = left ∧ l' = l := by
  induction h with
  | nil =>
      cases h'
      exact ⟨rfl, rfl⟩
  | dot dir _ ih =>
      obtain ⟨-, rest⟩ | ⟨hup, -⟩ | ⟨step, -⟩ | ⟨_, _, -, step, -⟩ := h'.of_cons
      · exact ih rest
      · exact absurd hup (by decide)
      · exact absurd rfl step.ne_dot
      · exact absurd rfl step.ne_dot
  | up dir _ ih =>
      obtain ⟨hdot, -⟩ | ⟨-, rest⟩ | ⟨step, -⟩ | ⟨_, _, -, step, -⟩ := h'.of_cons
      · exact absurd hdot (by decide)
      · exact ih rest
      · exact absurd rfl step.ne_up
      · exact absurd rfl step.ne_up
  | down dir step link _ ih =>
      obtain ⟨hdot, -⟩ | ⟨hup, -⟩ | ⟨-, -, rest⟩ | ⟨_, _, -, -, link', -⟩ := h'.of_cons
      · exact absurd hdot step.ne_dot
      · exact absurd hup step.ne_up
      · exact ih rest
      · rw [hlinks, link] at link'
        cases link'
  | through dir step link _ ih =>
      obtain ⟨hdot, -⟩ | ⟨hup, -⟩ | ⟨-, link', -⟩ | ⟨_, _, hleft, -, link', rest⟩ := h'.of_cons
      · exact absurd hdot step.ne_dot
      · exact absurd hup step.ne_up
      · rw [hlinks, link] at link'
        cases link'
      · rw [hlinks, link] at link'
        cases hleft
        cases link'
        exact ih rest

/-- Two ways that begin with the same names begin in the same way. -/
theorem Leads.of_append {ns : List String} (h : Leads fs links here (ns ++ ms) links' l) :
    ∃ left there, Leads fs links here ns left there ∧ Leads fs left there ms links' l := by
  -- by the walk, since an induction on `h` would have to follow links whose names run over the cut
  obtain ⟨left, there, hl, hw⟩ := exists_leads_of_walk h.walk_eq (.inr rfl)
  obtain ⟨links'', hrest⟩ := exists_leads_of_walk_eq hw
  obtain ⟨rfl, -⟩ := h.unique (fun _ => rfl) (hl.append hrest)
  exact ⟨left, there, hl, hrest⟩

/-- Where a name can still be looked for, there is a directory. -/
theorem Leads.directoryFault_eq_none (h : Leads fs links here (name :: names) links' there) :
    fs.directoryFault here = none :=
  directoryFault_of_walk h.walk_eq

/-! ## Adding nodes -/

/-- The nodes of one file system are all in another one. -/
def Within (fs fs' : FileSystem) : Prop := ∀ l n, fs.node? l = some n → fs'.node? l = some n

theorem Within.refl (fs : FileSystem) : Within fs fs := fun _ _ h => h

theorem Within.trans {fs'' : FileSystem} (h : Within fs fs') (h' : Within fs' fs'') :
    Within fs fs'' := fun l n hn => h' l n (h l n hn)

theorem Within.directoryFault (h : Within fs fs') (dir : fs.directoryFault l = none) :
    fs'.directoryFault l = none := by
  obtain ⟨mode, hm⟩ := directoryFault_eq_none_iff.1 dir
  exact directoryFault_eq_none_iff.2 ⟨mode, h l _ hm⟩

theorem linkAt?_eq_some_iff :
    fs.linkAt? l = some target ↔ ∃ mode, fs.node? l = some ⟨.link target, mode⟩ := by
  unfold linkAt?
  split
  · next mode h => simp [h]
  · next h =>
      refine ⟨by simp, ?_⟩
      rintro ⟨mode, hm⟩
      exact absurd hm (h _ mode)

theorem Within.linkAt? (h : Within fs fs') (link : fs.linkAt? l = some target) :
    fs'.linkAt? l = some target := by
  obtain ⟨mode, hm⟩ := linkAt?_eq_some_iff.1 link
  exact linkAt?_eq_some_iff.2 ⟨mode, h l _ hm⟩

/-- What is no link stays none if there was something. -/
theorem Within.linkAt?_eq_none (h : Within fs fs') (hl : fs.node? l ≠ none)
    (link : fs.linkAt? l = none) : fs'.linkAt? l = none := by
  obtain ⟨n, hn⟩ := Option.ne_none_iff_exists'.1 hl
  rwa [linkAt?_congr ((h l n hn).trans hn.symm)]

/-- Names lead to where they led before nodes were added, unless a link was put at their end. -/
theorem Leads.mono (hw : Within fs fs') (h : Leads fs links here ns links' there)
    (hend : fs'.linkAt? there = none) : Leads fs' links here ns links' there := by
  induction h with
  | nil => exact .nil
  | dot dir _ ih => exact .dot (hw.directoryFault dir) (ih hend)
  | up dir _ ih => exact .up (hw.directoryFault dir) (ih hend)
  | @down _ _ here there name names dir step link rest ih =>
      refine .down (hw.directoryFault dir) step ?_ (ih hend)
      -- only at the end of the way can there have been nothing where a link may be now
      cases names with
      | nil =>
          cases rest
          exact hend
      | cons next names =>
          obtain ⟨mode, hm⟩ := directoryFault_eq_none_iff.1 rest.directoryFault_eq_none
          exact hw.linkAt?_eq_none (by rw [hm]; simp) link
  | through dir step link _ ih =>
      exact .through (hw.directoryFault dir) step (hw.linkAt? link) (ih hend)

/-- Where names lead depends on the nodes only. -/
theorem Leads.congr (h : Leads fs links here ns links' there)
    (hn : ∀ m, fs'.node? m = fs.node? m) : Leads fs' links here ns links' there := by
  have hdir : ∀ {m}, fs.directoryFault m = none → fs'.directoryFault m = none := by
    intro m hm
    rwa [directoryFault, hn, ← directoryFault]
  induction h with
  | nil => exact .nil
  | dot dir _ ih => exact .dot (hdir dir) ih
  | up dir _ ih => exact .up (hdir dir) ih
  | down dir step link _ ih => exact .down (hdir dir) step ((linkAt?_congr (hn _)).trans link) ih
  | through dir step link _ ih =>
      exact .through (hdir dir) step ((linkAt?_congr (hn _)).trans link) ih

end Playground.Machine.FileSystem
