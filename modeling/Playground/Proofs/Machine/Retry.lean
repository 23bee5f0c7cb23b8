import Playground.Proofs.Machine.Making

set_option autoImplicit false

/-! # Trying again to make a directory

If a directory could not be made with all that lead to it, it cannot be made by trying again, and
nothing more is made by it (`createTree_again`). The reason may be another one the second time: what
was made on the way to a directory may be what stands in the way afterwards. That happens only if
the path goes up: otherwise all that is new is empty but for what is new itself, and the reason is
the same (`createTree_again_of_no_up`). -/

namespace Playground.Machine.FileSystem

variable {fs fs' : FileSystem} {base l here there : Location} {path parent : String} {mode : Nat}
  {paths : List String} {links links' : Nat} {ns ms : List String} {e : HostError}

open Playground.Path (DropsDots)

/-! ## Being stuck -/

/-- The first directory cannot be made, and nothing else is made by trying. -/
def IsStuck (fs : FileSystem) (base : Location) (mode : Nat) (e : HostError)
    (paths : List String) : Prop :=
  ∃ path rest, paths = path :: rest ∧ ¬fs.Reaches base path ∧
    fs.makeTree base mode paths = (.error e, fs)

theorem notMade_of_not_reaches (h : ¬fs.Reaches base path) :
    fs.notMade base path e = (.error e, fs) := by
  rw [notMade, if_neg fun hdir => h (isDirectory_iff_reaches.1 hdir).2.2]

theorem IsStuck.ne_empty (h : fs.IsStuck base mode e (path :: paths)) : path ≠ "" := by
  rintro rfl
  obtain ⟨_, _, -, -, hmake⟩ := h
  rw [makeTree, if_pos rfl] at hmake
  cases hmake

theorem IsStuck.not_reaches (h : fs.IsStuck base mode e (path :: paths)) :
    ¬fs.Reaches base path := by
  obtain ⟨_, _, hcons, hnot, -⟩ := h
  obtain ⟨rfl, -⟩ := List.cons.inj hcons
  exact hnot

/-- What is above stays stuck in what is below, for the same reason unless there is one before. -/
theorem IsStuck.cons (h : fs.IsStuck base mode e (parent :: paths)) (hne : path ≠ "")
    (ha : parent = "" ∨ Above path parent) :
    ∃ e', fs.IsStuck base mode e' (path :: parent :: paths) ∧
      (e' = e ∨ fs.makeDirectory base path mode = .error e' ∧ e' ≠ .notFound) := by
  have ha := ha.resolve_left h.ne_empty
  have hnot := h.not_reaches
  obtain ⟨_, _, -, -, hmake⟩ := h
  have hpath : ¬fs.Reaches base path := fun hr => hnot (hr.of_above ha)
  cases h : fs.makeDirectory base path mode with
  | ok fs' =>
      obtain ⟨-, l, hl, -⟩ := grows_of_makeDirectory h
      exact absurd (reaches_of_walk ha (locateNew_eq_ok_iff.1 hl).2.2) hnot
  | error e' =>
      by_cases he : e' = .notFound
      · subst he
        refine ⟨e, ⟨path, parent :: paths, rfl, hpath, ?_⟩, .inl rfl⟩
        rw [makeTree, if_neg hne, h]
        simp only [hmake]
      · refine ⟨e', ⟨path, parent :: paths, rfl, hpath, ?_⟩, .inr ⟨rfl, he⟩⟩
        rw [makeTree_of_error hne h he, notMade_of_not_reaches hpath]

/-- A directory that cannot be made after those above it is stuck. -/
theorem isStuck_of_blocked (hne : path ≠ "")
    (h : fs.makeDirectory base path mode = .error .notFound)
    (rest : Makes base mode fs paths (.ok (), fs'))
    (h' : fs'.makeDirectory base path mode = .error e)
    (hnot : ¬fs'.isDirectory base path = true) : fs'.IsStuck base mode e (path :: paths) := by
  have hreach : ¬fs'.Reaches base path := fun hr =>
    hnot (isDirectory_iff_reaches.2 ⟨hne, size_le_of_makeDirectory h, hr⟩)
  refine ⟨path, paths, rfl, hreach, ?_⟩
  by_cases he : e = .notFound
  · subst he
    cases paths with
    | nil => cases rest
    | cons parent paths =>
        rw [makeTree, if_neg hne, h']
        simp only [makeTree_of_isDirectory rest.isDirectory, h']
        exact notMade_of_not_reaches hreach
  · rw [makeTree_of_error hne h' he, notMade_of_not_reaches hreach]

/-! ## The same reason -/

/-- Dots may stand where there is a directory. -/
theorem Leads.addDots (h : Leads fs links here ms links' there)
    (hdir : fs.directoryFault there = none) (hd : DropsDots ns ms) :
    Leads fs links here ns links' there := by
  induction hd generalizing links here with
  | nil => exact h
  | keep name _ ih =>
      cases h with
      | dot dir rest => exact .dot dir (ih rest)
      | up dir rest => exact .up dir (ih rest)
      | down dir step link rest => exact .down dir step link (ih rest)
      | through dir step link rest =>
          obtain ⟨left, there', htarget, hrest⟩ := rest.of_append
          exact .through dir step link (htarget.append (ih hrest))
  | @drop ns ms _ ih =>
      have hhere : fs.directoryFault here = none := by
        cases ms with
        | nil =>
            cases h
            exact hdir
        | cons => exact h.directoryFault_eq_none
      exact .dot hhere (ih h)

/-- A way ends at a name that is missing or too long, unless it is the last one and fits. -/
theorem walk_missing {name : String} (hdir : fs.directoryFault here = none) (hdot : name ≠ ".")
    (hup : name ≠ "..") (hn : fs.node? (here ++ [name]) = none)
    (hms : ms = [] → maxNameSize < name.utf8ByteSize) (hd : DropsDots ns (name :: ms)) :
    fs.walk false links here ns =
      .error (if maxNameSize < name.utf8ByteSize then .nameTooLong else .notFound) := by
  generalize hps : name :: ms = ps at hd
  induction hd with
  | nil => cases hps
  | @keep ns _ _ hrest =>
      cases hps
      by_cases hsize : maxNameSize < name.utf8ByteSize
      · rw [walk, hdir]
        simp only [hsize, if_true]
      · obtain ⟨m, hm⟩ := List.exists_mem_of_ne_nil ms fun hnil => hsize (hms hnil)
        obtain ⟨next, rest, rfl⟩ := List.exists_cons_of_ne_nil (List.ne_nil_of_mem (hrest.mem hm))
        rw [walk_down hdir ⟨Nat.not_lt.1 hsize, hdot, hup⟩ (linkAt?_eq_none_of_node?_eq_none hn),
          walk]
        simp only [directoryFault, hn, hsize, if_false]
  | drop _ ih => rw [walk_dot hdir, ih hps]

theorem makeDirectory_missing {front more : List String} {name : String} (hne : path ≠ "")
    (hsize : path.utf8ByteSize ≤ maxPathSize)
    (hnames : DropsDots (Path.names path) (front ++ name :: more))
    (hleads : Leads fs maxLinks (origin base path) front links l)
    (hdir : fs.directoryFault l = none) (hdot : name ≠ ".") (hup : name ≠ "..")
    (hn : fs.node? (l ++ [name]) = none) (hms : more = [] → maxNameSize < name.utf8ByteSize) :
    fs.makeDirectory base path mode =
      .error (if maxNameSize < name.utf8ByteSize then .nameTooLong else .notFound) := by
  obtain ⟨nfront, nback, hsplit, hfront, hback⟩ := hnames.of_append
  have hnback : nback ≠ [] := List.ne_nil_of_mem (hback.mem List.mem_cons_self)
  have hlocate : fs.locateNew base path false =
      .error (if maxNameSize < name.utf8ByteSize then .nameTooLong else .notFound) := by
    rw [locateNew, if_neg hne, if_neg (Nat.not_lt.2 hsize), ← origin, hsplit,
      (hleads.addDots hdir hfront).walk_append (.inl hnback)]
    exact walk_missing hdir hdot hup hn hms hback
  rw [FileSystem.makeDirectory, make, hlocate]

/-- Nothing can be made on a way that goes on from a name that is missing. -/
theorem makeDirectory_past_missing {more : List String} {name : String} (hne : path ≠ "")
    (hsize : path.utf8ByteSize ≤ maxPathSize) (hnames : Path.names path = name :: more)
    (hmore : more ≠ []) (step : IsStep name) (hdir : fs.directoryFault (origin base path) = none)
    (hn : fs.node? (origin base path ++ [name]) = none) :
    fs.makeDirectory base path mode = .error .notFound := by
  have hdots : DropsDots (Path.names path) ([] ++ name :: more) := hnames ▸ .refl _
  rw [makeDirectory_missing hne hsize hdots .nil hdir step.ne_dot step.ne_up hn (absurd · hmore),
    if_neg (Nat.not_lt.2 step.fits)]

/-- The names lead to a directory in which the next one is missing, and more may follow. A name that
    is too long is the reason for what cannot be made. -/
def IsMissing (fs : FileSystem) (base : Location) (e : HostError) (path : String)
    (more : List String) : Prop :=
  ∃ front name links l, DropsDots (Path.names path) (front ++ name :: more) ∧
    Leads fs maxLinks (origin base path) front links l ∧ fs.directoryFault l = none ∧
    name ≠ "." ∧ name ≠ ".." ∧ fs.node? (l ++ [name]) = none ∧
    (maxNameSize < name.utf8ByteSize → e = .nameTooLong)

theorem IsMissing.of_above {more : List String} (h : fs.IsMissing base e parent more)
    (ha : Above path parent) : ∃ name, fs.IsMissing base e path (more ++ [name]) := by
  obtain ⟨front, name, links, l, hnames, hleads, hmissing⟩ := h
  obtain ⟨habs, last, hlast⟩ := ha
  refine ⟨last, front, name, links, l, ?_, ?_, hmissing⟩
  · simpa using hlast.trans (hnames.append (.refl [last]))
  · rwa [← origin_congr habs]

/-- Below a directory that is missing none can be made. -/
theorem IsMissing.makeDirectory {more : List String} (h : fs.IsMissing base e path more)
    (hmore : more ≠ []) (hne : path ≠ "") (hsize : path.utf8ByteSize ≤ maxPathSize) (mode : Nat) :
    fs.makeDirectory base path mode = .error .notFound ∨
      fs.makeDirectory base path mode = .error e := by
  obtain ⟨front, name, links, l, hnames, hleads, hdir, hdot, hup, hn, hlong⟩ := h
  rw [makeDirectory_missing hne hsize hnames hleads hdir hdot hup hn fun h => absurd h hmore]
  split
  · next hname => exact .inr (by rw [hlong hname])
  · exact .inl rfl

/-- A directory that cannot be made, although the one above it has just been made, is missing. -/
theorem isMissing_of_blocked (hne : path ≠ "") (ha : Above path parent)
    (hup : ".." ∉ Path.names path) (hsize : path.utf8ByteSize ≤ maxPathSize)
    (h : fs.makeDirectory base path mode = .error e) (hparent : fs.Reaches base parent)
    (hempty : ∀ l, LeadsTo fs base parent l → ∀ name, fs.node? (l ++ [name]) = none)
    (hnot : ¬fs.Reaches base path) : fs.IsMissing base e path [] := by
  obtain ⟨l, ⟨links, hparentLeads⟩, hdir⟩ := hparent
  have hn := hempty l ⟨links, hparentLeads⟩
  obtain ⟨habs, name, hnames⟩ := ha
  have hleads : Leads fs maxLinks (origin base path) (Path.names parent) links l := by
    rwa [← origin_congr habs]
  have hmem : name ∈ Path.names path := hnames.mem (by simp)
  have hdot : name ≠ "." := by
    rintro rfl
    exact hnot ⟨l, ⟨links, (hleads.append (.dot hdir .nil)).addDots hdir hnames⟩, hdir⟩
  have hne_up : name ≠ ".." := fun he => hup (he ▸ hmem)
  refine ⟨_, name, links, l, hnames, hleads, hdir, hdot, hne_up, hn name, fun hlong => ?_⟩
  rw [makeDirectory_missing hne hsize hnames hleads hdir hdot hne_up (hn name) fun _ => hlong,
    if_pos hlong] at h
  exact (Except.error.inj h).symm

/-! ## Trying again -/

theorem Makes.eq_of_empty (h : Makes base mode fs ("" :: paths) (.ok (), fs')) : fs' = fs := by
  generalize hresult : (Except.ok (), fs') = result at h
  cases h with
  | empty => exact (Prod.mk.inj hresult).2
  | made h =>
      obtain ⟨-, l, hl, -⟩ := grows_of_makeDirectory h
      exact absurd rfl (locateNew_eq_ok_iff.1 hl).1
  | stopped hne => exact absurd rfl hne
  | failed hne => exact absurd rfl hne
  | followed hne => exact absurd rfl hne
  | blocked hne => exact absurd rfl hne

/-- If a list of directories cannot be made, nothing has changed or it is stuck. -/
theorem Makes.eq_or_isStuck (h : Makes base mode fs paths (.error e, fs'))
    (hchain : List.IsChain (fun path parent => parent = "" ∨ Above path parent) paths) :
    fs' = fs ∨ ∃ e', fs'.IsStuck base mode e' paths := by
  generalize hresult : (Except.error e, fs') = result at h
  induction h with
  | nothing =>
      cases hresult
      exact .inl rfl
  | empty => cases hresult
  | made => cases hresult
  | stopped => exact .inl (Prod.mk.inj hresult).2
  | @failed _ path paths _ hne _ rest ih =>
      cases hresult
      rcases ih hchain.tail rfl with heq | ⟨e', hstuck⟩
      · exact .inl heq
      · cases paths with
        | nil =>
            obtain ⟨_, _, hcons, -⟩ := hstuck
            cases hcons
        | cons parent paths =>
            obtain ⟨e'', hstuck', -⟩ := hstuck.cons hne (List.isChain_cons_cons.1 hchain).1
            exact .inr ⟨e'', hstuck'⟩
  | followed => cases hresult
  | blocked hne h rest h' =>
      obtain ⟨herror, rfl⟩ := Prod.mk.inj hresult
      refine .inr ⟨_, isStuck_of_blocked hne h rest h' fun hdir => ?_⟩
      rw [if_pos hdir] at herror
      cases herror

/-- If the paths do not go up, it is stuck for the same reason. -/
theorem Makes.eq_or_isMissing (h : Makes base mode fs paths (.error e, fs')) (ht : fs.IsTree)
    (hchain : List.IsChain (fun path parent => parent = "" ∨ Above path parent) paths)
    (hunder : paths.Pairwise fun path top => top = "" ∨ Under path top)
    (hup : ∀ path ∈ paths, ".." ∉ Path.names path) :
    fs' = fs ∨ fs'.IsStuck base mode e paths ∧
      ∃ path rest more, paths = path :: rest ∧ fs'.IsMissing base e path more := by
  generalize hresult : (Except.error e, fs') = result at h
  induction h with
  | nothing =>
      cases hresult
      exact .inl rfl
  | empty => cases hresult
  | made => cases hresult
  | stopped => exact .inl (Prod.mk.inj hresult).2
  | @failed _ path paths _ hne h rest ih =>
      cases hresult
      have hups : ∀ p ∈ paths, ".." ∉ Path.names p := fun p hp => hup p (List.mem_cons_of_mem _ hp)
      rcases ih hchain.tail hunder.tail hups rfl with
        heq | ⟨hstuck, parent, paths, more, rfl, hmissing⟩
      · exact .inl heq
      · have ha := (List.isChain_cons_cons.1 hchain).1
        obtain ⟨name, hmore⟩ := hmissing.of_above (ha.resolve_left hstuck.ne_empty)
        obtain ⟨e', hstuck', hsame⟩ := hstuck.cons hne ha
        -- what is missing above is still missing, so there is no other reason here
        obtain rfl : e' = e := by
          rcases hsame with rfl | ⟨hfails, hnot⟩
          · rfl
          · have hcases := hmore.makeDirectory (by simp) hne (size_le_of_makeDirectory h) mode
            rw [hfails] at hcases
            rcases hcases with heq | heq
            · exact absurd (Except.error.inj heq) hnot
            · exact Except.error.inj heq
        exact .inr ⟨hstuck', path, parent :: paths, _, rfl, hmore⟩
  | followed => cases hresult
  | @blocked _ path paths _ hne h rest h' =>
      obtain ⟨herror, rfl⟩ := Prod.mk.inj hresult
      have hnot : ¬fs'.isDirectory base path = true := by
        intro hdir
        rw [if_pos hdir] at herror
        cases herror
      rw [if_neg hnot, Except.error.injEq] at herror
      subst herror
      by_cases hsame : fs' = fs
      · exact .inl hsame
      · -- the one above has just been made, and nothing is in it: this one is missing
        have hstuck := isStuck_of_blocked hne h rest h' hnot
        refine .inr ⟨hstuck, path, paths, [], rfl, ?_⟩
        cases paths with
        | nil => cases rest
        | cons parent paths =>
            have hparent : parent ≠ "" := by
              rintro rfl
              exact hsame rest.eq_of_empty
            have ha := (List.isChain_cons_cons.1 hchain).1.resolve_left hparent
            have hreaches := (isDirectory_iff_reaches.1 (rest.isDirectory.resolve_left hparent)).2.2
            have htops : ∀ top ∈ parent :: paths, top = "" ∨ Under parent top := by
              intro top htop
              rcases List.mem_cons.1 htop with rfl | htop
              · exact .inr (.refl _)
              · exact (List.pairwise_cons.1 (List.pairwise_cons.1 hunder).2).1 top htop
            have hempty (l : Location) (hl : LeadsTo fs' base parent l) (name : String) :
                fs'.node? (l ++ [name]) = none :=
              rest.nothing_in ht (hup parent (by simp)) htops hsame hl name
            exact isMissing_of_blocked hne ha (hup path List.mem_cons_self)
              (size_le_of_makeDirectory h) h' hreaches hempty hstuck.not_reaches

/-- Trying again does not help, and does nothing more. -/
theorem createTree_again (h : fs.createTree base path mode = (.error e, fs')) :
    ∃ e', fs'.createTree base path mode = (.error e', fs') := by
  have hmakes := makes_makeTree fs base mode (ancestors path)
  rw [createTree] at h
  rw [h] at hmakes
  rcases hmakes.eq_or_isStuck (isChain_ancestors path) with rfl | ⟨e', _, _, -, -, hmake⟩
  · exact ⟨e, h⟩
  · exact ⟨e', hmake⟩

/-- For a path that does not go up, the reason is the same as before. -/
theorem createTree_again_of_no_up (h : fs.createTree base path mode = (.error e, fs'))
    (ht : fs.IsTree) (hup : ".." ∉ Path.names path) :
    fs'.createTree base path mode = (.error e, fs') := by
  have hmakes := makes_makeTree fs base mode (ancestors path)
  rw [createTree] at h
  rw [h] at hmakes
  have hups : ∀ top ∈ ancestors path, ".." ∉ Path.names top := by
    intro top htop hm
    rcases under_of_mem_ancestors htop with rfl | ⟨-, rest, hnames⟩
    · rw [Path.names_empty] at hm
      cases hm
    · exact hup (hnames.mem (List.mem_append_left _ hm))
  rcases hmakes.eq_or_isMissing ht (isChain_ancestors path) (pairwise_ancestors path) hups with
    rfl | ⟨⟨_, _, -, -, hmake⟩, -⟩
  · exact h
  · exact hmake

end Playground.Machine.FileSystem
