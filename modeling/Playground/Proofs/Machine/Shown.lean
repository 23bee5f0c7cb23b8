import Playground.Machine.Installation
import Playground.Machine.Owner
import Playground.Proofs.Process.Exchange

set_option autoImplicit false

/-! # Exchanges on the machine

A state of the machine `Shows` an exchange if its pipes, its descriptors and a watch say what the
exchange says. That is so of the beginning when a process has just been started (`shows_spawn`). It
stays so when one end of a pipe is used and the exchange takes note of that, and when the machine
gives up what nobody holds. -/

namespace Playground.Machine

namespace Processes

variable {ps : Processes} {p q : Process} {id code : Nat}

theorem update_append (hid : p.id = q.id) (hnew : ∀ q' ∈ ps, q'.id ≠ p.id) :
    (ps ++ [q]).update p = ps ++ [p] := by
  have hkeep : ps.map (fun q' => if q'.id == p.id then p else q') = ps :=
    (List.map_congr_left fun q' hq' => if_neg (by simpa using hnew q' hq')).trans (List.map_id _)
  rw [update, List.map_append, hkeep]
  simp [hid]

theorem find?_append (hnew : ∀ q ∈ ps, q.id ≠ p.id) :
    find? (ps ++ [p]) p.id = some p := by
  have hnone : List.find? (fun q => q.id == p.id) ps = none :=
    List.find?_eq_none.2 fun q hq => by simpa using hnew q hq
  simp [find?, List.find?_append, hnone]

/-- What is left of a table when parents are sorted out are entries of it, at most with other
    parents. -/
theorem exists_eq_of_mem_settle (h : q ∈ settle ps) :
    ∃ p ∈ ps, ∃ parent, q = { p with parent := parent } := by
  unfold settle at h
  dsimp only at h
  split at h
  · exact ⟨q, h, q.parent, rfl⟩
  · obtain ⟨p, hp, rfl⟩ := List.mem_map.1 (List.mem_filter.1 h).1
    refine ⟨p, hp, ?_⟩
    split <;> exact ⟨_, rfl⟩

/-- After an end an entry is that of the process that has ended, or of another one. -/
theorem cases_of_mem_exit (h : q ∈ ps.exit id code) :
    q.id = id ∧ q.descriptors = [] ∧ q.status? = some (.exited code) ∨
      ∃ p ∈ ps, p.id ≠ id ∧ q.id = p.id ∧ q.descriptors = p.descriptors := by
  obtain ⟨r, hr, parent, rfl⟩ := exists_eq_of_mem_settle h
  obtain ⟨p, hp, rfl⟩ := List.mem_map.1 hr
  by_cases hid : (p.id == id) = true
  · rw [if_pos hid]
    exact .inl ⟨beq_iff_eq.1 hid, rfl, rfl⟩
  · rw [if_neg hid]
    exact .inr ⟨p, hp, by simpa using hid, rfl, rfl⟩

/-- A process that has ended stays on the table if its parent is not on it, as the owner of the
    machine is not. -/
theorem mem_exit (hp : p ∈ ps) (hparent : p.parent ≠ initial) (hkept : ∀ q ∈ ps, q.id ≠ p.parent) :
    p.finish (.exited code) ∈ ps.exit p.id code := by
  have hmem : p.finish (.exited code) ∈
      ps.map fun q => if q.id == p.id then q.finish (.exited code) else q :=
    List.mem_map.2 ⟨p, hp, if_pos (beq_self_eq_true p.id)⟩
  unfold exit settle
  dsimp only
  split
  · exact hmem
  · refine List.mem_filter.2 ⟨List.mem_map.2 ⟨_, hmem, if_neg ?_⟩, ?_⟩
    · rw [List.contains_iff_mem]
      intro hgone
      obtain ⟨r, hr, hid⟩ := List.mem_map.1 hgone
      obtain ⟨q, hq, rfl⟩ := List.mem_map.1 (List.mem_filter.1 hr).1
      refine hkept q hq ?_
      rw [← show (p.finish (.exited code)).parent = p.parent from rfl, ← hid]
      split <;> rfl
    · simp [isForgotten, Process.finish, hparent]

theorem find?_exit (hp : p ∈ ps) (hparent : p.parent ≠ initial)
    (hkept : ∀ q ∈ ps, q.id ≠ p.parent) :
    ((ps.exit p.id code).find? p.id).bind Process.status? = some (.exited code) := by
  have hsome : (List.find? (fun q => q.id == p.id) (ps.exit p.id code)).isSome = true :=
    List.find?_isSome.2 ⟨_, mem_exit hp hparent hkept, beq_self_eq_true p.id⟩
  obtain ⟨q, hq⟩ := Option.isSome_iff_exists.1 hsome
  rw [find?, hq, Option.bind_some]
  rcases cases_of_mem_exit (List.mem_of_find?_eq_some hq) with ⟨-, -, hstatus⟩ | ⟨r, -, hne, hid, -⟩
  · exact hstatus
  · have hfound : q.id = p.id := by simpa using List.find?_some hq
    exact absurd (hid.symm.trans hfound) hne

end Processes

namespace Watch

def tap (w : Watch) : Outlet → Tap
  | .stdout => w.stdout
  | .stderr => w.stderr

def setTap (w : Watch) : Outlet → Tap → Watch
  | .stdout, t => { w with stdout := t }
  | .stderr, t => { w with stderr := t }

@[simp]
theorem tap_setTap (w : Watch) (o : Outlet) (t : Tap) : (w.setTap o t).tap o = t := by
  cases o <;> rfl

theorem tap_setTap_of_ne (w : Watch) {o o' : Outlet} (t : Tap) (h : o' ≠ o) :
    (w.setTap o t).tap o' = w.tap o' := by
  cases o <;> cases o' <;> first | rfl | exact absurd rfl h

@[simp]
theorem feed_setTap (w : Watch) (o : Outlet) (t : Tap) : (w.setTap o t).feed = w.feed := by
  cases o <;> rfl

@[simp]
theorem fed_setTap (w : Watch) (o : Outlet) (t : Tap) : (w.setTap o t).fed = w.fed := by
  cases o <;> rfl

@[simp]
theorem input_setTap (w : Watch) (o : Outlet) (t : Tap) : (w.setTap o t).input = w.input := by
  cases o <;> rfl

@[simp]
theorem ended_setTap (w : Watch) (o : Outlet) (t : Tap) : (w.setTap o t).ended = w.ended := by
  cases o <;> rfl

@[simp]
theorem process_setTap (w : Watch) (o : Outlet) (t : Tap) :
    (w.setTap o t).process = w.process := by
  cases o <;> rfl

end Watch

namespace State

/-! ## Pipes of the machine -/

variable {m : State} {id id' : Nat} {p q : Pipe}

theorem lookup_setPipe (h : m.pipes.lookup id = some q) :
    (m.setPipe id p).pipes.lookup id = some p := by
  unfold setPipe
  dsimp only
  generalize m.pipes = pipes at h ⊢
  induction pipes with
  | nil => cases h
  | cons entry pipes ih =>
      obtain ⟨id', p'⟩ := entry
      by_cases hid : id = id'
      · subst hid
        simp
      · have hne : (id == id') = false := beq_eq_false_iff_ne.2 hid
        have hne' : (id' == id) = false := beq_eq_false_iff_ne.2 (Ne.symm hid)
        rw [List.lookup_cons, hne] at h
        simp only [List.map_cons, hne', Bool.false_eq_true, if_false, List.lookup_cons, hne]
        exact ih h

theorem lookup_setPipe_of_ne (h : id' ≠ id) :
    (m.setPipe id p).pipes.lookup id' = m.pipes.lookup id' := by
  unfold setPipe
  dsimp only
  induction m.pipes with
  | nil => rfl
  | cons entry pipes ih =>
      obtain ⟨id₁, p₁⟩ := entry
      rw [List.map_cons, List.lookup_cons, List.lookup_cons, ih]
      by_cases hid : id₁ = id
      · subst hid
        have hne : (id' == id₁) = false := beq_eq_false_iff_ne.2 h
        simp [hne]
      · simp [hid]

theorem hasWriter_of_feed {w : Watch} (hw : w ∈ m.watches) (h : w.feed = some id) :
    m.hasWriter id = true := by
  have hfed : (m.watches.any fun v => v.feed == some id) = true :=
    List.any_eq_true.2 ⟨w, hw, beq_iff_eq.2 h⟩
  rw [hasWriter, hfed, Bool.or_true]

theorem hasReader_of_tap {w : Watch} {o : Outlet} (hw : w ∈ m.watches)
    (h : (w.tap o).closed.isSome = false) : m.hasReader (w.tap o).pipe = true := by
  have hheard : (m.watches.any fun v =>
      (v.stdout.pipe == (w.tap o).pipe && v.stdout.closed.isNone) ||
        (v.stderr.pipe == (w.tap o).pipe && v.stderr.closed.isNone)) = true := by
    refine List.any_eq_true.2 ⟨w, hw, ?_⟩
    rw [← Option.not_isNone, Bool.not_eq_false'] at h
    cases o with
    | stdout => simp [Watch.tap, show w.stdout.closed.isNone = true from h]
    | stderr => simp [Watch.tap, show w.stderr.closed.isNone = true from h]
  rw [hasReader, hheard, Bool.or_true]

/-- What is kept by a condition on the keys is found as before. -/
theorem lookup_filter {α : Type} (f : Nat → Bool) (l : List (Nat × α)) {id : Nat}
    (h : f id = true) : (l.filter fun entry => f entry.1).lookup id = l.lookup id := by
  induction l with
  | nil => rfl
  | cons entry l ih =>
      obtain ⟨id', a⟩ := entry
      by_cases hid : id = id'
      · subst hid
        simp [h]
      · have hne : (id == id') = false := beq_eq_false_iff_ne.2 hid
        rw [List.lookup_cons, hne, List.filter_cons]
        split
        · rw [List.lookup_cons, hne]
          exact ih
        · exact ih

/-! ## Who holds what -/

section

variable {p : Process} {number : Nat}

theorem isHeld_of_mem {d : Descriptor} {object : Object} (hp : p ∈ m.processes)
    (hd : d ∈ p.descriptors)
    (hlookup : (m.descriptions.lookup d.description).map Description.object = some object) :
    m.isHeld object = true := by
  obtain ⟨held, hheld, rfl⟩ := Option.map_eq_some_iff.1 hlookup
  refine List.any_eq_true.2 ⟨p, hp, List.any_eq_true.2 ⟨d, hd, ?_⟩⟩
  rw [hheld]
  exact beq_self_eq_true held.object

theorem isHeld_of_description? {d : Description} (hp : p ∈ m.processes)
    (hd : m.description? p number = some (id, d)) : m.isHeld d.object = true := by
  unfold description? Process.description? at hd
  simp only [Option.bind_eq_some_iff, Option.map_eq_some_iff, Prod.mk.injEq] at hd
  obtain ⟨id, ⟨descriptor, hfind, rfl⟩, d', hlookup, rfl, rfl⟩ := hd
  exact isHeld_of_mem hp (List.mem_of_find?_eq_some hfind) (by rw [hlookup]; rfl)

end

theorem isHeld_sweep (m : State) (object : Object) : m.sweep.isHeld object = m.isHeld object := by
  unfold isHeld sweep
  rw [Bool.eq_iff_iff, List.any_eq_true, List.any_eq_true]
  refine exists_congr fun p => and_congr_right fun hp => ?_
  rw [List.any_eq_true, List.any_eq_true]
  refine exists_congr fun d => and_congr_right fun hd => ?_
  have hheld : (m.processes.any fun p => p.descriptors.any fun d' =>
      d'.description == d.description) = true :=
    List.any_eq_true.2 ⟨p, hp, List.any_eq_true.2 ⟨d, hd, beq_self_eq_true _⟩⟩
  rw [lookup_filter (fun id => m.processes.any fun p => p.descriptors.any fun d' =>
    d'.description == id) m.descriptions hheld]

/-! ## Exchanges that are shown -/

/-- The machine and a watch show an exchange whose input goes through a pipe. -/
structure Shows (m : State) (w : Watch) (pipe : Nat) (e : Exchange) : Prop where
  /-- The three pipes are three, and nobody else feeds them or listens to them. -/
  apart : ∀ o, (w.tap o).pipe ≠ pipe
  distinct : (w.tap .stdout).pipe ≠ (w.tap .stderr).pipe
  others : ∀ v ∈ m.watches, ∀ o, (v.tap o).pipe ≠ pipe ∧ v.feed ≠ some (w.tap o).pipe
  feed : w.feed = if e.inflow.isOpen then some pipe else none
  fed : w.fed.isNone = e.inflow.isOpen
  input : e.inflow.isOpen = true → w.input = e.inflow.pending
  /-- A pipe is there as long as somebody can use it. -/
  inflow : e.inflow.isOpen = true ∨ e.holds .stdin = true →
    m.pipes.lookup pipe = some e.inflow.pipe
  outflow : ∀ o, (e.outflow o).isClosed = false →
    m.pipes.lookup (w.tap o).pipe = some (e.outflow o).pipe
  reader : m.isHeld (.readEnd pipe) = e.holds .stdin
  writer : ∀ o, m.isHeld (.writeEnd (w.tap o).pipe) = e.holds o.stream
  drained : ∀ o, (w.tap o).chunks.reverse.flatten = (e.outflow o).drained
  closed : ∀ o, (w.tap o).closed.isSome = (e.outflow o).isClosed
  ended : w.ended.map Prod.snd = e.awaited?
  status : w.ended = none → (m.processes.find? w.process).bind Process.status? = e.status?
  /-- A process that has ended holds nothing. -/
  gone : e.status? ≠ none → ∀ p ∈ m.processes, p.id = w.process → p.descriptors = []

namespace Shows

variable {w : Watch} {pipe : Nat} {e : Exchange}

theorem hasReader (h : m.Shows w pipe e) : m.hasReader pipe = e.holds .stdin := by
  have hnone : (m.watches.any fun v => (v.stdout.pipe == pipe && v.stdout.closed.isNone) ||
      (v.stderr.pipe == pipe && v.stderr.closed.isNone)) = false := by
    refine List.any_eq_false.2 fun v hv => ?_
    have hout : v.stdout.pipe ≠ pipe := (h.others v hv .stdout).1
    have herr : v.stderr.pipe ≠ pipe := (h.others v hv .stderr).1
    simp [hout, herr]
  rw [State.hasReader, hnone, Bool.or_false, h.reader]

theorem hasWriter (h : m.Shows w pipe e) (o : Outlet) :
    m.hasWriter (w.tap o).pipe = e.holds o.stream := by
  have hnone : (m.watches.any fun v => v.feed == some (w.tap o).pipe) = false := by
    refine List.any_eq_false.2 fun v hv => ?_
    have hfeed := (h.others v hv o).2
    simpa using hfeed
  rw [State.hasWriter, hnone, Bool.or_false, h.writer]

theorem feed_eq (h : m.Shows w pipe e) (hopen : e.inflow.isOpen = true) : w.feed = some pipe := by
  rw [h.feed, hopen]
  rfl

theorem pipe_eq (h : m.Shows w pipe e) (hopen : e.inflow.isOpen = true) :
    m.pipe pipe = e.inflow.pipe := by
  rw [State.pipe, h.inflow (.inl hopen), Option.getD_some]

theorem pipe_tap_eq (h : m.Shows w pipe e) {o : Outlet} (hopen : (e.outflow o).isClosed = false) :
    m.pipe (w.tap o).pipe = (e.outflow o).pipe := by
  rw [State.pipe, h.outflow o hopen, Option.getD_some]

/-! ## What stays shown -/

theorem child (h : m.Shows w pipe e) (next : Child) :
    m.Shows w pipe { e with child := next } := { h with }

theorem take (h : m.Shows w pipe e) (hlookup : m.pipes.lookup pipe = some q) (n : Nat) :
    (m.setPipe pipe (e.inflow.pipe.pull n).2).Shows w pipe { e with inflow := e.inflow.take n } :=
  { h with
    inflow := fun _ => lookup_setPipe hlookup
    outflow := fun o ho => (lookup_setPipe_of_ne (h.apart o)).trans (h.outflow o ho) }

/-- One outlet goes on, and all else stays. -/
theorem setTap (h : m.Shows w pipe e) {o : Outlet} {t : Tap} {c : Outflow}
    {pipes : List (Nat × Pipe)} (hpipe : t.pipe = (w.tap o).pipe)
    (hothers : ∀ id, id ≠ (w.tap o).pipe → pipes.lookup id = m.pipes.lookup id)
    (hthis : c.isClosed = false → pipes.lookup (w.tap o).pipe = some c.pipe)
    (hdrained : t.chunks.reverse.flatten = c.drained) (hclosed : t.closed.isSome = c.isClosed) :
    ({ m with pipes := pipes } : State).Shows (w.setTap o t) pipe (e.setOutflow o c) := by
  have hsame (o' : Outlet) : ((w.setTap o t).tap o').pipe = (w.tap o').pipe := by
    by_cases ho : o' = o
    · rw [ho, Watch.tap_setTap, hpipe]
    · rw [Watch.tap_setTap_of_ne w t ho]
  have hne {o' : Outlet} (ho : o' ≠ o) : (w.tap o').pipe ≠ (w.tap o).pipe := by
    have hdistinct := h.distinct
    cases o <;> cases o' <;> first | exact absurd rfl ho | exact hdistinct | exact hdistinct.symm
  refine ⟨fun o' => ?_, ?_, fun v hv o' => ?_, ?_, ?_, ?_, fun hused => ?_, fun o' ho' => ?_,
    h.reader, fun o' => ?_, fun o' => ?_, fun o' => ?_, ?_, ?_, ?_⟩
  · rw [hsame]
    exact h.apart o'
  · rw [hsame, hsame]
    exact h.distinct
  · rw [hsame]
    exact h.others v hv o'
  · rw [Watch.feed_setTap]
    exact h.feed
  · rw [Watch.fed_setTap]
    exact h.fed
  · rw [Watch.input_setTap]
    exact h.input
  · exact (hothers _ (h.apart o).symm).trans (h.inflow hused)
  · rw [hsame]
    by_cases ho : o' = o
    · subst ho
      rw [Exchange.setOutflow_self] at ho' ⊢
      exact hthis ho'
    · rw [Exchange.setOutflow_of_ne e c ho] at ho' ⊢
      rw [← h.outflow o' ho']
      exact hothers _ (hne ho)
  · rw [hsame]
    exact h.writer o'
  · by_cases ho : o' = o
    · rw [ho, Watch.tap_setTap, Exchange.setOutflow_self, hdrained]
    · rw [Watch.tap_setTap_of_ne w t ho, Exchange.setOutflow_of_ne e c ho]
      exact h.drained o'
  · by_cases ho : o' = o
    · rw [ho, Watch.tap_setTap, Exchange.setOutflow_self, hclosed]
    · rw [Watch.tap_setTap_of_ne w t ho, Exchange.setOutflow_of_ne e c ho]
      exact h.closed o'
  · rw [Watch.ended_setTap]
    exact h.ended
  · rw [Watch.ended_setTap, Watch.process_setTap]
    exact h.status
  · rw [Watch.process_setTap]
    exact h.gone

theorem write (h : m.Shows w pipe e) {o : Outlet} (hopen : (e.outflow o).isClosed = false)
    (octets : List UInt8) (next : Child) :
    (m.setPipe (w.tap o).pipe ((e.outflow o).pipe.push octets)).Shows w pipe
      ({ e with child := next }.setOutflow o ((e.outflow o).write octets)) := by
  have hkeep : w.setTap o (w.tap o) = w := by
    cases o <;> rfl
  have hwrite := (h.child next).setTap (t := w.tap o) (c := (e.outflow o).write octets) rfl
    (fun id hid => lookup_setPipe_of_ne hid) (fun _ => lookup_setPipe (h.outflow o hopen))
    (h.drained o) (h.closed o)
  rw [hkeep] at hwrite
  exact hwrite

/-- The watch takes its place among the others. -/
theorem replaced (h : m.Shows w pipe e) :
    ({ m with watches := m.watches.map fun v => if v.process == w.process then w else v } :
      State).Shows w pipe e := by
  refine { h with others := fun v hv o => ?_ }
  obtain ⟨v', hv', rfl⟩ := List.mem_map.1 hv
  split
  · refine ⟨h.apart o, ?_⟩
    rw [h.feed]
    split
    · exact fun heq => h.apart o (Option.some.inj heq).symm
    · nofun
  · exact h.others v' hv' o

/-- What nobody holds any more is nothing that an exchange needs. -/
theorem tidy (h : m.Shows w pipe e) (hw : w ∈ m.watches) : m.tidy.Shows w pipe e := by
  have hlookup {id : Nat} (hused : (m.sweep.hasWriter id || m.sweep.hasReader id) = true) :
      m.tidy.pipes.lookup id = m.pipes.lookup id :=
    lookup_filter (fun id => m.sweep.hasWriter id || m.sweep.hasReader id) m.pipes hused
  have hheld (object : Object) : m.tidy.isHeld object = m.isHeld object := m.isHeld_sweep object
  refine { h with
    inflow := fun hused => ?_
    outflow := fun o ho => ?_
    reader := (hheld _).trans h.reader
    writer := fun o => (hheld _).trans (h.writer o) }
  · rw [← h.inflow hused]
    refine hlookup ?_
    rcases hused with hopen | hholds
    · rw [hasWriter_of_feed (m := m.sweep) hw (h.feed_eq hopen), Bool.true_or]
    · rw [State.hasReader, isHeld_sweep, h.reader, hholds, Bool.true_or, Bool.or_true]
  · rw [← h.outflow o ho]
    refine hlookup ?_
    rw [hasReader_of_tap (m := m.sweep) hw ((h.closed o).trans ho), Bool.or_true]

end Shows

/-! ## The beginning -/

/-- The numbers that the machine has given away are below the next one. -/
structure IsNumbered (m : State) : Prop where
  processes : ∀ q ∈ m.processes, q.id < m.next
  pipes : ∀ v ∈ m.watches, ∀ o, (v.tap o).pipe < m.next
  feeds : ∀ v ∈ m.watches, ∀ id, v.feed = some id → id < m.next

example : Installation.machine.IsNumbered := ⟨nofun, nofun, nofun⟩

section

variable {software : Software} {p : Process} {m' : State}

/-- A process that becomes a program keeps its number and the descriptors that are not private. -/
theorem exists_of_become {path : String} {arguments : List (List UInt8)}
    {environment : List (List UInt8 × List UInt8)}
    (h : become software m p path arguments environment = .ok m') :
    ∃ p' : Process, p'.id = p.id ∧ p'.descriptors = (p.descriptors.filter fun d => !d.isPrivate) ∧
      p'.status? = none ∧ m' = (m.setProcess p').tidy := by
  unfold become at h
  split at h
  · cases h
  · split at h
    · cases h
    · split at h
      · cases h
      · cases h
        refine ⟨_, ?_, ?_, ?_, rfl⟩ <;> rfl

theorem exists_of_becomeLaunched {launch : Launch}
    (h : becomeLaunched software m p launch = .ok m') :
    ∃ p' : Process, p'.id = p.id ∧ p'.descriptors = (p.descriptors.filter fun d => !d.isPrivate) ∧
      p'.status? = none ∧ m' = (m.setProcess p').tidy := by
  unfold becomeLaunched at h
  dsimp only at h
  split at h
  · exact exists_of_become h
  · exact exists_of_become h

/-- A process that was just started with an input is at the beginning of an exchange. -/
theorem shows_spawn (hm : m.IsNumbered) {owner : Nat} {limit : Duration} {launch : Launch}
    (hinput : launch.input.isSome = true) (child : Child)
    (h : m.spawn software owner launch limit = .ok m') :
    ∃ w ∈ m'.watches,
      m'.Shows w m.next (.start child launch.input fun _ => Pipe.defaultCapacity) := by
  unfold spawn at h
  split at h
  · cases h
  · split at h
    · cases h
    · dsimp only [newPipe, describe, newProcess] at h
      obtain ⟨p, hid, hdescriptors, hstatus, rfl⟩ := exists_of_becomeLaunched h
      dsimp only at hid
      have hnew : ∀ q ∈ m.processes, q.id ≠ p.id := by
        intro q hq
        have hless := hm.processes q hq
        omega
      refine ⟨_, List.mem_cons_self .., Shows.tidy ?_ (List.mem_cons_self ..)⟩
      rw [setProcess, Processes.update_append hid hnew]
      have hmem : p ∈ m.processes ++ [p] := List.mem_append_right _ (List.mem_singleton_self p)
      replace hdescriptors : p.descriptors = [⟨0, m.next + 1 + 1 + 1, false⟩,
          ⟨1, m.next + 1 + 1 + 1 + 1, false⟩, ⟨2, m.next + 1 + 1 + 1 + 1 + 1, false⟩] :=
        hdescriptors
      clear h
      have hless (n k : Nat) (hk : 0 < k) : (n == n + k) = false := by
        rw [beq_eq_false_iff_ne]
        omega
      simp only [Nat.add_assoc, Nat.reduceAdd] at hdescriptors hid ⊢
      refine ⟨fun o => ?_, ?_, fun v hv o => ?_, ?_, ?_, fun _ => ?_, fun _ => ?_, fun o _ => ?_, ?_,
        fun o => ?_, fun o => by cases o <;> rfl, fun o => by cases o <;> rfl, rfl, fun _ => ?_, nofun⟩
      · cases o <;> simp only [Watch.tap] <;> omega
      · simp only [Watch.tap]
        omega
      · rcases List.mem_cons.1 hv with rfl | hv
        · cases o <;> simp only [Watch.tap, ne_eq, Option.some.injEq] <;> omega
        · have hpipe := hm.pipes v hv o
          refine ⟨by omega, fun hfeed => ?_⟩
          have hless := hm.feeds v hv _ hfeed
          cases o <;> simp only [Watch.tap] at hless <;> omega
      · simp [Exchange.start, hinput]
      · simp [Exchange.start, hinput]
      · obtain ⟨text, htext⟩ := Option.isSome_iff_exists.1 hinput
        rw [htext]
        rfl
      · simp [Exchange.start, List.lookup_cons, hless]
      · cases o <;> simp [Watch.tap, Exchange.start, List.lookup_cons, hless]
      · exact isHeld_of_mem hmem (hdescriptors ▸ List.mem_cons_self ..)
          (by simp [List.lookup_cons, hless])
      · cases o with
        | stdout =>
            exact isHeld_of_mem (d := ⟨1, m.next + 4, false⟩) hmem (by simp [hdescriptors])
              (by simp [Watch.tap, List.lookup_cons, hless])
        | stderr =>
            exact isHeld_of_mem (d := ⟨2, m.next + 5, false⟩) hmem (by simp [hdescriptors])
              (by simp [Watch.tap])
      · rw [← hid, Processes.find?_append hnew]
        exact hstatus
    · cases h

end

end State

end Playground.Machine
