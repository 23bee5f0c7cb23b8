import Mathlib.Logic.Relation
import Playground.Machine.Process

set_option autoImplicit false

/-! # Who descends from whom

A process may start others, leave its group, end, and be taken off the table; when it ends, others
become the parents of its children. So the table of processes does not tell who descends from whom.
A `Lineage` is a table together with all starts there have been.

`Moves` is one step of any process. Whatever is done, a process that is alive was alive before, with
the same number, or has just been started by one that was (`Moves.alive`). A number is not used
again, so starts that are known stay what they are. -/

namespace Playground.Machine

/-! ## What signals leave of a table -/

namespace Process

variable {p : Process} {s : Signal}

@[simp] theorem finish_id (p : Process) (status : WaitStatus) : (p.finish status).id = p.id := rfl

@[simp] theorem finish_group (p : Process) (status : WaitStatus) :
    (p.finish status).group = p.group := rfl

@[simp] theorem isRunning_finish (p : Process) (status : WaitStatus) :
    (p.finish status).isRunning = false := rfl

theorem receive_id (p : Process) (s : Signal) : (p.receive s).id = p.id := by
  unfold receive
  grind [finish_id]

theorem receive_group (p : Process) (s : Signal) : (p.receive s).group = p.group := by
  unfold receive
  grind [finish_group]

theorem isRunning_of_receive (h : (p.receive s).isRunning = true) : p.isRunning = true := by
  cases hp : p.isRunning with
  | true => rfl
  | false =>
      rw [receive, if_pos (.inl hp), hp] at h
      exact h

/-- Nothing can be done about being killed. -/
theorem isRunning_receive_kill (p : Process) : (p.receive Signal.kill).isRunning = false := by
  unfold receive
  split
  · next h => simpa [Signal.kill] using h
  · rfl

end Process

namespace Processes

variable {ps : Processes} {q : Process}

theorem exists_of_mem_settle (h : q ∈ settle ps) :
    ∃ p ∈ ps, p.id = q.id ∧ p.group = q.group ∧ p.isRunning = q.isRunning := by
  unfold settle at h
  dsimp only at h
  split at h
  · exact ⟨q, h, rfl, rfl, rfl⟩
  · obtain ⟨p, hp, rfl⟩ := List.mem_map.1 (List.mem_filter.1 h).1
    refine ⟨p, hp, ?_⟩
    split <;> exact ⟨rfl, rfl, rfl⟩

/-- Nobody who is running is forgotten. -/
theorem exists_mem_settle {p : Process} (h : p ∈ ps) (hp : p.isRunning = true) :
    ∃ q ∈ settle ps, q.id = p.id ∧ q.isRunning = true := by
  unfold settle
  dsimp only
  split
  · exact ⟨p, h, rfl, hp⟩
  · have hkept (q : Process) (hq : q.isRunning = true) : (!isForgotten q) = true := by
      simp [isForgotten, hq]
    refine ⟨_, List.mem_filter.2 ⟨List.mem_map_of_mem h, hkept _ ?_⟩, ?_, ?_⟩
    · split <;> exact hp
    · split <;> rfl
    · split <;> exact hp

/-- Whoever runs after a signal has run before it, and has not been killed by it. -/
theorem exists_of_mem_signal {isMeant : Process → Bool} {s : Signal}
    (h : q ∈ ps.signal isMeant s) (hq : q.isRunning = true) :
    ∃ p ∈ ps, p.isRunning = true ∧ p.id = q.id ∧ p.group = q.group ∧
      (s = Signal.kill → isMeant p = false) := by
  obtain ⟨r, hr, hid, hgroup, hrunning⟩ := exists_of_mem_settle h
  obtain ⟨p, hp, rfl⟩ := List.mem_map.1 hr
  rw [hq] at hrunning
  by_cases hmeant : isMeant p = true
  · rw [if_pos hmeant] at hid hgroup hrunning
    rw [Process.receive_id] at hid
    rw [Process.receive_group] at hgroup
    refine ⟨p, hp, Process.isRunning_of_receive hrunning, hid, hgroup, ?_⟩
    rintro rfl
    rw [Process.isRunning_receive_kill] at hrunning
    cases hrunning
  · rw [if_neg hmeant] at hid hgroup hrunning
    exact ⟨p, hp, hrunning, hid, hgroup, fun _ => by simpa using hmeant⟩

/-- Whoever is not meant goes on. -/
theorem exists_mem_signal (isMeant : Process → Bool) (s : Signal) {p : Process} (h : p ∈ ps)
    (hp : p.isRunning = true) (hmeant : isMeant p = false) :
    ∃ q ∈ ps.signal isMeant s, q.id = p.id ∧ q.isRunning = true := by
  refine exists_mem_settle (List.mem_map.2 ⟨p, h, ?_⟩) hp
  rw [hmeant, if_neg Bool.false_ne_true]

/-- Whoever runs after a group was killed has run before, in another group. -/
theorem exists_of_mem_killGroup {group : Nat} (h : q ∈ ps.killGroup group)
    (hq : q.isRunning = true) :
    ∃ p ∈ ps, p.isRunning = true ∧ p.id = q.id ∧ p.group = q.group ∧ q.group ≠ group := by
  obtain ⟨p, hp, hrunning, hid, hgroup, hmeant⟩ := exists_of_mem_signal h hq
  refine ⟨p, hp, hrunning, hid, hgroup, ?_⟩
  rw [← hgroup]
  simpa using hmeant rfl

/-- Whoever runs after a process came to its end has run before, and is another one. -/
theorem exists_of_mem_exit {id code : Nat} (h : q ∈ ps.exit id code) (hq : q.isRunning = true) :
    ∃ p ∈ ps, p.isRunning = true ∧ p.id = q.id ∧ p.group = q.group ∧ q.id ≠ id := by
  obtain ⟨r, hr, hid, hgroup, hrunning⟩ := exists_of_mem_settle h
  obtain ⟨p, hp, rfl⟩ := List.mem_map.1 hr
  rw [hq] at hrunning
  by_cases hexits : (p.id == id) = true
  · rw [if_pos hexits, Process.isRunning_finish] at hrunning
    cases hrunning
  · rw [if_neg hexits] at hid hgroup hrunning
    refine ⟨p, hp, hrunning, hid, hgroup, ?_⟩
    rw [← hid]
    simpa using hexits

end Processes

/-! ## Lineages and their moves -/

structure Lineage where
  table : Processes
  /-- Who has started whom, oldest first. -/
  starts : List (Nat × Nat)

namespace Lineage

/-- The process is on the table and has not ended. -/
def Alive (l : Lineage) (p : Process) : Prop := p ∈ l.table ∧ p.isRunning = true

/-- The second is the first, or was started by one that descends from it. -/
def Descends (l : Lineage) : Nat → Nat → Prop :=
  Relation.ReflTransGen fun parent child => (parent, child) ∈ l.starts

/-- The number has been given to a process. -/
def Knows (l : Lineage) (n : Nat) : Prop := ∃ parent, (parent, n) ∈ l.starts

/-- The number has not been used. -/
structure IsNew (l : Lineage) (n : Nat) : Prop where
  not_there : ∀ p ∈ l.table, p.id ≠ n
  not_known : ∀ parent child, (parent, child) ∈ l.starts → parent ≠ n ∧ child ≠ n

/-- One step of a process; those that may leave their groups are given. -/
inductive Moves (leaves : Nat → Prop) : Lineage → Lineage → Prop where
  | forks {l : Lineage} {p : Process} {child : Nat} (readyAt : Nat) (script : Script Nat)
      (hp : l.Alive p) (hnew : l.IsNew child) :
      Moves leaves l ⟨l.table ++ [p.fork child readyAt script], l.starts ++ [(p.id, child)]⟩
  /-- It becomes a member of a group, which may be new, and of a session, which may be new. -/
  | regroups {l : Lineage} {p : Process} (group session : Nat) (hp : l.Alive p)
      (hleaves : leaves p.id) :
      Moves leaves l
        { l with table := l.table.update { p with group := group, session := session } }
  /-- It does something else with itself. -/
  | goesOn {l : Lineage} {p q : Process} (hp : l.Alive p) (hid : q.id = p.id)
      (hgroup : q.group = p.group) : Moves leaves l { l with table := l.table.update q }
  | exits (l : Lineage) (id code : Nat) : Moves leaves l { l with table := l.table.exit id code }
  | signals (l : Lineage) (isMeant : Process → Bool) (s : Signal) :
      Moves leaves l { l with table := l.table.signal isMeant s }
  /-- It looks after one that has ended. -/
  | reaps {l : Lineage} (id : Nat) (h : ∀ p ∈ l.table, p.id = id → p.isRunning = false) :
      Moves leaves l { l with table := l.table.reap id }

variable {leaves : Nat → Prop} {l m k : Lineage} {p q : Process} {root n : Nat}

theorem IsNew.ne_of_alive (h : l.IsNew n) (hp : l.Alive p) : p.id ≠ n := h.not_there p hp.1

theorem IsNew.ne_of_knows (h : l.IsNew n) (hr : l.Knows root) : root ≠ n := by
  obtain ⟨parent, hstart⟩ := hr
  exact (h.not_known parent root hstart).2

theorem exists_of_mem_update (h : q ∈ l.table.update p) : q ∈ l.table ∨ q = p := by
  obtain ⟨r, hr, rfl⟩ := List.mem_map.1 h
  split
  · exact .inr rfl
  · exact .inl hr

/-! ## What a move does -/

/-- Starts are not forgotten, and a new one is that of a new process by one that is alive. -/
theorem Moves.starts_eq (h : Moves leaves l m) :
    m.starts = l.starts ∨ ∃ p child, l.Alive p ∧ l.IsNew child ∧
      m.starts = l.starts ++ [(p.id, child)] := by
  cases h with
  | forks readyAt script hp hnew => exact .inr ⟨_, _, hp, hnew, rfl⟩
  | regroups | goesOn | exits | signals | reaps => exact .inl rfl

/-- Whoever is alive was alive before, or has just been started by one that was. -/
theorem Moves.alive (h : Moves leaves l m) (hq : m.Alive q) :
    (∃ p, l.Alive p ∧ p.id = q.id ∧ (p.group = q.group ∨ leaves q.id)) ∨
      ∃ p, l.Alive p ∧ l.IsNew q.id ∧ p.group = q.group ∧
        m.starts = l.starts ++ [(p.id, q.id)] := by
  obtain ⟨hmem, hrunning⟩ := hq
  cases h with
  | @forks p child readyAt script hp hnew =>
      rcases List.mem_append.1 hmem with hmem | hmem
      · exact .inl ⟨q, ⟨hmem, hrunning⟩, rfl, .inl rfl⟩
      · obtain rfl := List.mem_singleton.1 hmem
        exact .inr ⟨p, hp, hnew, rfl, rfl⟩
  | @regroups p group session hp hleaves =>
      rcases exists_of_mem_update hmem with hmem | rfl
      · exact .inl ⟨q, ⟨hmem, hrunning⟩, rfl, .inl rfl⟩
      · exact .inl ⟨p, hp, rfl, .inr hleaves⟩
  | @goesOn p p' hp hid hgroup =>
      rcases exists_of_mem_update hmem with hmem | rfl
      · exact .inl ⟨q, ⟨hmem, hrunning⟩, rfl, .inl rfl⟩
      · exact .inl ⟨p, hp, hid.symm, .inl hgroup.symm⟩
  | exits id code =>
      obtain ⟨p, hp, hpr, hid, hgroup, -⟩ := Processes.exists_of_mem_exit hmem hrunning
      exact .inl ⟨p, ⟨hp, hpr⟩, hid, .inl hgroup⟩
  | signals isMeant s =>
      obtain ⟨p, hp, hpr, hid, hgroup, -⟩ := Processes.exists_of_mem_signal hmem hrunning
      exact .inl ⟨p, ⟨hp, hpr⟩, hid, .inl hgroup⟩
  | reaps id h =>
      exact .inl ⟨q, ⟨(List.mem_filter.1 hmem).1, hrunning⟩, rfl, .inl rfl⟩

theorem Moves.subset_starts (h : Moves leaves l m) : l.starts ⊆ m.starts := by
  rcases h.starts_eq with heq | ⟨p, child, -, -, heq⟩
  · rw [heq]
    exact List.Subset.refl _
  · rw [heq]
    exact List.subset_append_left _ _

theorem Descends.mono (hsub : l.starts ⊆ m.starts) (h : l.Descends root n) : m.Descends root n :=
  Relation.ReflTransGen.mono (fun _ _ hstart => hsub hstart) _ _ h

theorem Knows.mono (hsub : l.starts ⊆ m.starts) (h : l.Knows n) : m.Knows n := by
  obtain ⟨parent, hstart⟩ := h
  exact ⟨parent, hsub hstart⟩

/-- A process that was started just now descends from those that its parent descends from, and for
    the others nothing has changed. -/
theorem descends_of_start {parent child : Nat} (hstarts : m.starts = l.starts ++ [(parent, child)])
    (hnew : l.IsNew child) (hroot : root ≠ child) (hparent : parent ≠ child)
    (h : m.Descends root n) :
    (n ≠ child ∧ l.Descends root n) ∨ (n = child ∧ l.Descends root parent) := by
  induction h with
  | refl => exact .inl ⟨hroot, .refl⟩
  | @tail a b _ hstart ih =>
      -- Nothing was started by the new process yet, so it can only come last.
      rw [hstarts] at hstart
      rcases List.mem_append.1 hstart with hold | hold
      · obtain ⟨hne, hne'⟩ := hnew.not_known a b hold
        rcases ih with ⟨-, hdescends⟩ | ⟨rfl, -⟩
        · exact .inl ⟨hne', hdescends.tail hold⟩
        · exact absurd rfl hne
      · obtain ⟨rfl, rfl⟩ := Prod.mk.inj (List.mem_singleton.1 hold)
        rcases ih with ⟨-, hdescends⟩ | ⟨heq, -⟩
        · exact .inr ⟨rfl, hdescends⟩
        · exact absurd heq hparent

/-- A living descendant was one before, or has just been started by one. -/
theorem Moves.descendant (h : Moves leaves l m) (hroot : l.Knows root) (hq : m.Alive q)
    (hd : m.Descends root q.id) :
    ∃ p, l.Alive p ∧ l.Descends root p.id ∧ m.Descends p.id q.id ∧
      (p.group = q.group ∨ leaves q.id) := by
  rcases h.alive hq with ⟨p, hp, hid, hgroup⟩ | ⟨p, hp, hnew, hgroup, hstarts⟩
  · refine ⟨p, hp, ?_, hid ▸ .refl, hgroup⟩
    rcases h.starts_eq with heq | ⟨parent, child, hparent, hnew, heq⟩
    · rw [hid]
      exact hd.mono (by simp [heq])
    · -- The process that has just been started is not this one.
      rw [← hid] at hd
      rcases descends_of_start heq hnew (hnew.ne_of_knows hroot) (hnew.ne_of_alive hparent) hd with
        ⟨-, hold⟩ | ⟨heq', -⟩
      · exact hold
      · exact absurd heq' (hnew.ne_of_alive hp)
  · have hstart : (p.id, q.id) ∈ m.starts := by simp [hstarts]
    refine ⟨p, hp, ?_, .single hstart, .inl hgroup⟩
    rcases descends_of_start hstarts hnew (hnew.ne_of_knows hroot) (hnew.ne_of_alive hp) hd with
      ⟨hne, -⟩ | ⟨-, hparent⟩
    · exact absurd rfl hne
    · exact hparent

/-! ## Any number of moves -/

abbrev MovesOn (leaves : Nat → Prop) : Lineage → Lineage → Prop :=
  Relation.ReflTransGen (Moves leaves)

theorem MovesOn.subset_starts (h : MovesOn leaves l m) : l.starts ⊆ m.starts := by
  induction h with
  | refl => exact List.Subset.refl _
  | tail _ hm ih => exact List.Subset.trans ih hm.subset_starts

/-- A number is not used again. -/
theorem MovesOn.stays_gone (h : MovesOn leaves l m) (hroot : l.Knows root)
    (hgone : ∀ p, l.Alive p → p.id ≠ root) : ∀ p, m.Alive p → p.id ≠ root := by
  induction h with
  | refl => exact hgone
  | @tail k m hk hm ih =>
      intro q hq
      rcases hm.alive hq with ⟨p, hp, hid, -⟩ | ⟨p, -, hnew, -⟩
      · rw [← hid]
        exact ih p hp
      · exact (hnew.ne_of_knows (hroot.mono (MovesOn.subset_starts hk))).symm

/-- Living descendants descend from those of before. -/
theorem MovesOn.descendant (h : MovesOn leaves l m) (hroot : l.Knows root) (hq : m.Alive q)
    (hd : m.Descends root q.id) :
    ∃ p, l.Alive p ∧ l.Descends root p.id ∧ m.Descends p.id q.id := by
  induction h generalizing q with
  | refl => exact ⟨q, hq, hd, .refl⟩
  | @tail k m hk hm ih =>
      obtain ⟨r, hr, hdr, hrq, -⟩ := hm.descendant (hroot.mono (MovesOn.subset_starts hk)) hq hd
      obtain ⟨p, hp, hdp, hpr⟩ := ih hr hdr
      exact ⟨p, hp, hdp, (hpr.mono hm.subset_starts).trans hrq⟩

/-- The living descendants stay in a group, if none of them leaves it. -/
theorem MovesOn.same_group (h : MovesOn leaves l m) (hroot : l.Knows root) {group : Nat}
    (hl : ∀ p, l.Alive p → l.Descends root p.id → p.group = group)
    (hstay : ∀ n, m.Descends root n → ¬leaves n) (hq : m.Alive q) (hd : m.Descends root q.id) :
    q.group = group := by
  induction h generalizing q with
  | refl => exact hl q hq hd
  | @tail k m hk hm ih =>
      obtain ⟨p, hp, hdp, -, hgroup⟩ :=
        hm.descendant (hroot.mono (MovesOn.subset_starts hk)) hq hd
      -- It is in the group that it was in before, or that its parent was in.
      have hkeeps : p.group = q.group := hgroup.resolve_right (hstay q.id hd)
      rw [← hkeeps]
      exact ih (fun n hn => hstay n (hn.mono hm.subset_starts)) hp hdp

/-! ## Starting and killing -/

variable {group : Nat}

/-- A process is started by one that need not be on the table. -/
def start (l : Lineage) (p : Process) : Lineage :=
  ⟨l.table ++ [p], l.starts ++ [(p.parent, p.id)]⟩

def killGroup (l : Lineage) (group : Nat) : Lineage :=
  { l with table := l.table.killGroup group }

/-- Kills one process and looks after it. -/
def kill (l : Lineage) (id : Nat) : Lineage :=
  { l with table := (l.table.signal (fun p => p.id == id) Signal.kill).reap id }

theorem knows_start : (l.start p).Knows p.id := ⟨p.parent, by simp [start]⟩

theorem eq_of_alive_start (hnew : l.IsNew p.id) (hq : (l.start p).Alive q) (hid : q.id = p.id) :
    q = p := by
  rcases List.mem_append.1 hq.1 with hmem | hmem
  · exact absurd hid (hnew.not_there q hmem)
  · exact List.mem_singleton.1 hmem

/-- At first nobody else descends from a process. -/
theorem eq_of_descends_start (hnew : l.IsNew p.id) (h : (l.start p).Descends p.id n) :
    n = p.id := by
  induction h with
  | refl => rfl
  | @tail a b _ hstart ih =>
      subst ih
      rcases List.mem_append.1 hstart with hold | hold
      · exact absurd rfl (hnew.not_known _ _ hold).1
      · exact (Prod.mk.inj (List.mem_singleton.1 hold)).2

/-- Killing a group spares those who are not in it, and nobody else. -/
theorem alive_killGroup_iff :
    (∃ q, (l.killGroup group).Alive q ∧ q.id = n) ↔
      ∃ p, l.Alive p ∧ p.group ≠ group ∧ p.id = n := by
  constructor
  · rintro ⟨q, ⟨hmem, hrunning⟩, rfl⟩
    obtain ⟨p, hp, hpr, hid, hgroup, hne⟩ := Processes.exists_of_mem_killGroup hmem hrunning
    exact ⟨p, ⟨hp, hpr⟩, hgroup ▸ hne, hid⟩
  · rintro ⟨p, ⟨hp, hpr⟩, hne, rfl⟩
    have hmeant : (p.group == group) = false := by simpa using hne
    obtain ⟨q, hq, hid, hrunning⟩ := Processes.exists_mem_signal (fun p => p.group == group)
      Signal.kill hp hpr hmeant
    exact ⟨q, ⟨hq, hrunning⟩, hid⟩

theorem moves_killGroup : Moves leaves l (l.killGroup group) := .signals l _ Signal.kill

theorem ne_of_alive_kill (h : (l.kill n).Alive p) : p.id ≠ n := by
  simpa using (List.mem_filter.1 h.1).2

theorem exists_alive_kill (h : l.Alive p) (hne : p.id ≠ n) :
    ∃ q, (l.kill n).Alive q ∧ q.id = p.id := by
  have hmeant : (p.id == n) = false := by simpa using hne
  obtain ⟨q, hq, hid, hrunning⟩ :=
    Processes.exists_mem_signal (fun p => p.id == n) Signal.kill h.1 h.2 hmeant
  exact ⟨q, ⟨List.mem_filter.2 ⟨hq, by simpa [hid] using hne⟩, hrunning⟩, hid⟩

theorem movesOn_kill : MovesOn leaves l (l.kill n) := by
  refine (Relation.ReflTransGen.single (.signals l _ Signal.kill)).tail (.reaps n ?_)
  intro q hq hid
  cases hrunning : q.isRunning with
  | false => rfl
  | true =>
      obtain ⟨p, -, -, hpid, -, hmeant⟩ := Processes.exists_of_mem_signal hq hrunning
      simpa [hpid, hid] using hmeant rfl

end Lineage

end Playground.Machine
