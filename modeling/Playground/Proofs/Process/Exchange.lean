import Mathlib.Logic.Function.Basic
import Mathlib.Logic.Relation
import Playground.Machine.Pipe
import Playground.Proofs.Process.Timeline

set_option autoImplicit false

/-! # What goes through the streams of a process

A process that is watched reads from one pipe and writes to two. At the other ends of the three is
whoever watches it, who does four things at once: waits for the end, takes what comes out of either
outlet until that is closed, and hands the input over and closes it. An `Exchange` is how far all
that has come. `Move` is one step of any of them, in any order; how much of a write fits into a pipe
at once is left to the pipe, as long as an empty one takes something.

One step keeps what came out and what is still in a pipe together the same as what was written, and
likewise for the input (`IsSound.move`). From that follow the three main facts. As long as not all
is done somebody can go on (`exists_move`): the process waits for an outlet only if that is full, and
then there is something to take out of it, whatever the other pipes are like. Nobody goes on for
ever (`acc_move`). And what came of a whole run is what the process does by itself with the input in
front of it (`performs_of_movesOn`). -/

namespace Playground

open Machine (Pipe)

namespace Machine.Pipe

variable {p : Pipe}

@[simp]
theorem held_push (p : Pipe) (octets : List UInt8) : (p.push octets).held = p.held ++ octets := rfl

@[simp]
theorem capacity_push (p : Pipe) (octets : List UInt8) :
    (p.push octets).capacity = p.capacity := rfl

@[simp]
theorem held_pull (p : Pipe) (count : Nat) : (p.pull count).2.held = p.held.drop count := rfl

@[simp]
theorem capacity_pull (p : Pipe) (count : Nat) : (p.pull count).2.capacity = p.capacity := rfl

theorem room_eq (p : Pipe) : p.room = p.capacity - p.held.length := by
  rw [room, p.size_eq]

end Machine.Pipe

/-! ## Processes and pipes -/

/-- A stream that a process writes to. -/
inductive Outlet where
  | stdout
  | stderr
  deriving DecidableEq, Repr

def Outlet.stream : Outlet → Stream
  | .stdout => .stdout
  | .stderr => .stderr

/-- What a process does with its streams. What it does after a read may depend on what it has
    read, which is nothing if there is no more. -/
inductive Child where
  | exits (status : WaitStatus)
  | reads (count : Nat) (next : List UInt8 → Child)
  | writes (outlet : Outlet) (octets : List UInt8) (next : Child)
  | closes (stream : Stream) (next : Child)

/-- How pipes take what is written to them: all of it, or a part for now. -/
structure Uptake where
  takes : Pipe → List UInt8 → Nat → Prop
  pos : ∀ {p octets n}, takes p octets n → 0 < n
  le_room : ∀ {p octets n}, takes p octets n → n ≤ p.room
  le_length : ∀ {p octets n}, takes p octets n → n ≤ octets.length
  /-- An empty pipe is no obstacle. -/
  of_empty : ∀ {p octets}, p.held = [] → 0 < p.capacity → octets ≠ [] → ∃ n, takes p octets n

/-- Any part that fits. -/
def Uptake.free : Uptake where
  takes p octets n := 0 < n ∧ n ≤ p.room ∧ n ≤ octets.length
  pos h := h.1
  le_room h := h.2.1
  le_length h := h.2.2
  of_empty {p octets} hheld hcapacity hne := by
    refine ⟨1, Nat.one_pos, ?_, List.length_pos_iff.2 hne⟩
    rw [p.room_eq, hheld]
    exact hcapacity

/-- As much as fits, but of a short write all or nothing. -/
def Uptake.whole : Uptake where
  takes p octets n := 0 < n ∧ n = p.accepts octets
  pos h := h.1
  le_room {p octets n} h := h.2 ▸ p.accepts_le_room octets
  le_length {p octets n} h := by
    obtain ⟨-, rfl⟩ := h
    unfold Pipe.accepts
    split
    · exact Nat.le_refl _
    · next hmore =>
        rw [List.isEmpty_iff, List.drop_eq_nil_iff] at hmore
        split <;> omega
  of_empty {p octets} hheld hcapacity hne := by
    refine ⟨p.accepts octets, ?_, rfl⟩
    have hlength : 0 < octets.length := List.length_pos_iff.2 hne
    have hroom : p.room = p.capacity := by
      rw [p.room_eq, hheld]
      rfl
    unfold Pipe.accepts
    rw [hroom]
    split
    · exact hlength
    · rw [if_neg (by omega)]
      exact hcapacity

/-- The pipe that a process reads from. -/
structure Inflow where
  pipe : Pipe
  /-- What the process has read. -/
  taken : List UInt8
  /-- What has not been handed over. -/
  pending : List UInt8
  /-- Can more be handed over? -/
  isOpen : Bool
  deriving DecidableEq, Repr

namespace Inflow

def handOver (c : Inflow) (n : Nat) : Inflow :=
  { c with pipe := c.pipe.push (c.pending.take n), pending := c.pending.drop n }

def take (c : Inflow) (n : Nat) : Inflow :=
  { c with pipe := (c.pipe.pull n).2, taken := c.taken ++ (c.pipe.pull n).1 }

/-- What the process can still come to read. -/
def left (c : Inflow) : List UInt8 := c.pipe.held ++ c.pending

theorem left_handOver (c : Inflow) (n : Nat) : (c.handOver n).left = c.left := by
  simp [handOver, left]

theorem pull_append_left (c : Inflow) (n : Nat) :
    (c.pipe.pull n).1 ++ (c.take n).left = c.left := by
  rw [left, left, ← c.pipe.pull_append n, List.append_assoc]
  rfl

end Inflow

/-- A pipe that a process writes to. -/
structure Outflow where
  pipe : Pipe
  written : List UInt8
  /-- What has come out. -/
  drained : List UInt8
  /-- Has the end been seen? -/
  isClosed : Bool
  deriving DecidableEq, Repr

namespace Outflow

def write (c : Outflow) (octets : List UInt8) : Outflow :=
  { c with pipe := c.pipe.push octets, written := c.written ++ octets }

def drain (c : Outflow) (n : Nat) : Outflow :=
  { c with pipe := (c.pipe.pull n).2, drained := c.drained ++ (c.pipe.pull n).1 }

end Outflow

structure Exchange where
  child : Child
  /-- The ends that the process holds. -/
  holds : Stream → Bool
  /-- How it ended, once it has. -/
  status? : Option WaitStatus
  /-- How it is known to have ended. -/
  awaited? : Option WaitStatus
  inflow : Inflow
  outflow : Outlet → Outflow

namespace Exchange

/-- The octets of an input. Without one there is nothing to read. -/
def octetsOf (input : Option String) : List UInt8 := Text.Utf8.encode (input.getD "").toList

/-- A process that was just started. -/
def start (child : Child) (input : Option String) (capacity : Stream → Nat) : Exchange where
  child := child
  holds _ := true
  status? := none
  awaited? := none
  inflow := ⟨.empty (capacity .stdin), [], octetsOf input, input.isSome⟩
  outflow o := ⟨.empty (capacity o.stream), [], [], false⟩

/-- The end is known, both outlets have been closed, and nothing is handed over any more. -/
structure IsDone (e : Exchange) : Prop where
  awaited : e.awaited?.isSome = true
  closed : ∀ o, (e.outflow o).isClosed = true
  fed : e.inflow.isOpen = false

def setOutflow (e : Exchange) (o : Outlet) (c : Outflow) : Exchange :=
  { e with outflow := Function.update e.outflow o c }

/-! ## Steps -/

/-- What the process does. -/
inductive Acts (u : Uptake) (e : Exchange) : Exchange → Prop where
  | reads {count n : Nat} {next : List UInt8 → Child} (hchild : e.child = .reads count next)
      (hholds : e.holds .stdin = true) (hpos : 0 < n) (hcount : n ≤ count)
      (hheld : n ≤ e.inflow.pipe.held.length) :
      Acts u e { e with child := next (e.inflow.pipe.pull n).1, inflow := e.inflow.take n }
  /-- There is no more, or it cannot or does not want to read any. -/
  | readsNothing {count : Nat} {next : List UInt8 → Child} (hchild : e.child = .reads count next)
      (hnothing : e.holds .stdin = false ∨ count = 0 ∨
        e.inflow.pipe.held = [] ∧ e.inflow.isOpen = false) :
      Acts u e { e with child := next [] }
  | writes {o : Outlet} {octets : List UInt8} {next : Child} {n : Nat}
      (hchild : e.child = .writes o octets next) (hholds : e.holds o.stream = true)
      (htakes : u.takes (e.outflow o).pipe octets n) :
      Acts u e ({ e with child := .writes o (octets.drop n) next }.setOutflow o
        ((e.outflow o).write (octets.take n)))
  /-- All has been written, or it cannot be. -/
  | hasWritten {o : Outlet} {octets : List UInt8} {next : Child}
      (hchild : e.child = .writes o octets next)
      (hover : octets = [] ∨ e.holds o.stream = false) : Acts u e { e with child := next }
  | closes {stream : Stream} {next : Child} (hchild : e.child = .closes stream next) :
      Acts u e { e with child := next, holds := Function.update e.holds stream false }
  | exits {status : WaitStatus} (hchild : e.child = .exits status) :
      Acts u e { e with status? := some status, holds := fun _ => false }

/-- What is done by whoever watches it. -/
inductive Attends (u : Uptake) (e : Exchange) : Exchange → Prop where
  | awaits {status : WaitStatus} (hstatus : e.status? = some status) (hnone : e.awaited? = none) :
      Attends u e { e with awaited? := some status }
  | drains {o : Outlet} {n : Nat} (hopen : (e.outflow o).isClosed = false) (hpos : 0 < n)
      (hheld : n ≤ (e.outflow o).pipe.held.length) :
      Attends u e (e.setOutflow o ((e.outflow o).drain n))
  | seesEnd {o : Outlet} (hopen : (e.outflow o).isClosed = false)
      (hheld : (e.outflow o).pipe.held = []) (hholds : e.holds o.stream = false) :
      Attends u e (e.setOutflow o { e.outflow o with isClosed := true })
  | feeds {n : Nat} (hopen : e.inflow.isOpen = true) (hholds : e.holds .stdin = true)
      (htakes : u.takes e.inflow.pipe e.inflow.pending n) :
      Attends u e { e with inflow := e.inflow.handOver n }
  /-- All has been handed over, or nobody is there to read it, which is no fault. -/
  | stopsFeeding (hopen : e.inflow.isOpen = true)
      (hover : e.inflow.pending = [] ∨ e.holds .stdin = false) :
      Attends u e { e with inflow := { e.inflow with isOpen := false } }

inductive Move (u : Uptake) (e e' : Exchange) : Prop where
  | child (hrun : e.status? = none) (h : Acts u e e')
  | parent (h : Attends u e e')

abbrev MovesOn (u : Uptake) : Exchange → Exchange → Prop := Relation.ReflTransGen (Move u)

variable {u : Uptake} {e e' : Exchange} {input : List UInt8}

@[simp]
theorem setOutflow_self (e : Exchange) (o : Outlet) (c : Outflow) :
    (e.setOutflow o c).outflow o = c := Function.update_self ..

theorem setOutflow_of_ne (e : Exchange) {o o' : Outlet} (c : Outflow) (h : o' ≠ o) :
    (e.setOutflow o c).outflow o' = e.outflow o' := Function.update_of_ne h ..

end Exchange

/-! ## What every step keeps -/

structure Inflow.IsSound (input : List UInt8) (isHeld : Bool) (c : Inflow) : Prop where
  octets : c.taken ++ c.left = input
  /-- No input is given up as long as the process can read it. -/
  fed : c.isOpen = false → c.pending = [] ∨ isHeld = false
  fits : c.pipe.held.length ≤ c.pipe.capacity
  capacity : 0 < c.pipe.capacity

structure Outflow.IsSound (isHeld : Bool) (c : Outflow) : Prop where
  octets : c.drained ++ c.pipe.held = c.written
  closed : c.isClosed = true → c.pipe.held = [] ∧ isHeld = false
  fits : c.pipe.held.length ≤ c.pipe.capacity
  capacity : 0 < c.pipe.capacity

namespace Inflow.IsSound

variable {input : List UInt8} {isHeld : Bool} {c : Inflow} {n : Nat}

theorem handOver (h : c.IsSound input isHeld) (hn : n ≤ c.pipe.room) :
    (c.handOver n).IsSound input isHeld := by
  refine ⟨?_, ?_, ?_, h.capacity⟩
  · rw [left_handOver]
    exact h.octets
  · intro hopen
    rcases h.fed hopen with hpending | hheld
    · exact .inl (by simp [Inflow.handOver, hpending])
    · exact .inr hheld
  · have hfits := h.fits
    have hlength := List.length_take_le n c.pending
    rw [c.pipe.room_eq] at hn
    simp only [Inflow.handOver, Pipe.held_push, Pipe.capacity_push, List.length_append]
    omega

theorem take (h : c.IsSound input isHeld) (n : Nat) : (c.take n).IsSound input isHeld := by
  refine ⟨?_, h.fed, ?_, h.capacity⟩
  · rw [← h.octets, ← c.pull_append_left n, ← List.append_assoc]
    rfl
  · have hfits := h.fits
    simp only [Inflow.take, Pipe.held_pull, Pipe.capacity_pull, List.length_drop]
    omega

theorem release (h : c.IsSound input isHeld) : c.IsSound input false :=
  ⟨h.octets, fun _ => .inr rfl, h.fits, h.capacity⟩

end Inflow.IsSound

namespace Outflow.IsSound

variable {isHeld : Bool} {c : Outflow} {octets : List UInt8} {n : Nat}

theorem write (h : c.IsSound true) (hoctets : octets.length ≤ c.pipe.room) :
    (c.write octets).IsSound true := by
  refine ⟨?_, ?_, ?_, h.capacity⟩
  · simp only [Outflow.write, Pipe.held_push, ← h.octets, List.append_assoc]
  · intro hclosed
    cases (h.closed hclosed).2
  · have hfits := h.fits
    rw [c.pipe.room_eq] at hoctets
    simp only [Outflow.write, Pipe.held_push, Pipe.capacity_push, List.length_append]
    omega

theorem drain (h : c.IsSound isHeld) (n : Nat) : (c.drain n).IsSound isHeld := by
  refine ⟨?_, ?_, ?_, h.capacity⟩
  · rw [Outflow.drain, List.append_assoc, Pipe.pull_append]
    exact h.octets
  · intro hclosed
    obtain ⟨hheld, hholds⟩ := h.closed hclosed
    exact ⟨by simp [Outflow.drain, hheld], hholds⟩
  · have hfits := h.fits
    simp only [Outflow.drain, Pipe.held_pull, Pipe.capacity_pull, List.length_drop]
    omega

theorem release (h : c.IsSound isHeld) : c.IsSound false :=
  ⟨h.octets, fun hclosed => ⟨(h.closed hclosed).1, rfl⟩, h.fits, h.capacity⟩

end Outflow.IsSound

namespace Exchange

/-- What holds between any two steps. -/
structure IsSound (input : List UInt8) (e : Exchange) : Prop where
  inflow : e.inflow.IsSound input (e.holds .stdin)
  outflow : ∀ o, (e.outflow o).IsSound (e.holds o.stream)
  awaited : ∀ status, e.awaited? = some status → e.status? = some status
  /-- A process that has ended holds nothing. -/
  gone : ∀ status, e.status? = some status →
    e.child = .exits status ∧ ∀ stream, e.holds stream = false

variable {u : Uptake} {e e' : Exchange} {input : List UInt8}

theorem isSound_start (child : Child) (text : Option String) {capacity : Stream → Nat}
    (hcapacity : ∀ stream, 0 < capacity stream) :
    (start child text capacity).IsSound (octetsOf text) := by
  refine ⟨⟨rfl, ?_, Nat.zero_le _, hcapacity _⟩, fun o => ⟨rfl, nofun, Nat.zero_le _, hcapacity _⟩,
    nofun, nofun⟩
  intro hclosed
  cases text with
  | none => exact .inl rfl
  | some text => cases hclosed

theorem IsSound.setOutflow (h : e.IsSound input) {o : Outlet} {c : Outflow}
    (hc : c.IsSound (e.holds o.stream)) : (e.setOutflow o c).IsSound input := by
  refine ⟨h.inflow, ?_, h.awaited, h.gone⟩
  intro o'
  by_cases ho : o' = o
  · subst ho
    rw [setOutflow_self]
    exact hc
  · rw [setOutflow_of_ne e c ho]
    exact h.outflow o'

/-- A process that goes on has not ended. -/
theorem IsSound.goOn (h : e.IsSound input) (hrun : e.status? = none) (child : Child) :
    { e with child := child }.IsSound input := by
  refine ⟨h.inflow, h.outflow, h.awaited, ?_⟩
  intro status hstatus
  rw [hrun] at hstatus
  cases hstatus

theorem IsSound.acts (h : e.IsSound input) (hrun : e.status? = none) (ha : Acts u e e') :
    e'.IsSound input := by
  cases ha with
  | @reads count n next hchild hholds hpos hcount hheld =>
      have hnext := h.goOn hrun (next (e.inflow.pipe.pull n).1)
      exact ⟨h.inflow.take n, hnext.outflow, hnext.awaited, hnext.gone⟩
  | readsNothing => exact h.goOn hrun _
  | @writes o octets next n hchild hholds htakes =>
      refine (h.goOn hrun _).setOutflow ?_
      have hout := h.outflow o
      have hlength := u.le_length htakes
      rw [hholds] at hout ⊢
      refine hout.write ?_
      rw [List.length_take, Nat.min_eq_left hlength]
      exact u.le_room htakes
  | hasWritten => exact h.goOn hrun _
  | @closes stream next hchild =>
      have hnext := h.goOn hrun next
      have hupdate (s : Stream) : Function.update e.holds stream false s = e.holds s ∨
          Function.update e.holds stream false s = false := by
        by_cases hs : s = stream
        · exact .inr (by rw [hs, Function.update_self])
        · exact .inl (Function.update_of_ne hs ..)
      refine ⟨?_, ?_, hnext.awaited, ?_⟩
      · dsimp only
        rcases hupdate .stdin with heq | heq <;> rw [heq]
        · exact h.inflow
        · exact h.inflow.release
      · intro o
        dsimp only
        rcases hupdate o.stream with heq | heq <;> rw [heq]
        · exact h.outflow o
        · exact (h.outflow o).release
      · intro status hstatus
        dsimp only at hstatus
        rw [hrun] at hstatus
        cases hstatus
  | @exits status hchild =>
      refine ⟨h.inflow.release, fun o => (h.outflow o).release, ?_, ?_⟩
      · intro status' hawaited
        have hstatus := h.awaited status' hawaited
        rw [hrun] at hstatus
        cases hstatus
      · rintro status' ⟨⟩
        exact ⟨hchild, fun _ => rfl⟩

theorem IsSound.attends (h : e.IsSound input) (ha : Attends u e e') : e'.IsSound input := by
  cases ha with
  | awaits hstatus hnone =>
      refine ⟨h.inflow, h.outflow, ?_, h.gone⟩
      rintro status' ⟨⟩
      exact hstatus
  | @drains o n hopen hpos hheld => exact h.setOutflow ((h.outflow o).drain n)
  | @seesEnd o hopen hheld hholds =>
      have hout := h.outflow o
      exact h.setOutflow ⟨hout.octets, fun _ => ⟨hheld, hholds⟩, hout.fits, hout.capacity⟩
  | feeds hopen hholds htakes =>
      exact ⟨h.inflow.handOver (u.le_room htakes), h.outflow, h.awaited, h.gone⟩
  | stopsFeeding hopen hover =>
      have hin := h.inflow
      exact ⟨⟨hin.octets, fun _ => hover, hin.fits, hin.capacity⟩, h.outflow, h.awaited, h.gone⟩

theorem IsSound.move (h : e.IsSound input) (hm : Move u e e') : e'.IsSound input := by
  cases hm with
  | child hrun ha => exact h.acts hrun ha
  | parent ha => exact h.attends ha

theorem IsSound.movesOn (h : e.IsSound input) (hm : MovesOn u e e') : e'.IsSound input := by
  induction hm with
  | refl => exact h
  | tail _ hmove ih => exact ih.move hmove

/-! ## Somebody can go on -/

/-- There is something to take out of an outlet, or its end is to be seen. -/
theorem exists_drain {o : Outlet} (hopen : (e.outflow o).isClosed = false)
    (hready : (e.outflow o).pipe.held ≠ [] ∨ e.holds o.stream = false) : ∃ e', Move u e e' := by
  by_cases hheld : (e.outflow o).pipe.held = []
  · have hholds := hready.resolve_left (not_not_intro hheld)
    exact ⟨_, .parent (.seesEnd hopen hheld hholds)⟩
  · have hpos : 0 < (e.outflow o).pipe.held.length := List.length_pos_iff.2 hheld
    exact ⟨_, .parent (.drains hopen hpos (Nat.le_refl _))⟩

/-- The input goes on as long as nothing of it waits to be read. -/
theorem IsSound.exists_feed (h : e.IsSound input) (hopen : e.inflow.isOpen = true)
    (hready : e.inflow.pipe.held = [] ∨ e.holds .stdin = false) : ∃ e', Move u e e' := by
  by_cases hover : e.inflow.pending = [] ∨ e.holds .stdin = false
  · exact ⟨_, .parent (.stopsFeeding hopen hover)⟩
  · rw [not_or, Bool.not_eq_false] at hover
    obtain ⟨hpending, hholds⟩ := hover
    have hheld : e.inflow.pipe.held = [] := by
      rcases hready with hheld | hnot
      · exact hheld
      · rw [hholds] at hnot
        cases hnot
    obtain ⟨n, hn⟩ := u.of_empty hheld h.inflow.capacity hpending
    exact ⟨_, .parent (.feeds hopen hholds hn)⟩

/-- A process that has not ended waits for nothing that could not happen: it is in nobody's way that
    another pipe is full, or empty. -/
theorem IsSound.exists_move_of_running (h : e.IsSound input) (hrun : e.status? = none) :
    ∃ e', Move u e e' := by
  cases hchild : e.child with
  | exits status => exact ⟨_, .child hrun (.exits hchild)⟩
  | closes stream next => exact ⟨_, .child hrun (.closes hchild)⟩
  | reads count next =>
      by_cases hnothing : e.holds .stdin = false ∨ count = 0 ∨
          e.inflow.pipe.held = [] ∧ e.inflow.isOpen = false
      · exact ⟨_, .child hrun (.readsNothing hchild hnothing)⟩
      · simp only [not_or, Bool.not_eq_false, not_and, Bool.not_eq_false] at hnothing
        obtain ⟨hholds, hcount, hopen⟩ := hnothing
        by_cases hheld : e.inflow.pipe.held = []
        · exact h.exists_feed (hopen hheld) (.inl hheld)
        · have hlength : 0 < e.inflow.pipe.held.length := List.length_pos_iff.2 hheld
          exact ⟨_, .child hrun (.reads hchild hholds Nat.one_pos (Nat.pos_of_ne_zero hcount)
            hlength)⟩
  | writes o octets next =>
      by_cases hover : octets = [] ∨ e.holds o.stream = false
      · exact ⟨_, .child hrun (.hasWritten hchild hover)⟩
      · rw [not_or, Bool.not_eq_false] at hover
        obtain ⟨hoctets, hholds⟩ := hover
        have hout := h.outflow o
        by_cases hheld : (e.outflow o).pipe.held = []
        · obtain ⟨n, hn⟩ := u.of_empty hheld hout.capacity hoctets
          exact ⟨_, .child hrun (.writes hchild hholds hn)⟩
        · -- Something has still to come out, so the end has not been seen.
          refine exists_drain (o := o) (Bool.eq_false_iff.2 fun hclosed => ?_) (.inl hheld)
          exact hheld (hout.closed hclosed).1

/-- As long as not all is done somebody can go on. -/
theorem IsSound.exists_move (h : e.IsSound input) (hdone : ¬e.IsDone) : ∃ e', Move u e e' := by
  cases hstatus : e.status? with
  | none => exact h.exists_move_of_running hstatus
  | some status =>
      obtain ⟨-, hholds⟩ := h.gone status hstatus
      by_cases hawaited : e.awaited? = none
      · exact ⟨_, .parent (.awaits hstatus hawaited)⟩
      · by_cases hopen : e.inflow.isOpen = true
        · exact h.exists_feed hopen (.inr (hholds _))
        · obtain ⟨o, ho⟩ : ∃ o, (e.outflow o).isClosed = false := by
            by_contra hall
            simp only [not_exists, Bool.not_eq_false] at hall
            exact hdone ⟨Option.isSome_iff_ne_none.2 hawaited, hall, Bool.eq_false_iff.2 hopen⟩
          exact exists_drain ho (.inr (hholds _))

end Exchange

/-! ## Nobody goes on for ever -/

namespace Child

/-- What a process has left to do after one step of its own. -/
inductive Follows : Child → Child → Prop where
  | read {count : Nat} {next : List UInt8 → Child} (got : List UInt8) :
      Follows (next got) (.reads count next)
  | write {o : Outlet} {octets : List UInt8} {next : Child} {n : Nat} (hpos : 0 < n)
      (hle : n ≤ octets.length) : Follows (.writes o (octets.drop n) next) (.writes o octets next)
  | written {o : Outlet} {octets : List UInt8} {next : Child} :
      Follows next (.writes o octets next)
  | closed {stream : Stream} {next : Child} : Follows next (.closes stream next)

/-- A write may be made in parts, but each of them is a part. -/
theorem acc_writes {o : Outlet} {next : Child} (h : Acc Follows next) (octets : List UInt8) :
    Acc Follows (.writes o octets next) := by
  induction hn : octets.length using Nat.strongRecOn generalizing octets with
  | _ n ih =>
      subst hn
      refine Acc.intro _ fun child hchild => ?_
      cases hchild with
      | written => exact h
      | write hpos hle => exact ih _ (by rw [List.length_drop]; omega) _ rfl

theorem acc_follows (child : Child) : Acc Follows child := by
  induction child with
  | exits status => exact Acc.intro _ fun _ h => nomatch h
  | reads count next ih =>
      refine Acc.intro _ fun child hchild => ?_
      cases hchild with
      | read got => exact ih got
  | writes o octets next ih => exact acc_writes ih octets
  | closes stream next ih =>
      refine Acc.intro _ fun child hchild => ?_
      cases hchild with
      | closed => exact ih

end Child

/-- How much there is still to do about an outlet. -/
def Outflow.toDo (c : Outflow) : Nat := c.pipe.held.length + (!c.isClosed).toNat

theorem Outflow.toDo_drain {c : Outflow} {n : Nat} (hpos : 0 < n)
    (hheld : n ≤ c.pipe.held.length) : (c.drain n).toDo < c.toDo := by
  simp only [toDo, drain, Pipe.held_pull, List.length_drop]
  omega

/-- How much there is still to do about the input. -/
def Inflow.toDo (c : Inflow) : Nat := c.pending.length + c.isOpen.toNat

theorem Inflow.toDo_handOver {c : Inflow} {n : Nat} (hpos : 0 < n)
    (hle : n ≤ c.pending.length) : (c.handOver n).toDo < c.toDo := by
  simp only [toDo, handOver, List.length_drop]
  omega

namespace Exchange

variable {u : Uptake} {e e' : Exchange} {input : List UInt8}

/-- How much can be done before the process goes on. -/
def toDo (e : Exchange) : Nat :=
  e.inflow.toDo + (e.outflow .stdout).toDo + (e.outflow .stderr).toDo + e.status?.isNone.toNat +
    e.awaited?.isNone.toNat

theorem toDo_setOutflow {o : Outlet} {c : Outflow} (hless : c.toDo < (e.outflow o).toDo) :
    (e.setOutflow o c).toDo < e.toDo := by
  have hother (o' : Outlet) (h : o' ≠ o) : (e.setOutflow o c).outflow o' = e.outflow o' :=
    setOutflow_of_ne e c h
  cases o with
  | stdout =>
      rw [toDo, toDo, setOutflow_self, hother .stderr (by decide)]
      simp only [setOutflow]
      omega
  | stderr =>
      rw [toDo, toDo, setOutflow_self, hother .stdout (by decide)]
      simp only [setOutflow]
      omega

theorem Attends.toDo_lt (h : Attends u e e') : e'.child = e.child ∧ e'.toDo < e.toDo := by
  cases h with
  | awaits hstatus hnone => exact ⟨rfl, by simp [toDo, hnone]⟩
  | drains hopen hpos hheld => exact ⟨rfl, toDo_setOutflow (Outflow.toDo_drain hpos hheld)⟩
  | seesEnd hopen hheld hholds =>
      refine ⟨rfl, toDo_setOutflow ?_⟩
      simp [Outflow.toDo, hopen]
  | feeds hopen hholds htakes =>
      have hless := Inflow.toDo_handOver (u.pos htakes) (u.le_length htakes)
      refine ⟨rfl, ?_⟩
      simp only [toDo]
      omega
  | stopsFeeding hopen hover =>
      refine ⟨rfl, ?_⟩
      simp [toDo, Inflow.toDo, hopen]

theorem Acts.follows (hrun : e.status? = none) (h : Acts u e e') :
    Child.Follows e'.child e.child ∨ e'.child = e.child ∧ e'.toDo < e.toDo := by
  cases h with
  | reads hchild =>
      rw [hchild]
      exact .inl (.read _)
  | readsNothing hchild =>
      rw [hchild]
      exact .inl (.read _)
  | writes hchild hholds htakes =>
      rw [hchild]
      exact .inl (.write (u.pos htakes) (u.le_length htakes))
  | hasWritten hchild =>
      rw [hchild]
      exact .inl .written
  | closes hchild =>
      rw [hchild]
      exact .inl .closed
  | exits hchild => exact .inr ⟨rfl, by simp [toDo, hrun]⟩

/-- However the four and the process take turns, they come to an end. -/
theorem acc_move (u : Uptake) (e : Exchange) : Acc (fun a b => Move u b a) e := by
  have hlex : ∀ {a b : Exchange}, Move u b a →
      Prod.Lex Child.Follows (· < ·) (a.child, a.toDo) (b.child, b.toDo) := by
    intro a b hm
    have hcases : Child.Follows a.child b.child ∨ a.child = b.child ∧ a.toDo < b.toDo := by
      cases hm with
      | child hrun h => exact h.follows hrun
      | parent h => exact .inr h.toDo_lt
    rcases hcases with h | ⟨hchild, h⟩
    · exact .left _ _ h
    · rw [hchild]
      exact .right _ h
  have hwf : WellFounded (Prod.Lex Child.Follows (α := Child) (β := Nat) (· < ·)) :=
    (Prod.lex ⟨_, ⟨Child.acc_follows⟩⟩ ⟨_, Nat.lt_wfRel.wf⟩).wf
  exact Subrelation.accessible hlex (InvImage.accessible _ (hwf.apply _))

end Exchange

/-! ## What a process does by itself -/

namespace Child

/-- What a process does with an input in front of it: what it leaves of it, what it writes to either
    outlet, and how it ends. A read gets some of what there is, and nothing only if there is nothing
    or nothing was wanted. What goes to a stream that has been closed is lost. -/
inductive Performs : (Stream → Bool) → List UInt8 → Child → List UInt8 →
    (Outlet → List UInt8) → WaitStatus → Prop where
  | exits {holds : Stream → Bool} {input : List UInt8} (status : WaitStatus) :
      Performs holds input (.exits status) input (fun _ => []) status
  | reads {holds : Stream → Bool} {got input rest : List UInt8} {count : Nat}
      {next : List UInt8 → Child} {written : Outlet → List UInt8} {status : WaitStatus}
      (hholds : holds .stdin = true) (hcount : got.length ≤ count)
      (hnothing : got = [] → count = 0 ∨ input = [])
      (h : Performs holds input (next got) rest written status) :
      Performs holds (got ++ input) (.reads count next) rest written status
  | readsNowhere {holds : Stream → Bool} {input rest : List UInt8} {count : Nat}
      {next : List UInt8 → Child} {written : Outlet → List UInt8} {status : WaitStatus}
      (hholds : holds .stdin = false) (h : Performs holds input (next []) rest written status) :
      Performs holds input (.reads count next) rest written status
  | writes {holds : Stream → Bool} {input rest octets : List UInt8} {o : Outlet} {next : Child}
      {written : Outlet → List UInt8} {status : WaitStatus} (hholds : holds o.stream = true)
      (h : Performs holds input next rest written status) :
      Performs holds input (.writes o octets next) rest
        (Function.update written o (octets ++ written o)) status
  | writesNowhere {holds : Stream → Bool} {input rest octets : List UInt8} {o : Outlet}
      {next : Child} {written : Outlet → List UInt8} {status : WaitStatus}
      (hholds : holds o.stream = false) (h : Performs holds input next rest written status) :
      Performs holds input (.writes o octets next) rest written status
  | closes {holds : Stream → Bool} {input rest : List UInt8} {stream : Stream} {next : Child}
      {written : Outlet → List UInt8} {status : WaitStatus}
      (h : Performs (Function.update holds stream false) input next rest written status) :
      Performs holds input (.closes stream next) rest written status

variable {holds : Stream → Bool} {input rest octets : List UInt8} {o : Outlet} {next : Child}
  {written : Outlet → List UInt8} {status status' : WaitStatus}

theorem Performs.of_writes (hholds : holds o.stream = true)
    (h : Performs holds input (.writes o octets next) rest written status) :
    ∃ written', Performs holds input next rest written' status ∧
      written = Function.update written' o (octets ++ written' o) := by
  cases h with
  | writes _ h => exact ⟨_, h, rfl⟩
  | writesNowhere hnot =>
      rw [hholds] at hnot
      cases hnot

/-- It does not matter which streams a process holds when it ends. -/
theorem Performs.of_exits (h : Performs holds input (.exits status') rest written status)
    (holds' : Stream → Bool) : Performs holds' input (.exits status') rest written status := by
  cases h
  exact .exits _

end Child

namespace Exchange

variable {u : Uptake} {e e' : Exchange} {input : List UInt8}

/-- What a process that is as far as here does from now on: it ends with this status, the input is
    left as in the other exchange, and what is written to the outlets is all that was not before. -/
def Leads (e e' : Exchange) (status : WaitStatus) : Prop :=
  ∃ written, e.child.Performs e.holds e.inflow.left e'.inflow.left written status ∧
    ∀ o, (e'.outflow o).written = (e.outflow o).written ++ written o

theorem IsSound.leads_self (h : e.IsSound input) {status : WaitStatus}
    (hstatus : e.status? = some status) : Leads e e status := by
  refine ⟨fun _ => [], ?_, fun o => (List.append_nil _).symm⟩
  rw [(h.gone status hstatus).1]
  exact .exits status

theorem written_setOutflow {o : Outlet} {c : Outflow} (h : c.written = (e.outflow o).written)
    (o' : Outlet) : ((e.setOutflow o c).outflow o').written = (e.outflow o').written := by
  by_cases ho : o' = o
  · subst ho
    rw [setOutflow_self, h]
  · rw [setOutflow_of_ne e c ho]

/-- Whoever watches the process does not change what it does. -/
theorem Leads.of_attends {e₁ : Exchange} {status : WaitStatus} (ha : Attends u e e₁)
    (h : Leads e₁ e' status) : Leads e e' status := by
  obtain ⟨written, hperforms, hwritten⟩ := h
  cases ha with
  | awaits => exact ⟨written, hperforms, hwritten⟩
  | drains =>
      refine ⟨written, hperforms, fun o => ?_⟩
      rw [hwritten, written_setOutflow (by rfl)]
  | seesEnd =>
      refine ⟨written, hperforms, fun o => ?_⟩
      rw [hwritten, written_setOutflow (by rfl)]
  | @feeds n =>
      refine ⟨written, ?_, hwritten⟩
      rw [← e.inflow.left_handOver n]
      exact hperforms
  | stopsFeeding => exact ⟨written, hperforms, hwritten⟩

/-- One step of the process is how it begins what it does from there. -/
theorem IsSound.leads_of_acts (hs : e.IsSound input) {e₁ : Exchange} {status : WaitStatus}
    (ha : Acts u e e₁) (h : Leads e₁ e' status) : Leads e e' status := by
  obtain ⟨written, hperforms, hwritten⟩ := h
  cases ha with
  | @reads count n next hchild hholds hpos hcount hheld =>
      have hlength : (e.inflow.pipe.pull n).1.length = n := by
        rw [Pipe.pull, List.length_take, Nat.min_eq_left hheld]
      refine ⟨written, ?_, hwritten⟩
      rw [hchild, ← e.inflow.pull_append_left n]
      refine .reads hholds (Nat.le_trans (Nat.le_of_eq hlength) hcount) (fun hnil => ?_) hperforms
      rw [hnil] at hlength
      exact absurd hlength (Nat.ne_of_lt hpos)
  | @readsNothing count next hchild hnothing =>
      refine ⟨written, ?_, hwritten⟩
      rw [hchild]
      cases hholds : e.holds .stdin with
      | false => exact .readsNowhere hholds hperforms
      | true =>
          -- The end is not seen before all of the input has been read.
          have hend : count = 0 ∨ e.inflow.left = [] := by
            rcases hnothing with hnot | hcount | ⟨hheld, hclosed⟩
            · rw [hholds] at hnot
              cases hnot
            · exact .inl hcount
            · rcases hs.inflow.fed hclosed with hpending | hnot
              · exact .inr (by rw [Inflow.left, hheld, hpending, List.append_nil])
              · rw [hholds] at hnot
                cases hnot
          exact @Child.Performs.reads _ [] _ _ _ _ _ _ hholds (Nat.zero_le _) (fun _ => hend)
            hperforms
  | @writes o octets next n hchild hholds htakes =>
      -- What is written now comes before the rest of the same write.
      have hrest : Child.Performs e.holds e.inflow.left (.writes o (octets.drop n) next)
          e'.inflow.left written status := hperforms
      obtain ⟨written', hnext, rfl⟩ := hrest.of_writes hholds
      refine ⟨_, hchild ▸ Child.Performs.writes hholds hnext, fun o' => ?_⟩
      rw [hwritten]
      by_cases ho : o' = o
      · subst ho
        rw [setOutflow_self, Function.update_self, Function.update_self, Outflow.write,
          List.append_assoc, ← List.append_assoc (octets.take n), List.take_append_drop]
      · rw [setOutflow_of_ne _ _ ho, Function.update_of_ne ho, Function.update_of_ne ho]
  | @hasWritten o octets next hchild hover =>
      cases hholds : e.holds o.stream with
      | false => exact ⟨written, hchild ▸ .writesNowhere hholds hperforms, hwritten⟩
      | true =>
          obtain rfl : octets = [] := by
            rcases hover with hnil | hnot
            · exact hnil
            · rw [hholds] at hnot
              cases hnot
          have hsame := @Child.Performs.writes _ _ _ [] _ _ _ _ hholds hperforms
          rw [List.nil_append, Function.update_eq_self] at hsame
          exact ⟨written, hchild ▸ hsame, hwritten⟩
  | closes hchild => exact ⟨written, hchild ▸ .closes hperforms, hwritten⟩
  | @exits status' hchild =>
      refine ⟨written, ?_, hwritten⟩
      dsimp only at hperforms
      rw [hchild] at hperforms ⊢
      exact hperforms.of_exits _

/-- Up to its end, whoever takes turns with it, a process does what it does by itself. -/
theorem IsSound.leads_of_movesOn (h : e.IsSound input) (hm : MovesOn u e e') {status : WaitStatus}
    (hstatus : e'.status? = some status) : Leads e e' status := by
  induction hm using Relation.ReflTransGen.head_induction_on with
  | refl => exact h.leads_self hstatus
  | head hmove _ ih =>
      have hleads := ih (h.move hmove)
      cases hmove with
      | child hrun ha => exact h.leads_of_acts ha hleads
      | parent ha => exact hleads.of_attends ha

theorem performs_of_movesOn {child : Child} {text : Option String} {capacity : Stream → Nat}
    (hcapacity : ∀ stream, 0 < capacity stream) (hm : MovesOn u (start child text capacity) e)
    {status : WaitStatus} (hstatus : e.status? = some status) :
    child.Performs (fun _ => true) (octetsOf text) e.inflow.left (fun o => (e.outflow o).written)
      status := by
  obtain ⟨written, hperforms, hwritten⟩ :=
    (isSound_start child text hcapacity).leads_of_movesOn hm hstatus
  obtain rfl : (fun o => (e.outflow o).written) = written := funext hwritten
  exact hperforms

end Exchange

/-! ## What is told of it -/

/-- The session tells how far an exchange has come; when that was is its own affair. -/
structure Session.Tells (s : Session) (e : Exchange) : Prop where
  ended : s.ended.map Prod.snd = e.awaited?
  stdout : s.stdout.octets = (e.outflow .stdout).drained
  stdoutClosed : s.stdout.closed.isSome = (e.outflow .stdout).isClosed
  stderr : s.stderr.octets = (e.outflow .stderr).drained
  stderrClosed : s.stderr.closed.isSome = (e.outflow .stderr).isClosed
  fed : s.fed.isNone = e.inflow.isOpen
  fault : s.fault = none

end Playground
