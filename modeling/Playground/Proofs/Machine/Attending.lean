import Playground.Proofs.Machine.Shown

set_option autoImplicit false

/-! # What the machine's owner does for a watch

In every round the owner of the machine feeds each process that is watched, listens to its two
outlets, and notices its end. Each of the four is a step of the exchange that is shown, or nothing
is done at all, so a round of the owner goes on as exchanges do (`movesOn_attend`). What is told of
the watch in the end is what has come out by then.

The process itself reads, writes and ends as in an exchange, too. -/

namespace Playground.Machine

namespace Pipe

theorem push_nil (p : Pipe) : p.push [] = p := by
  obtain ⟨capacity, held, size, h⟩ := p
  simp [push]

theorem pull_zero (p : Pipe) : p.pull 0 = ([], p) := rfl

theorem pull_min (p : Pipe) (count : Nat) : p.pull (min count p.held.length) = p.pull count := by
  obtain ⟨capacity, held, size, h⟩ := p
  subst h
  rcases Nat.le_total count held.length with hle | hle
  · rw [Nat.min_eq_left hle]
  · rw [Nat.min_eq_right hle]
    simp [pull, hle, List.take_of_length_le hle]

theorem pull_length (p : Pipe) : p.pull p.held.length = p.pullAll := by
  obtain ⟨capacity, held, size, h⟩ := p
  subst h
  simp [pull, pullAll, empty]

end Pipe

namespace State

variable {m m' : State} {w : Watch} {pipe : Nat} {e : Exchange}

/-! ## The four -/

namespace Shows

/-- What is handed over is a part of the input that fits. -/
theorem movesOn_feed (h : m.Shows w pipe e) :
    ∃ e', Exchange.MovesOn .free e e' ∧ (m.feed w).1.Shows (m.feed w).2 pipe e' := by
  unfold State.feed
  cases hopen : e.inflow.isOpen with
  | false =>
      have hfeed := h.feed
      rw [hopen] at hfeed
      rw [hfeed]
      exact ⟨e, .refl, h⟩
  | true =>
      have hfeed := h.feed_eq hopen
      rw [hfeed]
      dsimp only
      rw [h.hasReader, h.input hopen, h.pipe_eq hopen]
      split
      · next hover =>
          refine ⟨_, .single (.parent (.stopsFeeding hopen hover)), ?_⟩
          exact { h with
            feed := rfl
            fed := rfl
            input := nofun
            inflow := fun hheld => h.inflow (.inl hopen) }
      · next hgo =>
          rw [not_or, Bool.not_eq_false] at hgo
          obtain ⟨hpending, hholds⟩ := hgo
          have hlookup := h.inflow (.inl hopen)
          generalize hn : min e.inflow.pipe.room e.inflow.pending.length = n
          have hshows : (m.setPipe pipe (e.inflow.pipe.push (e.inflow.pending.take n))).Shows
              { w with feed := some pipe, input := e.inflow.pending.drop n } pipe
              { e with inflow := e.inflow.handOver n } :=
            { h with
              feed := hfeed.symm.trans h.feed
              fed := h.fed
              input := fun _ => rfl
              inflow := fun _ => lookup_setPipe hlookup
              outflow := fun o ho =>
                (lookup_setPipe_of_ne (h.apart o)).trans (h.outflow o ho) }
          by_cases hpos : 0 < n
          · have htakes : Uptake.free.takes e.inflow.pipe e.inflow.pending n := by
              exact ⟨hpos, by omega, by omega⟩
            exact ⟨_, .single (.parent (.feeds hopen hholds htakes)), hshows⟩
          · -- The pipe is full.
            have hsame : e.inflow.handOver n = e.inflow := by
              rw [Nat.eq_zero_of_not_pos hpos, Inflow.handOver, List.take_zero, List.drop_zero,
                Pipe.push_nil]
            rw [hsame] at hshows
            exact ⟨e, .refl, hshows⟩

/-- What is taken out of an outlet is all that is there; the end is seen when nobody can write
    any more. -/
theorem movesOn_listen (h : m.Shows w pipe e) (v : Watch) (o : Outlet) :
    ∃ e', Exchange.MovesOn .free e e' ∧
      (m.listen v (w.tap o)).1.Shows (w.setTap o (m.listen v (w.tap o)).2) pipe e' := by
  have hkeep : m.Shows (w.setTap o (w.tap o)) pipe e := by
    cases o <;> exact h
  have hclosed := h.closed o
  unfold State.listen
  cases ht : (w.tap o).closed with
  | some time => exact ⟨e, .refl, hkeep⟩
  | none =>
      rw [ht] at hclosed
      have hopen : (e.outflow o).isClosed = false := hclosed.symm
      dsimp only
      rw [h.pipe_tap_eq hopen, h.hasWriter o]
      split
      · next hheld =>
          split
          · exact ⟨e, .refl, hkeep⟩
          · next hholds =>
              refine ⟨_, .single (.parent (.seesEnd hopen hheld (Bool.eq_false_iff.2 hholds))), ?_⟩
              exact h.setTap rfl (fun _ _ => rfl) nofun (h.drained o) rfl
      · next hheld =>
          have hpos : 0 < (e.outflow o).pipe.held.length := List.length_pos_iff.2 hheld
          refine ⟨_, .single (.parent (.drains hopen hpos (Nat.le_refl _))), ?_⟩
          have hall := (e.outflow o).pipe.pull_length
          refine h.setTap rfl (fun id hid => lookup_setPipe_of_ne hid) (fun _ => ?_) ?_ ?_
          · rw [Outflow.drain, hall]
            exact lookup_setPipe (h.outflow o hopen)
          · rw [Outflow.drain, hall, ← h.drained o]
            simp [Pipe.pullAll]
          · exact hclosed

/-- The end of the process is noticed once. -/
theorem movesOn_notice (h : m.Shows w pipe e) :
    ∃ e', Exchange.MovesOn .free e e' ∧ (m.notice w).1.Shows (m.notice w).2 pipe e' := by
  unfold State.notice
  cases hended : w.ended with
  | some ended => exact ⟨e, .refl, h⟩
  | none =>
      cases hfind : m.processes.find? w.process with
      | none => exact ⟨e, .refl, h⟩
      | some p =>
          dsimp only
          have hstatus := h.status hended
          rw [hfind, Option.bind_some] at hstatus
          cases hp : p.status? with
          | none => exact ⟨e, .refl, h⟩
          | some status =>
              rw [hp] at hstatus
              have hawaited : e.awaited? = none := by rw [← h.ended, hended]; rfl
              refine ⟨_, .single (.parent (.awaits hstatus.symm hawaited)), ?_⟩
              have hnot : e.status? ≠ none := by
                rw [← hstatus]
                nofun
              have hid : p.id = w.process := by simpa using List.find?_some hfind
              have hheld (object : Object) :
                  ({ m with processes := m.processes.reap p.id } : State).isHeld object =
                    m.isHeld object := by
                unfold State.isHeld Processes.reap
                rw [List.any_filter, Bool.eq_iff_iff, List.any_eq_true, List.any_eq_true]
                refine exists_congr fun q => and_congr_right fun hq => ?_
                by_cases heq : q.id = w.process
                · simp [h.gone hnot q hq heq]
                · simp [hid, heq]
              exact { h with
                reader := (hheld _).trans h.reader
                writer := fun o => (hheld _).trans (h.writer o)
                ended := rfl
                status := nofun
                gone := fun _ q hq => h.gone hnot q (List.mem_filter.1 hq).1 }

end Shows

/-! ## A round -/

/-- The machine and a watch go on without other watches, as an exchange does that is shown. -/
structure GoesOn (m : State) (w : Watch) (m' : State) (w' : Watch) : Prop where
  watches : m'.watches = m.watches
  process : w'.process = w.process
  moves : ∀ {pipe : Nat} {e : Exchange}, m.Shows w pipe e →
    ∃ e', Exchange.MovesOn .free e e' ∧ m'.Shows w' pipe e'

theorem GoesOn.trans {m m' m'' : State} {w w' w'' : Watch} (h : m.GoesOn w m' w')
    (h' : m'.GoesOn w' m'' w'') : m.GoesOn w m'' w'' := by
  refine ⟨h'.watches.trans h.watches, h'.process.trans h.process, fun hshows => ?_⟩
  obtain ⟨e₁, hm₁, h₁⟩ := h.moves hshows
  obtain ⟨e₂, hm₂, h₂⟩ := h'.moves h₁
  exact ⟨e₂, hm₁.trans hm₂, h₂⟩

theorem goesOn_feed (m : State) (w : Watch) : m.GoesOn w (m.feed w).1 (m.feed w).2 := by
  refine ⟨?_, ?_, Shows.movesOn_feed⟩
  all_goals
    unfold feed
    split
    · rfl
    · split <;> rfl

theorem goesOn_listen (m : State) (w v : Watch) (o : Outlet) :
    m.GoesOn w (m.listen v (w.tap o)).1 (w.setTap o (m.listen v (w.tap o)).2) := by
  refine ⟨?_, w.process_setTap o _, fun h => h.movesOn_listen v o⟩
  unfold listen
  split
  · rfl
  · dsimp only
    split
    · split <;> rfl
    · rfl

theorem goesOn_notice (m : State) (w : Watch) : m.GoesOn w (m.notice w).1 (m.notice w).2 := by
  refine ⟨?_, ?_, Shows.movesOn_notice⟩
  all_goals
    unfold notice
    split
    · split <;> rfl
    · rfl

/-- What the owner does for a watch in a round are steps of the exchange that is shown. -/
theorem movesOn_attend (h : m.Shows w pipe e) (hw : w ∈ m.watches) :
    ∃ w' e', Exchange.MovesOn .free e e' ∧ w' ∈ (m.attend w).watches ∧
      (m.attend w).Shows w' pipe e' := by
  have hfeed := m.goesOn_feed w
  have hout := hfeed.trans (goesOn_listen _ _ (m.feed w).2 .stdout)
  have herr := hout.trans (goesOn_listen _ _ (m.feed w).2 .stderr)
  have hnotice := herr.trans (goesOn_notice _ _)
  obtain ⟨e', hm, h'⟩ := hnotice.moves h
  refine ⟨_, e', hm, List.mem_map.2 ⟨w, ?_, if_pos (beq_iff_eq.2 ?_)⟩, h'.replaced⟩
  · exact hnotice.watches ▸ hw
  · exact hnotice.process.symm

/-- What is told of the watch is how far the exchange has come. -/
theorem Shows.tells (h : m.Shows w pipe e) : (Watch.session w).Tells e where
  ended := by
    rw [← h.ended, Watch.session, Option.map_map]
    rfl
  stdout := h.drained .stdout
  stdoutClosed := Option.isSome_map.trans (h.closed .stdout)
  stderr := h.drained .stderr
  stderrClosed := Option.isSome_map.trans (h.closed .stderr)
  fed := by
    rw [Watch.session, Option.isNone_map, h.fed]
  fault := rfl

/-! ## The process -/

section

variable {p : Process} {number id offset count : Nat} {octets : List UInt8}

/-- What is read is what the pipe holds first, and nothing only if nobody will write any more. -/
theorem acts_serveRead {next : List UInt8 → Child} {reply : Except HostError (List UInt8)}
    (h : m.Shows w pipe e) (hw : w ∈ m.watches) (hp : p ∈ m.processes)
    (hd : m.description? p number = some (id, ⟨.readEnd pipe, offset⟩))
    (hchild : e.child = .reads count next)
    (hserve : m.serveRead p number count = some (m', reply)) :
    ∃ octets e', reply = .ok octets ∧ Exchange.Acts .free e e' ∧ e'.child = next octets ∧
      m'.Shows w pipe e' := by
  have hholds : e.holds .stdin = true := h.reader ▸ isHeld_of_description? hp hd
  have hlookup := h.inflow (.inr hholds)
  have hpipe : m.pipe pipe = e.inflow.pipe := by
    rw [State.pipe, hlookup, Option.getD_some]
  unfold serveRead at hserve
  rw [hd] at hserve
  dsimp only at hserve
  rw [hpipe] at hserve
  split at hserve
  · next hheld =>
      split at hserve
      · cases hserve
      · next hwriter =>
          cases hserve
          have hclosed : e.inflow.isOpen = false := by
            refine Bool.eq_false_iff.2 fun hopen => hwriter ?_
            exact hasWriter_of_feed hw (h.feed_eq hopen)
          refine ⟨[], _, rfl, .readsNothing hchild (.inr (.inr ⟨hheld, hclosed⟩)), rfl, ?_⟩
          exact h.child _
  · next hheld =>
      cases hserve
      rw [← e.inflow.pipe.pull_min count]
      have hread := h.take hlookup (min count e.inflow.pipe.held.length)
      rcases Nat.eq_zero_or_pos count with rfl | hpos
      · -- It was not asked for anything.
        have hsame : e.inflow.take 0 = e.inflow := by
          rw [Inflow.take, Pipe.pull_zero, List.append_nil]
        rw [Nat.zero_min, hsame] at hread
        rw [Nat.zero_min]
        exact ⟨_, _, rfl, .readsNothing hchild (.inr (.inl rfl)), rfl, hread.child _⟩
      · have hlength : 0 < e.inflow.pipe.held.length := by
          rw [hheld]
          exact Nat.succ_pos _
        refine ⟨_, _, rfl, .reads hchild hholds (Nat.lt_min.2 ⟨hpos, hlength⟩)
          (Nat.min_le_left ..) (Nat.min_le_right ..), rfl, hread.child _⟩

/-- What is written is the part that fits. -/
theorem movesOn_serveWrite {o : Outlet} {next : Child} {input : List UInt8}
    {reply : Except HostError Nat} (h : m.Shows w pipe e) (hw : w ∈ m.watches)
    (hs : e.IsSound input) (hrun : e.status? = none) (hp : p ∈ m.processes)
    (hd : m.description? p number = some (id, ⟨.writeEnd (w.tap o).pipe, offset⟩))
    (hchild : e.child = .writes o octets next)
    (hserve : m.serveWrite p number octets = some (m', reply)) :
    ∃ n e', reply = .ok n ∧ Exchange.MovesOn .free e e' ∧
      e'.child = .writes o (octets.drop n) next ∧ m'.Shows w pipe e' := by
  have hholds : e.holds o.stream = true := h.writer o ▸ isHeld_of_description? hp hd
  have hopen : (e.outflow o).isClosed = false := by
    refine Bool.eq_false_iff.2 fun hclosed => ?_
    rw [((hs.outflow o).closed hclosed).2] at hholds
    cases hholds
  have hlookup := h.outflow o hopen
  have hreader : m.hasReader (w.tap o).pipe = true :=
    hasReader_of_tap hw ((h.closed o).trans hopen)
  unfold serveWrite at hserve
  rw [hd] at hserve
  dsimp only at hserve
  rw [hreader, if_pos rfl, h.pipe_tap_eq hopen] at hserve
  split at hserve
  · cases hserve
  · next hgo =>
      cases hserve
      generalize hn : (e.outflow o).pipe.accepts octets = n at hgo ⊢
      have hwrite := h.write hopen (octets.take n) (.writes o (octets.drop n) next)
      rcases Nat.eq_zero_or_pos n with rfl | hpos
      · -- There was nothing to be written.
        rw [List.take_zero, List.drop_zero, ← hchild] at hwrite
        have hsame : { e with child := e.child }.setOutflow o ((e.outflow o).write []) = e := by
          rw [Outflow.write, Pipe.push_nil, List.append_nil, Exchange.setOutflow,
            Function.update_eq_self]
        rw [hsame] at hwrite
        exact ⟨0, e, rfl, .refl, hchild, hwrite⟩
      · have htakes : Uptake.free.takes (e.outflow o).pipe octets n :=
          ⟨hpos, hn ▸ Pipe.accepts_le_room _ _, hn ▸ Uptake.whole.le_length ⟨hn ▸ hpos, rfl⟩⟩
        exact ⟨n, _, rfl, .single (.child hrun (.writes hchild hholds htakes)), rfl, hwrite⟩

/-- Who holds something after the end of a process is another one. -/
theorem isHeld_of_exit {code : Nat} {object : Object}
    (h : ({ m with processes := m.processes.exit id code } : State).isHeld object = true) :
    ({ m with processes := m.processes.reap id } : State).isHeld object = true := by
  obtain ⟨q, hq, hheld⟩ := List.any_eq_true.1 h
  rcases Processes.cases_of_mem_exit hq with ⟨-, hnone, -⟩ | ⟨p, hp, hne, -, hsame⟩
  · rw [hnone] at hheld
    cases hheld
  · rw [hsame] at hheld
    exact List.any_eq_true.2 ⟨p, List.mem_filter.2 ⟨hp, bne_iff_ne.2 hne⟩, hheld⟩

/-- When the process has come to its end and has left nobody behind who holds an end of its pipes,
    it has ended in the exchange too. -/
theorem acts_step_done {software : Software} {code : Nat} (h : m.Shows w pipe e)
    (hw : w ∈ m.watches) (hchild : e.child = .exits (.exited code)) (hp : p ∈ m.processes)
    (hid : p.id = w.process) (hparent : p.parent ≠ Processes.initial)
    (hkept : ∀ q ∈ m.processes, q.id ≠ p.parent)
    (hleft : ∀ object, (object = .readEnd pipe ∨ ∃ o, object = .writeEnd (w.tap o).pipe) →
      ({ m with processes := m.processes.reap p.id } : State).isHeld object = false)
    (hlife : p.life = .running (.done code)) (hstep : m.step software p = some m') :
    ∃ e', Exchange.Acts .free e e' ∧ e'.status? = some (.exited code) ∧ m'.Shows w pipe e' := by
  unfold step at hstep
  rw [hlife] at hstep
  cases hstep
  have hheld (object : Object)
      (hobject : object = .readEnd pipe ∨ ∃ o, object = .writeEnd (w.tap o).pipe) :
      ({ m with processes := m.processes.exit p.id code } : State).isHeld object = false := by
    refine Bool.eq_false_iff.2 fun hheld => ?_
    have hother := isHeld_of_exit hheld
    rw [hleft object hobject] at hother
    cases hother
  have hstatus : ((m.processes.exit p.id code).find? p.id).bind Process.status? =
      some (.exited code) := Processes.find?_exit hp hparent hkept
  have hnone : ∀ q ∈ m.processes.exit p.id code, q.id = w.process → q.descriptors = [] := by
    intro q hq hqid
    rcases Processes.cases_of_mem_exit hq with ⟨-, hnone, -⟩ | ⟨r, -, hne, hsame, -⟩
    · exact hnone
    · exact absurd (hsame.symm.trans (hqid.trans hid.symm)) hne
  refine ⟨_, .exits hchild, rfl, Shows.tidy ?_ hw⟩
  exact { h with
    inflow := fun hused => h.inflow (.inl (hused.resolve_right nofun))
    reader := hheld _ (.inl rfl)
    writer := fun o => hheld _ (.inr ⟨o, rfl⟩)
    status := fun _ => hid ▸ hstatus
    gone := fun _ => hnone }

end

end State

end Playground.Machine
