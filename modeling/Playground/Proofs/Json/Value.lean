import Playground.Proofs.Json.Record

set_option autoImplicit false

/-! # A record is a value

Records are read without looking at values that nobody wants, and values are read without knowing
of records. Still both readers agree where they both succeed: what is accepted as a record is one value,
and it ends where the record ends (`Record.skipValue_of_read`). So a document with one value in it
and nothing after it is the same thing for both.

A value that lies inside of others is read as if it were alone, and is then delivered to the frame
that it lies in (`ReadState.read_above`). -/

namespace Playground.Json

namespace ReadState

/-! ## Values inside of frames -/

/-- The state with more frames open below. -/
def above (base : List Frame) (s : ReadState) : ReadState := ⟨s.stack ++ base, s.awaited⟩

/-- Progress with more frames open below. -/
def progressAbove (base : List Frame) : Progress → Progress
  | .going s => .going (s.above base)
  | .finished v => deliver v base

variable {s : ReadState} {base stack : List Frame} {l : Lexeme} {p : Progress} {v : Value}
  {lexemes rest : List Lexeme}

theorem progressAbove_deliver (v : Value) (stack base : List Frame) :
    progressAbove base (deliver v stack) = deliver v (stack ++ base) := by
  cases stack <;> rfl

theorem close?_append (h : close? stack l = some p) :
    close? (stack ++ base) l = some (progressAbove base p) := by
  cases stack with
  | nil => cases h
  | cons frame stack =>
      obtain ⟨v, hv, rfl⟩ := Option.map_eq_some_iff.1 h
      rw [List.cons_append, close?, hv, Option.map_some, progressAbove_deliver]

theorem begin?_append (h : begin? none stack l = some p) :
    begin? none (stack ++ base) l = some (progressAbove base p) := by
  unfold begin? at h ⊢
  split at h
  · obtain rfl := Option.some.inj h
    rw [progressAbove_deliver]
  · simp only [Option.any_none, Bool.false_eq_true, if_false] at h ⊢
    split at h
    · obtain rfl := Option.some.inj h
      rfl
    · obtain rfl := Option.some.inj h
      rfl
    · cases h

/-- What closes a frame begins no value. -/
theorem begin?_eq_none {limit : Option Nat} {below : List Frame} (h : close? stack l = some p) :
    begin? limit below l = none := by
  cases stack with
  | nil => cases h
  | cons frame stack =>
      obtain ⟨v, hv, -⟩ := Option.map_eq_some_iff.1 h
      unfold Frame.close? at hv
      split at hv
      · simp [begin?, Lexeme.scalar?]
      · simp [begin?, Lexeme.scalar?]
      · cases hv

theorem step?_more {limit : Option Nat} (h : l ≠ .comma) :
    (⟨stack, .more⟩ : ReadState).step? limit l = close? stack l := by
  cases l with
  | comma => exact absurd rfl h
  | _ => rfl

theorem step?_above (h : s.step? none l = some p) :
    (s.above base).step? none l = some (progressAbove base p) := by
  obtain ⟨stack, awaited⟩ := s
  cases awaited with
  | value => exact begin?_append h
  | itemOrEnd =>
      have h : (close? stack l).or (begin? none stack l) = some p := h
      show (close? (stack ++ base) l).or (begin? none (stack ++ base) l) = _
      rcases Option.or_eq_some_iff.1 h with h | ⟨-, h⟩
      · rw [close?_append h, Option.some_or]
      · cases hclose : close? (stack ++ base) l with
        | none => rw [Option.none_or, begin?_append h]
        | some q =>
            rw [begin?_eq_none hclose] at h
            cases h
  | keyOrEnd =>
      cases l with
      | text key =>
          obtain rfl := Option.some.inj h
          rfl
      | _ => exact close?_append h
  | key =>
      cases l with
      | text key =>
          obtain rfl := Option.some.inj h
          rfl
      | _ => cases h
  | colon key =>
      cases stack with
      | nil => cases l <;> cases h
      | cons frame stack =>
          cases l <;> cases frame <;> cases h
          rfl
  | more =>
      by_cases hcomma : l = .comma
      · subst hcomma
        cases stack with
        | nil => cases h
        | cons frame stack => cases frame <;> cases h <;> rfl
      · rw [step?_more hcomma] at h
        rw [above, step?_more hcomma]
        exact close?_append h

/-- A value that lies in a frame is read as it is read alone. -/
theorem read_above (frame : Frame) (stack : List Frame)
    (h : s.read none lexemes = .ok (v, rest)) :
    (s.above (frame :: stack)).read none lexemes =
      (⟨frame.add v :: stack, .more⟩ : ReadState).read none rest := by
  induction lexemes generalizing s with
  | nil => cases h
  | cons l lexemes ih =>
      rw [read] at h ⊢
      cases hstep : s.step? none l with
      | none =>
          rw [hstep] at h
          cases h
      | some p =>
          rw [step?_above hstep]
          rw [hstep] at h
          cases p with
          | finished w =>
              cases h
              rfl
          | going s' => exact ih h

end ReadState

/-! ## Documents -/

/-- The document is one value, with nothing but blanks after it. -/
structure Document.IsOneValue (d : Document) : Prop where
  complete : d.isComplete = true
  alone : skipValue d.lexemes = .ok []

/-! ## Records -/

variable {slots slots' : Slots} {lexemes rest : List Lexeme} {value : FieldValue}
  {values : List FieldValue}

theorem Field.exists_value_of_read {f : Field} (h : f.read lexemes = .ok (value, rest)) :
    ∃ v, ReadState.start.read none lexemes = .ok (v, rest) := by
  obtain ⟨l, v, rfl, hv⟩ := f.exists_scalar_of_read h
  refine ⟨v, ?_⟩
  simp only [ReadState.read, ReadState.step?, ReadState.start, ReadState.begin?, hv,
    ReadState.deliver]

theorem exists_value_of_readMember {key : String}
    (h : readMember slots key lexemes = .ok (slots', rest)) :
    ∃ body v, lexemes = .colon :: body ∧ ReadState.start.read none body = .ok (v, rest) := by
  obtain ⟨body, rfl, ⟨f, v, -, hread, -⟩ | ⟨⟨w, hw⟩, -⟩⟩ := cases_of_readMember h
  · obtain ⟨w, hw⟩ := Field.exists_value_of_read hread
    exact ⟨body, w, rfl, hw⟩
  · exact ⟨body, w, rfl, hw⟩

/-- Members that are read into slots are those of an object. The first key of an object is awaited
    as the others are, but for the end that may come instead. -/
theorem exists_value_of_readMembers {rounds : Nat} {awaited : Awaited}
    (hawaited : awaited = .key ∨ awaited = .keyOrEnd)
    (h : readMembers rounds slots lexemes = .ok (values, rest))
    (members : List (List Text.Utf8.Symbol × Value)) (key : List Text.Utf8.Symbol) :
    ∃ v, (⟨[.object members key], awaited⟩ : ReadState).read none lexemes = .ok (v, rest) := by
  induction rounds generalizing awaited slots lexemes members key with
  | zero => simp [readMembers] at h
  | succ rounds ih =>
      cases lexemes with
      | nil => simp [readMembers] at h
      | cons l after =>
          cases l with
          | text symbols =>
              rw [readMembers] at h
              obtain ⟨name, -, hread⟩ := bind_eq_ok_iff.1 h
              obtain ⟨⟨slots', left⟩, hmember, hafter⟩ := bind_eq_ok_iff.1 hread
              obtain ⟨body, v, rfl, hv⟩ := exists_value_of_readMember hmember
              have hnext : (⟨[.object members key], awaited⟩ : ReadState).read none
                  (.text symbols :: .colon :: body) =
                    (⟨[.object ((symbols, v) :: members) symbols], .more⟩ : ReadState).read none
                      left := by
                refine Eq.trans ?_
                  (ReadState.read_above (.object members symbols) [] hv)
                rcases hawaited with rfl | rfl <;> rfl
              rw [hnext]
              dsimp only at hafter
              split at hafter
              · exact ih (.inl rfl) hafter _ _
              · obtain ⟨all, -, hall⟩ := bind_eq_ok_iff.1 hafter
                obtain ⟨-, rfl⟩ := Prod.mk.inj (Except.ok.inj hall)
                exact ⟨_, rfl⟩
              · cases hafter
          | _ => simp [readMembers] at h

/-- What may come in an array after this many items. -/
def awaitedAfter (position : Nat) : Awaited := if position = 0 then .itemOrEnd else .more

/-- What comes before an item that this many items come before. -/
def commaAfter (position : Nat) : List Lexeme := if position = 0 then [] else [.comma]

theorem read_closeArray (position : Nat) (items : List Value) (rest : List Lexeme) :
    (⟨[.array items], awaitedAfter position⟩ : ReadState).read none (.closeArray :: rest) =
      .ok (.array items.reverse, rest) := by
  unfold awaitedAfter
  split <;> rfl

theorem read_item {position : Nat} {items : List Value} {l : Lexeme} {v : Value}
    (hl : l.scalar? = some v) :
    (⟨[.array items], awaitedAfter position⟩ : ReadState).read none
        (commaAfter position ++ l :: rest) =
      (⟨[.array (v :: items)], awaitedAfter (position + 1)⟩ : ReadState).read none rest := by
  have hbegin : ReadState.begin? none [.array items] l =
      some (.going ⟨[.array (v :: items)], .more⟩) := by
    simp only [ReadState.begin?, hl, ReadState.deliver, Frame.add]
  have hclose : ReadState.close? [.array items] l = none := by
    cases l <;> first | rfl | cases hl
  cases position with
  | zero =>
      show (ReadState.mk [.array items] .itemOrEnd).read none (l :: rest) = _
      simp only [ReadState.read, ReadState.step?, hclose, Option.none_or, hbegin]
      rfl
  | succ position =>
      show (ReadState.mk [.array items] .more).read none (.comma :: l :: rest) = _
      simp only [ReadState.read, ReadState.step?, hbegin]
      rfl

/-- Items that are read as fields are those of an array. -/
theorem exists_value_of_readItems {r : Record} {position : Nat} {fields : List Field}
    (h : readItems r position fields lexemes = .ok (values, rest)) (items : List Value) :
    ∃ v, (⟨[.array items], awaitedAfter position⟩ : ReadState).read none lexemes =
      .ok (v, rest) := by
  induction fields generalizing position lexemes values items rest with
  | nil =>
      unfold readItems at h
      split at h
      · obtain ⟨-, rfl⟩ := Prod.mk.inj (Except.ok.inj h)
        exact ⟨_, read_closeArray _ _ _⟩
      · cases h
      · contradiction
  | cons f fields ih =>
      have hnext : ∀ after,
          (f.read after >>= fun first =>
            readItems r (position + 1) fields first.2 >>= fun others =>
              .ok (first.1 :: others.1, others.2)) = .ok (values, rest) →
          ∃ v, (⟨[.array items], awaitedAfter position⟩ : ReadState).read none
            (commaAfter position ++ after) = .ok (v, rest) := by
        intro after h
        obtain ⟨⟨value, left⟩, hread, h⟩ := bind_eq_ok_iff.1 h
        obtain ⟨⟨others, left'⟩, hothers, h⟩ := bind_eq_ok_iff.1 h
        obtain ⟨-, rfl⟩ := Prod.mk.inj (Except.ok.inj h)
        obtain ⟨l, v, rfl, hl⟩ := f.exists_scalar_of_read hread
        rw [read_item hl]
        exact ih hothers _
      unfold readItems at h
      split at h
      · cases h
      · split at h
        · cases h
        · obtain ⟨⟨others, left⟩, hothers, h⟩ := bind_eq_ok_iff.1 h
          obtain ⟨-, rfl⟩ := Prod.mk.inj (Except.ok.inj h)
          exact ih hothers items
      · dsimp only at h
        split at h
        · next hfirst => simpa [commaAfter, hfirst] using hnext _ h
        · next hlater =>
            split at h
            · next hcomma =>
                split at h
                · cases h
                · simpa [commaAfter, hlater, hcomma] using hnext _ h
            · cases h

/-- A record is one value, and ends where that value ends. -/
theorem Record.skipValue_of_read {r : Record} (h : r.read lexemes = .ok (values, rest)) :
    skipValue lexemes = .ok rest := by
  suffices hvalue : ∃ v, ReadState.start.read none lexemes = .ok (v, rest) by
    obtain ⟨v, hv⟩ := hvalue
    rw [skipValue, hv]
    rfl
  unfold Record.read at h
  split at h
  · cases h
  · obtain ⟨all, -, h⟩ := bind_eq_ok_iff.1 h
    obtain ⟨-, rfl⟩ := Prod.mk.inj (Except.ok.inj h)
    exact ⟨_, rfl⟩
  · exact exists_value_of_readMembers (.inr rfl) h [] []
  · exact exists_value_of_readItems h []
  · cases h

/-- A record that a document with one value begins with is all of it. -/
theorem Document.IsOneValue.rest_eq_nil {d : Document} {r : Record} (hd : d.IsOneValue)
    (h : r.read d.lexemes = .ok (values, rest)) : rest = [] := by
  have hskip := r.skipValue_of_read h
  rw [hd.alone] at hskip
  exact (Except.ok.inj hskip).symm

end Playground.Json
