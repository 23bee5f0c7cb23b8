import Mathlib.Data.List.Nodup
import Playground.Json.Record

set_option autoImplicit false

/-! # The values of a record

However a record is written, as an object or as an array, what is read of it has one value for each
field, in the order of the fields, and a field that is required has a text (`HasValues`). -/

namespace Playground.Json

/-- The values belong to the fields one by one, and those of the required fields are texts. -/
inductive HasValues : List Field → List FieldValue → Prop where
  | nil : HasValues [] []
  | cons {f : Field} {v : FieldValue} {fields : List Field} {values : List FieldValue}
      (h : f.isRequired = true → v.isSome = true) (rest : HasValues fields values) :
      HasValues (f :: fields) (v :: values)

/-- What has been read of a required field is a text. -/
def Slots.AreSound (slots : Slots) : Prop :=
  ∀ f v, (f, some v) ∈ slots → f.isRequired = true → v.isSome = true

variable {f : Field} {v : FieldValue} {slots slots' : Slots} {key : String}
  {lexemes rest : List Lexeme} {values : List FieldValue}

theorem HasValues.of_forall₂ {fields : List Field}
    (h : List.Forall₂ (fun f v => f.isRequired = true → Option.isSome v = true) fields values) :
    HasValues fields values := by
  induction h with
  | nil => exact .nil
  | cons hv _ ih => exact .cons hv ih

theorem bind_eq_ok_iff {ε α β : Type} {x : Except ε α} {g : α → Except ε β} {b : β} :
    x.bind g = .ok b ↔ ∃ a, x = .ok a ∧ g a = .ok b := by
  cases x <;> simp [Except.bind]

theorem map_eq_ok_iff {ε α β : Type} {x : Except ε α} {g : α → β} {b : β} :
    x.map g = .ok b ↔ ∃ a, x = .ok a ∧ g a = b := by
  cases x <;> simp [Except.map]

theorem Field.isSome_of_read (h : f.read lexemes = .ok (v, rest)) (hf : f.isRequired = true) :
    v.isSome = true := by
  unfold Field.read at h
  split at h
  · cases h
  · obtain ⟨s, -, h⟩ := bind_eq_ok_iff.1 h
    split at h
    · cases h
    · obtain ⟨rfl, -⟩ := Prod.mk.inj (Except.ok.inj h)
      rfl
  · rw [if_pos hf] at h
    cases h
  · cases h

/-- The value of a field is one lexeme that is a value by itself. -/
theorem Field.exists_scalar_of_read (h : f.read lexemes = .ok (v, rest)) :
    ∃ l w, lexemes = l :: rest ∧ l.scalar? = some w := by
  unfold Field.read at h
  split at h
  · cases h
  · obtain ⟨s, -, h⟩ := bind_eq_ok_iff.1 h
    split at h
    · cases h
    · obtain ⟨-, rfl⟩ := Prod.mk.inj (Except.ok.inj h)
      exact ⟨_, _, rfl, rfl⟩
  · split at h
    · cases h
    · obtain ⟨-, rfl⟩ := Prod.mk.inj (Except.ok.inj h)
      exact ⟨_, _, rfl, rfl⟩
  · cases h

/-! ## Objects -/

theorem Slots.AreSound.hasValues (hs : slots.AreSound) (h : slots.values = .ok values) :
    HasValues (slots.map Prod.fst) values := by
  induction slots generalizing values with
  | nil =>
      obtain rfl := Except.ok.inj h
      exact .nil
  | cons slot slots ih =>
      obtain ⟨f, value⟩ := slot
      have hrest : Slots.AreSound slots := fun g v hg => hs g v (List.mem_cons_of_mem _ hg)
      cases value with
      | some v =>
          obtain ⟨others, hothers, rfl⟩ := map_eq_ok_iff.1 h
          exact .cons (hs f v List.mem_cons_self) (ih hrest hothers)
      | none =>
          rw [Slots.values] at h
          split at h
          · cases h
          · next hf =>
              obtain ⟨others, hothers, rfl⟩ := map_eq_ok_iff.1 h
              exact .cons (fun hreq => absurd hreq hf) (ih hrest hothers)

/-- A field that is not required has been filled with anything, and a required one with a text. -/
theorem Slots.AreSound.fill (hs : slots.AreSound) {name : String}
    (h : ∀ g ∈ slots.map Prod.fst, g.name = name → g.isRequired = true → v.isSome = true) :
    (slots.fill name v).AreSound := by
  intro g value hg hreq
  obtain ⟨⟨g', value'⟩, hslot, heq⟩ := List.mem_map.1 hg
  dsimp only at heq
  split at heq
  · next hname =>
      obtain ⟨rfl, hvalue⟩ := Prod.mk.inj heq
      obtain rfl := Option.some.inj hvalue
      exact h g' (List.mem_map_of_mem hslot) hname hreq
  · obtain ⟨rfl, rfl⟩ := Prod.mk.inj heq
    exact hs g' value hslot hreq

theorem Slots.map_fst_fill (name : String) (v : FieldValue) (slots : Slots) :
    (slots.fill name v).map Prod.fst = slots.map Prod.fst := by
  unfold Slots.fill
  rw [List.map_map]
  refine List.map_congr_left fun slot _ => ?_
  simp only [Function.comp_apply]
  split <;> rfl

theorem ReadState.suffix_of_read {limit : Option Nat} {s : ReadState} {w : Value}
    (h : s.read limit lexemes = .ok (w, rest)) : rest <:+ lexemes := by
  induction lexemes generalizing s with
  | nil => cases h
  | cons l lexemes ih =>
      rw [read] at h
      split at h
      · cases h
      · obtain ⟨-, rfl⟩ := Prod.mk.inj (Except.ok.inj h)
        exact List.suffix_cons l _
      · exact (ih h).trans (List.suffix_cons l _)

/-- A member is read into a slot that was empty, or it is passed over. -/
theorem cases_of_readMember (h : readMember slots key lexemes = .ok (slots', rest)) :
    ∃ body, lexemes = .colon :: body ∧
      ((∃ f v, slots.find? (fun slot => slot.1.name == key) = some (f, none) ∧
          f.read body = .ok (v, rest) ∧ slots' = slots.fill key v) ∨
        (∃ w, ReadState.start.read none body = .ok (w, rest)) ∧ slots' = slots) := by
  unfold readMember at h
  split at h
  · cases h
  · next f body hfind =>
      obtain ⟨⟨v, left⟩, hread, heq⟩ := map_eq_ok_iff.1 h
      obtain ⟨rfl, rfl⟩ := Prod.mk.inj heq
      exact ⟨body, rfl, .inl ⟨f, v, hfind, hread, rfl⟩⟩
  · next body _ =>
      obtain ⟨left, hskip, heq⟩ := map_eq_ok_iff.1 h
      obtain ⟨rfl, rfl⟩ := Prod.mk.inj heq
      obtain ⟨⟨w, after⟩, hw, rfl⟩ := map_eq_ok_iff.1 hskip
      exact ⟨body, rfl, .inr ⟨⟨w, hw⟩, rfl⟩⟩
  · cases h

theorem suffix_of_readMember (h : readMember slots key lexemes = .ok (slots', rest)) :
    rest <:+ lexemes := by
  obtain ⟨body, rfl, ⟨f, v, -, hread, -⟩ | ⟨⟨w, hw⟩, -⟩⟩ := cases_of_readMember h
  · obtain ⟨l, w, rfl, -⟩ := Field.exists_scalar_of_read hread
    exact (List.suffix_cons l rest).trans (List.suffix_cons _ _)
  · exact (ReadState.suffix_of_read hw).trans (List.suffix_cons _ body)

/-- The fields stay the same when a member is read. -/
theorem map_fst_of_readMember (h : readMember slots key lexemes = .ok (slots', rest)) :
    slots'.map Prod.fst = slots.map Prod.fst := by
  obtain ⟨body, -, ⟨f, v, -, -, rfl⟩ | ⟨-, rfl⟩⟩ := cases_of_readMember h
  · exact Slots.map_fst_fill key v slots
  · rfl

/-- A member is read into a slot that is sound. -/
theorem readMember_sound (hnames : ((slots.map Prod.fst).map Field.name).Nodup)
    (hs : slots.AreSound) (h : readMember slots key lexemes = .ok (slots', rest)) :
    slots'.AreSound := by
  obtain ⟨body, -, ⟨f, v, hfind, hread, rfl⟩ | ⟨-, rfl⟩⟩ := cases_of_readMember h
  · refine hs.fill fun g hg hname hreq => ?_
    -- The field that was read is the only one of its name.
    have hf : f ∈ slots.map Prod.fst := List.mem_map_of_mem (List.mem_of_find?_eq_some hfind)
    have hkey : f.name = key := by simpa using List.find?_some hfind
    obtain rfl : g = f := List.inj_on_of_nodup_map hnames hg hf (hname.trans hkey.symm)
    exact Field.isSome_of_read hread hreq
  · exact hs

/-- What each member leaves true of the slots is true of those that the values are taken from. -/
theorem exists_slots_of_readMembers {P : Slots → Prop} {rounds : Nat}
    (hmember : ∀ {slots slots' key after left}, after <:+ lexemes → P slots →
      readMember slots key after = .ok (slots', left) → P slots')
    (hs : P slots) (h : readMembers rounds slots lexemes = .ok (values, rest)) :
    ∃ slots', P slots' ∧ slots'.values = .ok values := by
  induction rounds generalizing slots lexemes with
  | zero => simp [readMembers] at h
  | succ rounds ih =>
      cases lexemes with
      | nil => simp [readMembers] at h
      | cons l after =>
          cases l with
          | text key =>
              rw [readMembers] at h
              obtain ⟨name, -, h⟩ := bind_eq_ok_iff.1 h
              obtain ⟨⟨slots', left⟩, hread, h⟩ := bind_eq_ok_iff.1 h
              have hafter : after <:+ .text key :: after := List.suffix_cons _ after
              have hs' := hmember hafter hs hread
              have hleft := (suffix_of_readMember hread).trans hafter
              dsimp only at h
              split at h
              · next later =>
                have hlater := (List.suffix_cons _ later).trans hleft
                exact ih (fun hsuffix => hmember (hsuffix.trans hlater)) hs' h
              · obtain ⟨all, hall, h⟩ := bind_eq_ok_iff.1 h
                obtain ⟨rfl, -⟩ := Prod.mk.inj (Except.ok.inj h)
                exact ⟨slots', hs', hall⟩
              · cases h
          | _ => simp [readMembers] at h

theorem hasValues_of_readMembers {rounds : Nat}
    (hnames : ((slots.map Prod.fst).map Field.name).Nodup) (hs : slots.AreSound)
    (h : readMembers rounds slots lexemes = .ok (values, rest)) :
    HasValues (slots.map Prod.fst) values := by
  obtain ⟨slots', ⟨hfields, hs'⟩, hvalues⟩ := exists_slots_of_readMembers
    (P := fun slots' => slots'.map Prod.fst = slots.map Prod.fst ∧ slots'.AreSound)
    (fun _ hs hread => ⟨(map_fst_of_readMember hread).trans hs.1,
      readMember_sound (hs.1 ▸ hnames) hs.2 hread⟩) ⟨rfl, hs⟩ h
  exact hfields ▸ hs'.hasValues hvalues

/-! ## Arrays -/

/-- Each item is read as the value of the field that stands where it does, and nothing is read of a
    field that is not required where the array ends before it. -/
theorem forall₂_of_readItems {r : Record} {P : Field → FieldValue → Prop} {position : Nat}
    {fields : List Field}
    (hread : ∀ {f v items left}, items <:+ lexemes → Field.read f items = .ok (v, left) → P f v)
    (hnone : ∀ {f : Field}, ¬f.isRequired = true → P f none)
    (h : readItems r position fields lexemes = .ok (values, rest)) :
    List.Forall₂ P fields values := by
  induction fields generalizing position lexemes values rest with
  | nil =>
      unfold readItems at h
      split at h
      · obtain ⟨rfl, -⟩ := Prod.mk.inj (Except.ok.inj h)
        exact .nil
      · cases h
      · contradiction
  | cons f fields ih =>
      have hnext : ∀ items, items <:+ lexemes →
          (f.read items >>= fun first =>
            readItems r (position + 1) fields first.2 >>= fun others =>
              .ok (first.1 :: others.1, others.2)) = .ok (values, rest) →
          List.Forall₂ P (f :: fields) values := by
        intro items hitems h
        obtain ⟨⟨v, left⟩, hv, h⟩ := bind_eq_ok_iff.1 h
        obtain ⟨⟨others, left'⟩, hothers, h⟩ := bind_eq_ok_iff.1 h
        obtain ⟨rfl, -⟩ := Prod.mk.inj (Except.ok.inj h)
        obtain ⟨l, w, rfl, -⟩ := Field.exists_scalar_of_read hv
        have hleft := (List.suffix_cons l left).trans hitems
        exact .cons (hread hitems hv) (ih (fun hsuffix => hread (hsuffix.trans hleft)) hothers)
      unfold readItems at h
      split at h
      · cases h
      · split at h
        · cases h
        · next hf =>
            obtain ⟨⟨others, left⟩, hothers, h⟩ := bind_eq_ok_iff.1 h
            obtain ⟨rfl, -⟩ := Prod.mk.inj (Except.ok.inj h)
            exact .cons (hnone hf) (ih hread hothers)
      · dsimp only at h
        split at h
        · exact hnext _ List.suffix_rfl h
        · split at h
          · split at h
            · cases h
            · exact hnext _ (List.suffix_cons _ _) h
          · cases h

theorem hasValues_of_readItems {r : Record} {position : Nat} {fields : List Field}
    (h : readItems r position fields lexemes = .ok (values, rest)) : HasValues fields values :=
  .of_forall₂ <| forall₂_of_readItems (fun _ hv => Field.isSome_of_read hv)
    (fun hf hreq => absurd hreq hf) h

/-! ## Records -/

theorem Record.areSound_slots (r : Record) : r.slots.AreSound := by
  intro f v hf
  simp [Record.slots] at hf

theorem Record.map_fst_slots (r : Record) : r.slots.map Prod.fst = r.fields := by
  simp [Record.slots, Function.comp_def]

/-- What is read of a record belongs to its fields. -/
theorem Record.hasValues_of_read {r : Record} (hnames : (r.fields.map Field.name).Nodup)
    (h : r.read lexemes = .ok (values, rest)) : HasValues r.fields values := by
  have hslots := r.map_fst_slots
  unfold Record.read at h
  split at h
  · cases h
  · obtain ⟨all, hall, h⟩ := bind_eq_ok_iff.1 h
    obtain ⟨rfl, -⟩ := Prod.mk.inj (Except.ok.inj h)
    rw [← hslots]
    exact r.areSound_slots.hasValues hall
  · rw [← hslots] at hnames ⊢
    exact hasValues_of_readMembers hnames r.areSound_slots h
  · exact hasValues_of_readItems h
  · cases h

/-! ## Whole documents -/

theorem Document.readAll_eq_ok_iff {α : Type} {d : Document} {read : List Lexeme → Reading α}
    {v : α} : d.readAll read = .ok v ↔ d.isComplete = true ∧ read d.lexemes = .ok (v, []) := by
  unfold Document.readAll
  cases read d.lexemes with
  | error fault => exact ⟨fun h => (by cases h), fun h => (by cases h.2)⟩
  | ok result =>
      obtain ⟨w, rest⟩ := result
      show (if _ then _ else _) = _ ↔ _
      cases rest with
      | nil => cases d.isComplete <;> simp
      | cons l rest => simp

end Playground.Json
