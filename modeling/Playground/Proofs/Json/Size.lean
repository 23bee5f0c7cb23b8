import Playground.Proofs.Json.Refusal
import Playground.Text.Utf8

set_option autoImplicit false

/-! # Texts within a document

A character takes at least one octet, an escape more than one character, and a text is a part of its
document. So what is read of a record has no text that is longer than the octets that it was read
from (`Record.length_le_of_read_decode`). -/

namespace Playground

/-! ## Symbols -/

namespace Text.Utf8

theorem Decoder.length_finish_takeLead_le (symbols : List Symbol) (b : UInt8) :
    (takeLead symbols b).finish.length ≤ symbols.length + 1 := by
  unfold takeLead
  split <;> simp [finish]

/-- One octet more is one symbol more at most, be it that a character is complete or that it cannot
    be completed. -/
theorem Decoder.length_finish_step_le (d : Decoder) (b : UInt8) :
    (d.step b).finish.length ≤ d.finish.length + 1 := by
  obtain ⟨pending, symbols⟩ := d
  cases pending with
  | none => simpa [step, finish] using length_finish_takeLead_le symbols b
  | some p =>
      unfold step
      dsimp only
      split
      · split <;> simp [finish]
      · simpa [finish] using length_finish_takeLead_le (none :: symbols) b

theorem length_decode_le (octets : List UInt8) : (decode octets).length ≤ octets.length := by
  have hfold : ∀ d : Decoder,
      (octets.foldl Decoder.step d).finish.length ≤ d.finish.length + octets.length := by
    induction octets with
    | nil => exact fun d => Nat.le_refl _
    | cons b octets ih =>
        intro d
        have hstep := d.length_finish_step_le b
        have hrest := ih (d.step b)
        rw [List.foldl_cons, List.length_cons]
        omega
  have h := hfold .start
  rwa [show Decoder.start.finish.length = 0 from rfl, Nat.zero_add] at h

end Text.Utf8

namespace Json

open Text.Utf8 (Symbol)

variable {input : Input} {lexemes rest : List Lexeme} {n : Nat} {l : Lexeme} {t : List Symbol}

/-! ## Lexemes -/

theorem length_joinUnits_le (units : List TextUnit) : (joinUnits units).length ≤ units.length := by
  fun_induction joinUnits units <;> grind

theorem length_readUnits_le {st : TextState} {acc units : List TextUnit} {rest : Input}
    (h : readUnits st acc input = some (units, rest)) :
    units.length ≤ acc.length + input.length := by
  induction input generalizing st acc with
  | nil => cases st <;> simp [readUnits] at h
  | cons s cs ih =>
      -- Each symbol makes one unit at most.
      have later {st : TextState} {acc' : List TextUnit} (hacc : acc'.length ≤ acc.length + 1)
          (h : readUnits st acc' cs = some (units, rest)) :
          units.length ≤ acc.length + (s :: cs).length := by
        have hle := ih h
        rw [List.length_cons]
        omega
      cases st <;> simp only [readUnits] at h <;> grind

theorem length_le_of_readText {rest : Input} (h : readText input = some (t, rest)) :
    t.length ≤ input.length := by
  unfold readText at h
  split at h
  · next units left hunits =>
      obtain ⟨rfl, -⟩ := Prod.mk.inj (Option.some.inj h)
      have hjoin := length_joinUnits_le units.reverse
      have hread := length_readUnits_le hunits
      rw [List.length_reverse] at hjoin
      simpa using Nat.le_trans hjoin hread
  · cases h

theorem length_le_of_nextLexeme? {rest : Input} (h : nextLexeme? input = some (.text t, rest)) :
    t.length ≤ input.length := by
  have hle := (List.dropWhile_sublist (l := input) isSeparator).length_le
  unfold nextLexeme? at h
  split at h
  · cases h
  · cases h
  · next c after hafter =>
      rw [hafter, List.length_cons] at hle
      unfold Lexeme.first? at h
      split at h <;> try simp at h
      -- Only the lexeme that opens with a quote is a text.
      have ht := length_le_of_readText h
      omega

/-- No text among the lexemes has more than `n` symbols. -/
def TextsWithin (n : Nat) (lexemes : List Lexeme) : Prop :=
  ∀ t, .text t ∈ lexemes → t.length ≤ n

theorem TextsWithin.of_suffix (h : TextsWithin n lexemes) (hrest : rest <:+ lexemes) :
    TextsWithin n rest := fun t ht => h t (hrest.subset ht)

theorem textsWithin_ofInput (input : Input) :
    TextsWithin input.length (Document.ofInput input).lexemes := by
  fun_induction Document.ofInput input with
  | case1 input h =>
    intro t ht
    cases ht
  | case2 input l rest h d ih =>
    intro t ht
    rcases List.mem_cons.1 ht with rfl | ht
    · exact length_le_of_nextLexeme? h
    · exact Nat.le_trans (ih t ht) (Nat.le_of_lt (nextLexeme?_length h))

/-! ## Records -/

variable {f : Field} {v : FieldValue} {slots slots' : Slots} {values : List FieldValue}

/-- The value has no text with more than `n` characters. -/
def FieldValue.IsWithin (n : Nat) (v : FieldValue) : Prop := ∀ s, v = some s → s.length ≤ n

theorem length_of_textOf {s : String} (h : textOf t = .ok s) : s.length = t.length := by
  have hall : ∀ {t : List Symbol} {cs : List Char}, t.mapM id = some cs → cs.length = t.length := by
    intro t
    induction t with
    | nil =>
        intro cs hcs
        obtain rfl := Option.some.inj hcs
        rfl
    | cons symbol t ih =>
        intro cs hcs
        rw [List.mapM_cons, Option.bind_eq_bind, Option.bind_eq_some_iff] at hcs
        obtain ⟨c, -, hcs⟩ := hcs
        obtain ⟨rest, hrest, hcs⟩ := Option.bind_eq_some_iff.1 hcs
        obtain rfl := Option.some.inj hcs
        rw [List.length_cons, List.length_cons, ih hrest]
  unfold textOf at h
  split at h
  · next cs hcs =>
      obtain rfl := Except.ok.inj h
      rw [String.length_ofList, hall hcs]
  · cases h

theorem Field.isWithin_of_read (hl : TextsWithin n lexemes)
    (h : f.read lexemes = .ok (v, rest)) : FieldValue.IsWithin n v := by
  unfold Field.read at h
  split at h
  · cases h
  · next t rest =>
      obtain ⟨s, hs, h⟩ := bind_eq_ok_iff.1 h
      split at h
      · cases h
      · obtain ⟨rfl, -⟩ := Prod.mk.inj (Except.ok.inj h)
        rintro _ ⟨⟩
        rw [length_of_textOf hs]
        exact hl t List.mem_cons_self
  · split at h
    · cases h
    · obtain ⟨rfl, -⟩ := Prod.mk.inj (Except.ok.inj h)
      simp [FieldValue.IsWithin]
  · cases h

/-- No text that has been read has more than `n` characters. -/
def Slots.AreWithin (n : Nat) (slots : Slots) : Prop :=
  ∀ f v, (f, some v) ∈ slots → FieldValue.IsWithin n v

theorem Slots.AreWithin.of_values (hs : slots.AreWithin n) (h : slots.values = .ok values) :
    ∀ v ∈ values, FieldValue.IsWithin n v := by
  intro v hv
  rw [Slots.values_eq h] at hv
  obtain ⟨⟨f, value⟩, hslot, rfl⟩ := List.mem_map.1 hv
  cases value with
  | none => simp [FieldValue.IsWithin]
  | some v => exact hs f v hslot

theorem Slots.AreWithin.fill (hs : slots.AreWithin n) (hv : FieldValue.IsWithin n v)
    (name : String) : (slots.fill name v).AreWithin n := by
  intro f value hf
  obtain ⟨⟨g, old⟩, hslot, heq⟩ := List.mem_map.1 hf
  dsimp only at heq
  split at heq
  · obtain ⟨-, hvalue⟩ := Prod.mk.inj heq
    rwa [← Option.some.inj hvalue]
  · obtain ⟨rfl, rfl⟩ := Prod.mk.inj heq
    exact hs g value hslot

theorem readMember_within {key : String} (hl : TextsWithin n lexemes) (hs : slots.AreWithin n)
    (h : readMember slots key lexemes = .ok (slots', rest)) : slots'.AreWithin n := by
  obtain ⟨body, rfl, ⟨f, v, -, hread, rfl⟩ | ⟨-, rfl⟩⟩ := cases_of_readMember h
  · exact hs.fill (Field.isWithin_of_read (hl.of_suffix (List.suffix_cons _ body)) hread) key
  · exact hs

theorem readMembers_within {rounds : Nat} (hl : TextsWithin n lexemes) (hs : slots.AreWithin n)
    (h : readMembers rounds slots lexemes = .ok (values, rest)) :
    ∀ v ∈ values, FieldValue.IsWithin n v := by
  obtain ⟨slots', hs', hvalues⟩ := exists_slots_of_readMembers
    (fun hafter hs hread => readMember_within (hl.of_suffix hafter) hs hread) hs h
  exact hs'.of_values hvalues

theorem FieldValue.isWithin_of_forall₂ {fields : List Field}
    (h : List.Forall₂ (fun _ v => IsWithin n v) fields values) :
    ∀ v ∈ values, IsWithin n v := by
  induction h with
  | nil => simp
  | cons hv _ ih => exact List.forall_mem_cons.2 ⟨hv, ih⟩

theorem readItems_within {r : Record} {position : Nat} {fields : List Field}
    (hl : TextsWithin n lexemes) (h : readItems r position fields lexemes = .ok (values, rest)) :
    ∀ v ∈ values, FieldValue.IsWithin n v :=
  FieldValue.isWithin_of_forall₂ <| forall₂_of_readItems
    (fun hitems hread => Field.isWithin_of_read (hl.of_suffix hitems) hread)
    (fun _ => by simp [FieldValue.IsWithin]) h

/-- No text of a record has more characters than the longest text of its document has symbols. -/
theorem Record.within_of_read {r : Record} (hl : TextsWithin n lexemes)
    (h : r.read lexemes = .ok (values, rest)) : ∀ v ∈ values, FieldValue.IsWithin n v := by
  have hslots : r.slots.AreWithin n := by
    intro f v hf
    simp [Record.slots] at hf
  unfold Record.read at h
  split at h
  · cases h
  · obtain ⟨all, hall, h⟩ := bind_eq_ok_iff.1 h
    obtain ⟨rfl, -⟩ := Prod.mk.inj (Except.ok.inj h)
    exact hslots.of_values hall
  · exact readMembers_within (hl.of_suffix (List.suffix_cons _ _)) hslots h
  · exact readItems_within (hl.of_suffix (List.suffix_cons _ _)) h
  · cases h

/-- No text of a record has more characters than the octets that it was read from. -/
theorem Record.length_le_of_read_decode {r : Record} {octets : List UInt8}
    (h : r.read (Document.ofInput (Text.Utf8.decode octets)).lexemes = .ok (values, rest))
    {s : String} (hs : some s ∈ values) : s.length ≤ octets.length :=
  Nat.le_trans (Record.within_of_read (textsWithin_ofInput _) h (some s) hs s rfl)
    (Text.Utf8.length_decode_le octets)

end Json

end Playground
