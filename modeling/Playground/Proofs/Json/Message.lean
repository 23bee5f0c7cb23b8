import Mathlib.Data.List.TakeWhile
import Playground.Json.Fault

set_option autoImplicit false

/-! # The words of a refusal

A message tells why a text is refused, but not where in the document. The reason itself may end with
words that look like a place, ` at line 3 column 5`, and they are then taken for one and are lost
from the message (`Mismatch.withoutPlace_of_endsInPlace`); any other reason is told in full
(`Mismatch.withoutPlace_eq_self`). -/

namespace Playground.Json.Mismatch

/-- Decimal digits of a number of no more than 64 bits. -/
def IsCount (digits : List Char) : Prop :=
  digits ≠ [] ∧ (∀ c ∈ digits, c.isDigit = true) ∧
    Numeral.ofDigits (digits.map fun c => c.toNat - '0'.toNat) < 1 <<< 64

/-- The text has these words before a place in a document. -/
def EndsInPlace (text words : String) : Prop :=
  ∃ line column, IsCount line ∧ IsCount column ∧
    text.toList = words.toList ++ " at line ".toList ++ line ++ " column ".toList ++ column

variable {announcement text rest : List Char} {c : Char} {reason words : String}

theorem beforeNumber?_eq_some_iff (hc : c.isDigit = false) :
    beforeNumber? (c :: announcement) text = some rest ↔
      ∃ digits, IsCount digits ∧ text = digits.reverse ++ c :: announcement ++ rest := by
  constructor
  · intro h
    unfold beforeNumber? at h
    dsimp only at h
    split at h
    · cases h
    · next hcount =>
        simp only [List.isEmpty_iff, not_or, Nat.not_le] at hcount
        split at h
        · next hprefix =>
            obtain ⟨after, hafter⟩ := List.isPrefixOf_iff_prefix.1 hprefix
            obtain rfl := Option.some.inj h
            refine ⟨(text.takeWhile Char.isDigit).reverse, ⟨by simpa using hcount.1,
              fun d hd => List.mem_takeWhile_imp (List.mem_reverse.1 hd), hcount.2⟩, ?_⟩
            rw [List.reverse_reverse, List.append_assoc, ← hafter, List.drop_left', hafter,
              List.takeWhile_append_dropWhile]
            rfl
        · cases h
  · rintro ⟨digits, ⟨hne, hdigits, hcount⟩, rfl⟩
    have hdigits : ∀ d ∈ digits.reverse, d.isDigit = true := fun d hd =>
      hdigits d (List.mem_reverse.1 hd)
    have htake : (digits.reverse ++ c :: announcement ++ rest).takeWhile Char.isDigit =
        digits.reverse := by
      rw [List.append_assoc, List.takeWhile_append_of_pos hdigits, List.cons_append,
        List.takeWhile_cons_of_neg (by simp [hc]), List.append_nil]
    have hdrop : (digits.reverse ++ c :: announcement ++ rest).dropWhile Char.isDigit =
        c :: announcement ++ rest := by
      rw [List.append_assoc, List.dropWhile_append_of_pos hdigits, List.cons_append,
        List.dropWhile_cons_of_neg (by simp [hc])]
    unfold beforeNumber?
    rw [htake, hdrop]
    dsimp only
    rw [List.reverse_reverse, if_neg (by simpa [hne] using hcount),
      if_pos (List.isPrefixOf_iff_prefix.2 (List.prefix_append _ _)), List.drop_left]

/-- What comes before the place that a reason ends with. -/
def beforePlace? (reason : String) : Option (List Char) :=
  (beforeNumber? " column ".toList.reverse reason.toList.reverse).bind
    (beforeNumber? " at line ".toList.reverse)

theorem beforePlace?_eq_some_iff :
    beforePlace? reason = some rest ↔ EndsInPlace reason (String.ofList rest.reverse) := by
  have hcolumn : " column ".toList.reverse = ' ' :: "nmuloc ".toList := by decide
  have hline : " at line ".toList.reverse = ' ' :: "enil ta ".toList := by decide
  unfold beforePlace? EndsInPlace
  rw [Option.bind_eq_some_iff, hcolumn, hline]
  simp only [beforeNumber?_eq_some_iff (show ' '.isDigit = false by decide)]
  rw [← hcolumn, ← hline]
  constructor
  · rintro ⟨middle, ⟨column, hcol, htext⟩, line, hlin, rfl⟩
    refine ⟨line, column, hlin, hcol, ?_⟩
    rw [← List.reverse_reverse reason.toList, htext]
    simp
  · rintro ⟨line, column, hlin, hcol, htext⟩
    refine ⟨line.reverse ++ " at line ".toList.reverse ++ rest, ⟨column, hcol, ?_⟩, line, hlin, rfl⟩
    rw [htext]
    simp

theorem withoutPlace_eq (reason : String) :
    withoutPlace reason =
      match beforePlace? reason with
      | some text => String.ofList text.reverse
      | none => reason := rfl

/-- Words that look like a place are lost. -/
theorem withoutPlace_of_endsInPlace (h : EndsInPlace reason words) :
    withoutPlace reason = words := by
  have hsome : beforePlace? reason = some words.toList.reverse := by
    rw [beforePlace?_eq_some_iff, List.reverse_reverse, String.ofList_toList]
    exact h
  rw [withoutPlace_eq, hsome]
  dsimp only
  rw [List.reverse_reverse, String.ofList_toList]

theorem withoutPlace_eq_self (h : ∀ words, ¬EndsInPlace reason words) :
    withoutPlace reason = reason := by
  rw [withoutPlace_eq]
  cases hplace : beforePlace? reason with
  | none => rfl
  | some rest => exact absurd (beforePlace?_eq_some_iff.1 hplace) (h _)

end Playground.Json.Mismatch
