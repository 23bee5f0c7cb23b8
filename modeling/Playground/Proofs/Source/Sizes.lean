import Playground.Proofs.Source.Prefix
import Playground.Proofs.Source.Tally

set_option autoImplicit false

/-! # How large a score can be

No region leaves more than four characters for each that it covers: the worst is a single quote that
is never closed, for which the whole placeholder stands. Each token and each occurrence of an idiom
covers at least one of the characters that are left. So all that is counted is bounded by the length
of the source (`length_stripped_le`, `Scores.get_ofSource_le`). -/

namespace Playground

open Source

variable {r : Region} {rs : List Region}

namespace Source

/-! ## What is left of a source -/

theorem Region.length_rendered_le (h : r.text ≠ []) : r.rendered.length ≤ 4 * r.text.length := by
  have hpos := List.length_pos_iff.2 h
  cases r with
  | code c => exact Nat.le_mul_of_pos_left 1 (by decide)
  | literal t => exact Nat.le_mul_of_pos_right 4 hpos
  | lineComment t => exact Nat.zero_le _
  | blockComment t =>
      show (if t.contains '\n' then List.replicate (t.count '\n') '\n' else [' ']).length ≤
        4 * t.length
      split
      · have hcount : t.count '\n' ≤ t.length := List.count_le_length
        rw [List.length_replicate]
        omega
      · have hpos : 0 < t.length := hpos
        rw [List.length_singleton]
        omega

theorem length_flatMap_rendered_le (h : ∀ r ∈ rs, r.text ≠ []) :
    (rs.flatMap Region.rendered).length ≤ 4 * (rs.flatMap Region.text).length := by
  induction rs with
  | nil => exact Nat.zero_le _
  | cons r rs ih =>
      rw [List.forall_mem_cons] at h
      have hhead := Region.length_rendered_le h.1
      have htail := ih h.2
      rw [List.flatMap_cons, List.flatMap_cons, List.length_append, List.length_append]
      omega

theorem length_stripped_le (source : List Char) :
    (stripped source).length ≤ 4 * source.length := by
  have h : (stripped source).length ≤ 4 * ((regions source).flatMap Region.text).length :=
    length_flatMap_rendered_le fun r hr => Region.text_ne_nil hr
  rwa [regions, flatMap_text_regionsFrom] at h

/-! ## What is counted in it -/

theorem length_tokens_le (text : List Char) : (tokens text).length ≤ text.length := by
  fun_induction tokens text with
  | case1 => exact Nat.le_refl _
  | case2 c cs _ ih => exact Nat.le_succ_of_le ih
  | case3 c cs _ r ih => exact Nat.succ_le_succ (Nat.le_trans ih (Token.first_length c cs))

theorem Idiom.countFrom_le (i : Idiom) (before : Option Char) (passed : Nat) (text : List Char) :
    i.countFrom before passed text ≤ text.length := by
  induction text generalizing before passed with
  | nil => exact Nat.le_refl _
  | cons c cs ih =>
      cases passed with
      | succ passed => exact Nat.le_succ_of_le (ih _ _)
      | zero =>
          rw [countFrom]
          split
          · next n _ =>
              have hrest := ih (some c) (n - 1)
              rw [List.length_cons]
              omega
          · exact Nat.le_succ_of_le (ih _ _)

/-- Occurrences of an idiom do not overlap. -/
theorem Idiom.count_le (i : Idiom) (text : List Char) : i.count text ≤ text.length :=
  i.countFrom_le none 0 text

theorem Vocabulary.countIdioms_le (v : Vocabulary) (text : List Char) :
    v.countIdioms text ≤ v.idioms.length * text.length := by
  have hsum : ∀ (is : List Idiom) (n : Nat),
      is.foldl (fun n i => n + i.count text) n ≤ n + is.length * text.length := by
    intro is
    induction is with
    | nil => intro n; simp
    | cons i is ih =>
        intro n
        have hi := i.count_le text
        have hrest := ih (n + i.count text)
        rw [List.foldl_cons, List.length_cons, Nat.succ_mul]
        omega
  have h := hsum v.idioms 0
  rwa [Nat.zero_add] at h

end Source

theorem Language.length_idioms_le (l : Language) : l.vocabulary.idioms.length ≤ 4 := by
  cases l <;> decide

theorem Language.countIdioms_le (l : Language) (text : List Char) :
    l.vocabulary.countIdioms text ≤ 4 * text.length :=
  Nat.le_trans (l.vocabulary.countIdioms_le text) (Nat.mul_le_mul_right _ l.length_idioms_le)

theorem Language.points_le (l : Language) (text : List Char) :
    l.points text ≤ 5 * text.length := by
  have htokens : ((tokens text).countP fun t => l.credits t.text) ≤ text.length :=
    Nat.le_trans List.countP_le_length (length_tokens_le text)
  have hidioms := l.countIdioms_le text
  rw [points, occurrences_eq_countIdioms]
  omega

theorem Source.Scores.get_ofSource_le (source : List Char) (l : Language) :
    (ofSource source).get l ≤ 20 * source.length := by
  have hpoints := l.points_le (stripped source)
  have hlength := length_stripped_le source
  rw [ofSource, get_ofStripped]
  omega

end Playground
