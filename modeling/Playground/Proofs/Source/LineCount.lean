import Playground.Proofs.Source.Lines

set_option autoImplicit false

/-! # Newlines that are kept

The shapes that look at lines can see the lines of the source only if its newlines are handed on. A
character of code is handed on as it is, a line comment stops before its newline, and a block
comment leaves as many newlines as it has. A literal leaves its placeholder, whatever was in it: the
newlines of literals are lost, and no others. Literals that are closed on their line, or that end
with it, have none; so they are lost only to literals in three quotes and to plain literals that go
on behind a backslash. -/

namespace Playground.Source

open Playground.Text

variable {c : Char} {cs front rest : List Char} {r : Region} {lineStart : Bool}

/-- How many newlines of the source nothing stands for once the region is rendered. -/
def Region.newlinesLost : Region → Nat
  | .literal t => t.count '\n'
  | _ => 0

/-- How many newlines have been lost once all these regions are rendered. -/
def newlinesLost : List Region → Nat
  | [] => 0
  | r :: rs => r.newlinesLost + newlinesLost rs

theorem newlinesLost_eq_zero_iff {rs : List Region} :
    newlinesLost rs = 0 ↔ ∀ t, .literal t ∈ rs → '\n' ∉ t := by
  induction rs with
  | nil => simp [newlinesLost]
  | cons r rs ih =>
      rw [newlinesLost, Nat.add_eq_zero_iff, ih]
      cases r with
      | literal t => simp [Region.newlinesLost, List.count_eq_zero, or_imp, forall_and]
      | _ => simp [Region.newlinesLost]

/-! ## One region -/

theorem Region.count_rendered_blockComment (t : List Char) :
    (Region.blockComment t).rendered.count '\n' = t.count '\n' := by
  show (if t.contains '\n' then List.replicate (t.count '\n') '\n' else [' ']).count '\n' = _
  split
  · exact List.count_replicate_self
  · next h => exact (List.count_eq_zero.2 (by simpa using h)).symm

/-- The newlines of what is left of a region and those that are lost are the newlines it covers. -/
theorem Region.count_first (lineStart : Bool) (c : Char) (cs : List Char) :
    (Region.first lineStart c cs).1.rendered.count '\n' +
        (Region.first lineStart c cs).1.newlinesLost =
      (Region.first lineStart c cs).1.text.count '\n' := by
  -- A comment of one line has no newline, for none stands where it begins.
  have hline : c ≠ '\n' → (c :: (splitLine cs).1).count '\n' = 0 := fun hc =>
    List.count_eq_zero.2 (List.not_mem_cons_of_ne_of_not_mem hc.symm (newline_not_mem_splitLine cs))
  unfold Region.first
  split
  · exact Nat.zero_add _
  · split
    · next hc => exact (hline (by simp [hc.1])).symm
    · split
      · exact count_rendered_blockComment _
      · split
        · next hc => exact (hline (by simp [hc.1])).symm
        · rfl

/-! ## A whole text -/

theorem count_rendered_of_mem (h : r ∈ regionsFrom lineStart cs) :
    r.rendered.count '\n' + r.newlinesLost = r.text.count '\n' := by
  fun_induction regionsFrom lineStart cs with
  | case1 => cases h
  | case2 lineStart c cs first ih =>
      rcases List.mem_cons.1 h with rfl | h
      · exact Region.count_first lineStart c cs
      · exact ih h

theorem count_rendered_add_lost {rs : List Region} (h : ∀ r ∈ rs, r ∈ regionsFrom lineStart cs) :
    (rs.flatMap Region.rendered).count '\n' + newlinesLost rs =
      (rs.flatMap Region.text).count '\n' := by
  induction rs with
  | nil => rfl
  | cons r rs ih =>
      have hr := count_rendered_of_mem (h r List.mem_cons_self)
      have hrs := ih fun s hs => h s (List.mem_cons_of_mem r hs)
      simp only [List.flatMap_cons, List.count_append, newlinesLost]
      omega

theorem Crosses.literal_cases {t : List Char} (h : Crosses (.literal t) front) :
    (∃ q, [q, q, q] <+: front) ∨ ∃ body, front = body ++ ['\\'] := by
  cases h with
  | tripleQuoted h => exact .inl ⟨_, h⟩
  | continued => exact .inr ⟨_, rfl⟩

/-- A literal begins with its quote. -/
theorem head?_literal {t : List Char} (h : .literal t ∈ regionsFrom lineStart cs) :
    t.head? = some '"' ∨ t.head? = some '\'' := by
  fun_induction regionsFrom lineStart cs with
  | case1 => cases h
  | case2 lineStart c cs first ih =>
      rcases List.mem_cons.1 h with h | h
      · have hfirst : .literal t = (Region.first lineStart c cs).1 := h
        unfold Region.first at hfirst
        by_cases hquote : c = '"' ∨ c = '\''
        · rw [if_pos hquote] at hfirst
          rw [Region.literal.inj hfirst]
          exact hquote.imp (congrArg some) (congrArg some)
        · rw [if_neg hquote] at hfirst
          split at hfirst
          · cases hfirst
          · split at hfirst
            · cases hfirst
            · split at hfirst <;> cases hfirst
      · exact ih h

/-- Up to each place that the reader comes to between two regions, the newlines of what is left and
    the newlines of the literals are the newlines of the source. So the stripped text has as many
    lines as the source exactly if no literal has a newline in it; and one that does has three
    quotes around it or a backslash before the newline. -/
theorem newlines_of_literals_are_lost (source : List Char) :
    (∀ before after, regions source = before ++ after →
      (before.flatMap Region.rendered).count '\n' + newlinesLost before =
        (before.flatMap Region.text).count '\n') ∧
    (stripped source).count '\n' + newlinesLost (regions source) = source.count '\n' ∧
    ((stripped source).count '\n' = source.count '\n' ↔
      ∀ t, .literal t ∈ regions source → '\n' ∉ t) ∧
    ∀ front rest, .literal (front ++ '\n' :: rest) ∈ regions source →
      (∃ q, [q, q, q] <+: front) ∨ ∃ body, front = body ++ ['\\'] := by
  have hwhole : (stripped source).count '\n' + newlinesLost (regions source) =
      ((regions source).flatMap Region.text).count '\n' :=
    count_rendered_add_lost fun r hr => hr
  rw [regions, flatMap_text_regionsFrom, ← regions] at hwhole
  refine ⟨fun before after h => ?_, hwhole, ?_, fun front rest h => ?_⟩
  · have hmem : ∀ r ∈ before, r ∈ regionsFrom true source := fun r hr => by
      rw [← regions, h]
      exact List.mem_append_left after hr
    exact count_rendered_add_lost hmem
  · rw [← newlinesLost_eq_zero_iff, ← hwhole]
    exact Nat.left_eq_add
  · refine (crosses_of_mem h rfl ?_).literal_cases
    rintro rfl
    simpa using head?_literal h

/-- A literal in three quotes leaves one line of two. -/
theorem newline_lost_in_quotes :
    stripped ['"', '"', '"', '\n', '"', '"', '"'] = placeholder ∧ placeholder.count '\n' = 0 ∧
      ['"', '"', '"', '\n', '"', '"', '"'].count '\n' = 1 := by
  decide +kernel

end Playground.Source
