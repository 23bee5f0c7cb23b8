import Playground.Proofs.Source.LineForm

set_option autoImplicit false

/-! # Counting whole lines

The idioms of the language whose blocks are opened by a colon are both whole lines. So they can be
counted on each line for itself: on two texts apart it comes to the same as on the two with a
newline between them (`Idiom.count_append_newline`), and a line counts once for each of the two
forms that it has (`Idiom.count_bareAssignment_line`, `Idiom.count_blockHeader_line`). No occurrence
begins or ends within a line, and none goes beyond its end (`Idiom.exists_line_of_mem_spans`). -/

namespace Playground.Source

open Playground.Text

variable {line text : List Char} {i : Idiom} {p n : Nat}

/-! ## The two forms can be decided -/

theorem newline_not_mem_of_spaces {blanks : List Char} (h : ∀ c ∈ blanks, isSpaceOrTab c = true) :
    '\n' ∉ blanks := fun hmem => absurd (h _ hmem) (by decide)

theorem IsIdentifier.newline_not_mem {name : List Char} (h : IsIdentifier name) : '\n' ∉ name := by
  cases name with
  | nil => exact h.elim
  | cons c name =>
      intro hmem
      rcases List.mem_cons.1 hmem with rfl | hmem
      · exact absurd h.1 (by decide)
      · exact absurd (h.2 _ hmem) (by decide)

theorem IsAssignment.newline_not_mem (h : IsAssignment line) : '\n' ∉ line := by
  obtain ⟨indent, name, gap, value, rfl, hindent, hname, hgap, hvalue⟩ := h
  have hvalue' : '\n' ∉ value := fun hmem => hvalue _ hmem (by simp)
  simp [newline_not_mem_of_spaces hindent, newline_not_mem_of_spaces hgap, hname.newline_not_mem,
    hvalue']

theorem IsHeader.newline_not_mem (h : IsHeader line) : '\n' ∉ line := by
  obtain ⟨indent, keyword, rest, tail, rfl, hindent, hkeyword, -, hrest, htail⟩ := h
  have hword : ∀ k ∈ Vocabulary.headerKeywords, '\n' ∉ k.toList := by decide
  have hrest' : '\n' ∉ rest := fun hmem => hrest _ hmem (by simp)
  simp [newline_not_mem_of_spaces hindent, newline_not_mem_of_spaces htail, hword _ hkeyword,
    hrest']

instance : DecidablePred IsAssignment := fun line =>
  decidable_of_iff ('\n' ∉ line ∧ Vocabulary.bareAssignment.isLine line = true)
    ⟨fun h => (isLine_bareAssignment h.1).1 h.2,
      fun h => ⟨h.newline_not_mem, (isLine_bareAssignment h.newline_not_mem).2 h⟩⟩

instance : DecidablePred IsHeader := fun line =>
  decidable_of_iff ('\n' ∉ line ∧ Vocabulary.blockHeader.isLine line = true)
    ⟨fun h => (isLine_blockHeader h.1).1 h.2,
      fun h => ⟨h.newline_not_mem, (isLine_blockHeader h.newline_not_mem).2 h⟩⟩

/-! ## Counts -/

theorem isWholeLine_of_mem_python :
    ∀ i ∈ Vocabulary.python.idioms, Idiom.isWholeLine i = true := by
  decide

theorem Idiom.count_append_newline (hi : i.isWholeLine = true) (hcovers : i.coversSome = true)
    (a b : List Char) : i.count (a ++ '\n' :: b) = i.count a + i.count b := by
  simp only [Idiom.count_eq_countP hi hcovers, lines_append, List.countP_append]

theorem Idiom.count_line (hi : i.isWholeLine = true) (hcovers : i.coversSome = true)
    (hline : '\n' ∉ line) : i.count line = if i.isLine line then 1 else 0 := by
  rw [Idiom.count_eq_countP hi hcovers, lines_of_not_mem hline, List.countP_singleton]

theorem Idiom.count_bareAssignment_line (hline : '\n' ∉ line) :
    Vocabulary.bareAssignment.count line = if IsAssignment line then 1 else 0 := by
  simp only [Idiom.count_line (i := Vocabulary.bareAssignment) (by decide) (by decide) hline,
    isLine_bareAssignment hline]

theorem Idiom.count_blockHeader_line (hline : '\n' ∉ line) :
    Vocabulary.blockHeader.count line = if IsHeader line then 1 else 0 := by
  simp only [Idiom.count_line (i := Vocabulary.blockHeader) (by decide) (by decide) hline,
    isLine_blockHeader hline]

/-! ## Places of occurrences -/

/-- The line stands in the text from the place `p` on, and it is a whole one. -/
def IsLineAt (text : List Char) (p : Nat) (line : List Char) : Prop :=
  ∃ front rest, text = front ++ line ++ rest ∧ front.length = p ∧
    front.getLast?.all (· == '\n') = true ∧ '\n' ∉ line ∧ AtLineEnd rest

theorem IsLineAt.newline_not_mem (h : IsLineAt text p line) : '\n' ∉ line := by
  obtain ⟨_, _, _, _, _, hline, _⟩ := h
  exact hline

theorem Idiom.Leftmost.matchesAt {start : Nat} {spans : List (Nat × Nat)}
    (h : i.Leftmost text start spans) : ∀ s ∈ spans, i.MatchesAt text s.1 s.2 := by
  induction h with
  | none_left _ => simp
  | next _ _ found _ ih => exact List.forall_mem_cons.2 ⟨found, ih⟩

theorem Idiom.MatchesAt.exists_line (hi : i.isWholeLine = true) (h : i.MatchesAt text p n) :
    ∃ line, IsLineAt text p line ∧ line.length = n ∧ i.isLine line = true := by
  obtain ⟨hp, hm⟩ := h
  rw [← Idiom.matchLength?_eq_some_iff] at hm
  have hbefore : (text.take p).getLast?.all (· == '\n') = true := by
    cases hlast : (text.take p).getLast? with
    | none => rfl
    | some c =>
        by_contra hc
        rw [hlast, Idiom.matchLength?_inside hi (by simpa using hc)] at hm
        cases hm
  -- What is matched from here on is the line up to the next newline.
  have hline := newline_not_mem_splitLine (text.drop p)
  have hrest := atLineEnd_splitLine (text.drop p)
  have hcut := splitLine_append (text.drop p)
  rw [← hcut, Idiom.matchLength?_line hi hbefore hline hrest] at hm
  split at hm
  · next his =>
      refine ⟨_, ⟨text.take p, _, ?_, List.length_take_of_le hp, hbefore, hline, hrest⟩,
        Option.some.inj hm, his⟩
      rw [List.append_assoc, hcut, List.take_append_drop]
  · cases hm

theorem Idiom.exists_line_of_mem_spans (hi : i.isWholeLine = true) (hcovers : i.coversSome = true)
    {s : Nat × Nat} (h : s ∈ i.spans text) :
    ∃ line, IsLineAt text s.1 line ∧ line.length = s.2 ∧ i.isLine line = true :=
  (((Idiom.leftmost_iff hcovers).2 rfl).matchesAt s h).exists_line hi

/-! ## Line by line -/

/-- The idioms of the language whose blocks are opened by a colon occur in two texts with a newline
    between them as often as in the two apart, and on a line once for each of the two forms that it
    has: each occurrence covers a whole line that is an assignment or a header. -/
theorem whole_lines_are_counted :
    (∀ a b, Vocabulary.python.countIdioms (a ++ '\n' :: b) =
      Vocabulary.python.countIdioms a + Vocabulary.python.countIdioms b) ∧
    (∀ line, '\n' ∉ line → Vocabulary.python.countIdioms line =
      (if IsAssignment line then 1 else 0) + if IsHeader line then 1 else 0) ∧
    ∀ text, ∀ i ∈ Vocabulary.python.idioms, ∀ s ∈ Idiom.spans i text,
      ∃ line, IsLineAt text s.1 line ∧ line.length = s.2 ∧ (IsAssignment line ∨ IsHeader line) := by
  refine ⟨fun a b => ?_, fun line hline => ?_, fun text i hi s hs => ?_⟩
  · have hassignments := Idiom.count_append_newline (i := Vocabulary.bareAssignment)
      (by decide) (by decide) a b
    have hheaders := Idiom.count_append_newline (i := Vocabulary.blockHeader)
      (by decide) (by decide) a b
    rw [countIdioms_python, countIdioms_python, countIdioms_python, hassignments, hheaders]
    omega
  · rw [countIdioms_python, Idiom.count_bareAssignment_line hline,
      Idiom.count_blockHeader_line hline]
  · have hcovers := Language.python.coversSome_of_mem_idioms i hi
    obtain ⟨line, hat, hlength, his⟩ :=
      Idiom.exists_line_of_mem_spans (isWholeLine_of_mem_python i hi) hcovers hs
    have hline : '\n' ∉ line := hat.newline_not_mem
    refine ⟨line, hat, hlength, ?_⟩
    rcases List.mem_pair.1 hi with rfl | rfl
    · exact .inl ((isLine_bareAssignment hline).1 his)
    · exact .inr ((isLine_blockHeader hline).1 his)

/-- A line can be both: the name that is assigned to is a word that opens a block. -/
theorem whole_lines_are_counted_twice :
    '\n' ∉ ['i', 'f', ' ', '=', ' ', ':'] ∧
      Vocabulary.python.countIdioms ['i', 'f', ' ', '=', ' ', ':'] = 2 := by
  have hline : '\n' ∉ ['i', 'f', ' ', '=', ' ', ':'] := by decide
  have hassignment : IsAssignment ['i', 'f', ' ', '=', ' ', ':'] :=
    ⟨[], ['i', 'f'], [' '], [' ', ':'], rfl, by simp, by decide, by simp [isSpaceOrTab], by simp⟩
  have hspace : isWord ' ' = false := by decide
  have hheader : IsHeader ['i', 'f', ' ', '=', ' ', ':'] :=
    ⟨[], "if", [' ', '=', ' '], [], rfl, by simp, by decide, by simpa using hspace, by simp,
      by simp⟩
  refine ⟨hline, ?_⟩
  rw [whole_lines_are_counted.2.1 _ hline, if_pos hassignment, if_pos hheader]

end Playground.Source
