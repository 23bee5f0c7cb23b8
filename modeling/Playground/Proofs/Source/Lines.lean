import Playground.Proofs.Source.Separation
import Playground.Proofs.Source.Stable

set_option autoImplicit false

/-! # Line by line

If no region is cut in two by the end of a line, the reader comes to it as it would come to the end
of a text, and goes on behind it as it would begin a text: nothing that is looked ahead for reaches
beyond a newline, and after a newline only blanks have been seen on the line. So what is left of the
lines before and of the lines after can be found apart (`Reaches.stripped_append_newline`).

Three kinds of regions can take the end of a line with them, and no others (`Crosses`): block
comments, literals in three quotes, and plain literals that have a backslash there. -/

namespace Playground.Source

open Playground.Text

variable {q c : Char} {cs front rest a b : List Char} {r : Region} {before after : List Region}
  {lineStart : Bool}

/-! ## The lines of a text -/

/-- The parts of a text between its newlines. -/
def lines (text : List Char) : List (List Char) := text.splitOn '\n'

theorem lines_of_not_mem (h : '\n' ∉ front) : lines front = [front] :=
  List.splitOnP_eq_singleton fun y hy => by simpa using fun heq : y = '\n' => h (heq ▸ hy)

theorem lines_append (front rest : List Char) :
    lines (front ++ '\n' :: rest) = lines front ++ lines rest :=
  List.splitOn_append_cons_self front rest

theorem lines_cons_newline (rest : List Char) : lines ('\n' :: rest) = [] :: lines rest :=
  lines_append [] rest

theorem lines_cons (h : c ≠ '\n') (cs : List Char) :
    lines (c :: cs) = (lines cs).modifyHead (c :: ·) := by
  have hsplit := List.splitOnP_cons_eq_if_modifyHead (p := (· == '\n')) c cs
  rwa [if_neg (by simpa using h)] at hsplit

/-- What holds of texts of one line, and of more lines if it holds of all but the first, holds of
    each text. -/
@[elab_as_elim]
theorem lines_induction {motive : List Char → Prop}
    (line : ∀ line, '\n' ∉ line → motive line)
    (more : ∀ line rest, '\n' ∉ line → motive rest → motive (line ++ '\n' :: rest))
    (text : List Char) : motive text := by
  induction hlen : text.length using Nat.strongRecOn generalizing text with
  | _ len ih =>
      by_cases hnewline : '\n' ∈ text
      · obtain ⟨front, rest, rfl, hfront⟩ := List.eq_append_cons_of_mem hnewline
        refine more front rest hfront (ih rest.length ?_ rest rfl)
        rw [← hlen, List.length_append, List.length_cons]
        omega
      · exact line text hnewline

theorem newline_not_mem_of_mem_lines {text line : List Char} (h : line ∈ lines text) :
    '\n' ∉ line := by
  induction text using lines_induction with
  | line text htext =>
      rw [lines_of_not_mem htext, List.mem_singleton] at h
      rwa [h]
  | more front rest hfront ih =>
      rw [lines_append, lines_of_not_mem hfront, List.singleton_append, List.mem_cons] at h
      rcases h with rfl | h
      · exact hfront
      · exact ih h

theorem mem_of_mem_lines {text line : List Char} (h : line ∈ lines text) (hc : c ∈ line) :
    c ∈ text := by
  induction text using lines_induction with
  | line text htext =>
      rw [lines_of_not_mem htext, List.mem_singleton] at h
      rwa [← h]
  | more front rest hfront ih =>
      rw [lines_append, lines_of_not_mem hfront, List.singleton_append, List.mem_cons] at h
      rcases h with rfl | h
      · exact List.mem_append_left _ hc
      · exact List.mem_append_right _ (List.mem_cons_of_mem _ (ih h))

theorem beginsBlank_newline (rest : List Char) : BeginsBlank ('\n' :: rest) :=
  .cons (by decide) rest

theorem tokens_append_newline (front rest : List Char) :
    tokens (front ++ '\n' :: rest) = tokens front ++ tokens rest := by
  rw [tokens_append (beginsBlank_newline rest), tokens_cons_of_blank (by decide)]

theorem tokens_eq_flatMap_lines (text : List Char) : tokens text = (lines text).flatMap tokens := by
  induction text using lines_induction with
  | line line h => rw [lines_of_not_mem h, List.flatMap_singleton]
  | more line rest h ih =>
      rw [tokens_append_newline, lines_append, lines_of_not_mem h, List.singleton_append,
        List.flatMap_cons, ih]

/-! ## Regions that take the end of a line with them -/

/-- The region goes on behind the end of a line, on which it has `front`. -/
inductive Crosses : Region → List Char → Prop where
  | blockComment {front rest : List Char} (h : ['/', '*'] <+: front) :
      Crosses (.blockComment (front ++ '\n' :: rest)) front
  | tripleQuoted {q : Char} {front rest : List Char} (h : [q, q, q] <+: front) :
      Crosses (.literal (front ++ '\n' :: rest)) front
  | continued {front rest : List Char} :
      Crosses (.literal (front ++ ['\\'] ++ '\n' :: rest)) (front ++ ['\\'])

/-- The newline between `a` and `b` belongs to a region that has begun before it. -/
def IsCrossed (a b : List Char) : Prop :=
  ∃ before r after front, regions (a ++ '\n' :: b) = before ++ r :: after ∧
    before.flatMap Region.text ++ front = a ∧ Crosses r front

theorem Crosses.ne_nil (h : Crosses r front) : front ≠ [] := by
  cases h with
  | blockComment h => exact List.ne_nil_of_mem (h.subset List.mem_cons_self)
  | tripleQuoted h => exact List.ne_nil_of_mem (h.subset List.mem_cons_self)
  | continued => simp

theorem Crosses.exists_text_eq (h : Crosses r front) : ∃ rest, r.text = front ++ '\n' :: rest := by
  cases h with
  | blockComment _ => exact ⟨_, rfl⟩
  | tripleQuoted _ => exact ⟨_, rfl⟩
  | continued => exact ⟨_, rfl⟩

/-- In a plain literal there is a backslash before each newline. -/
theorem exists_of_splitPlain_eq (h : (splitPlain q cs).1 = front ++ '\n' :: rest) :
    ∃ body, front = body ++ ['\\'] := by
  induction cs using unit_induction generalizing front with
  | nil => simp [splitPlain] at h
  | backslash => cases front <;> simp [splitPlain] at h
  | escape d cs ih =>
      rw [splitPlain_escape] at h
      cases front with
      | nil => simp at h
      | cons x front =>
          obtain ⟨rfl, htail⟩ := List.cons.inj h
          cases front with
          | nil => exact ⟨[], rfl⟩
          | cons y front =>
              obtain ⟨body, rfl⟩ := ih (List.cons.inj htail).2
              exact ⟨'\\' :: y :: body, rfl⟩
  | char c cs hc ih =>
      rw [splitPlain_cons hc] at h
      split at h
      · simp at h
      · next hn =>
          cases front with
          | nil =>
              -- Outside of a pair, a newline would have ended the literal.
              split at h
              · exact absurd (List.cons.inj h).1 hn
              · exact absurd (List.cons.inj h).1 hn
          | cons x front =>
              split at h
              · simp at h
              · obtain ⟨body, rfl⟩ := ih (List.cons.inj h).2
                exact ⟨x :: body, rfl⟩

theorem crosses_splitLiteral (hq : isBlank q = false)
    (h : q :: (splitLiteral q cs).1 = front ++ '\n' :: rest) :
    Crosses (.literal (q :: (splitLiteral q cs).1)) front := by
  rw [h]
  unfold splitLiteral at h
  split at h
  · have hopens : [q, q, q] <+: front ++ '\n' :: rest := h ▸ ⟨_, rfl⟩
    exact .tripleQuoted
      ((opensAlike_append (beginsBlank_newline rest) front _ (by simp [hq])).2 hopens)
  · cases front with
    | nil =>
        rw [(List.cons.inj h).1] at hq
        cases hq
    | cons x front =>
        obtain ⟨body, rfl⟩ := exists_of_splitPlain_eq (List.cons.inj h).2
        exact @Crosses.continued (x :: body) _

theorem newline_not_mem_splitLine (cs : List Char) : '\n' ∉ (splitLine cs).1 := by
  intro h
  have hne := List.all_eq_true.1 (List.all_takeWhile (p := (· != '\n')) (l := cs)) _ h
  simp at hne

theorem Region.crosses_first (h : (Region.first lineStart c cs).1.text = front ++ '\n' :: rest)
    (hne : front ≠ []) : Crosses (Region.first lineStart c cs).1 front := by
  -- A comment of one line has no newline in it.
  have hline : c ≠ '\n' → c :: (splitLine cs).1 ≠ front ++ '\n' :: rest := by
    intro hc heq
    have hmem : '\n' ∈ c :: (splitLine cs).1 := by simp [heq]
    rcases List.mem_cons.1 hmem with hmem | hmem
    · exact hc hmem.symm
    · exact newline_not_mem_splitLine cs hmem
  unfold Region.first at h ⊢
  by_cases hquote : c = '"' ∨ c = '\''
  · rw [if_pos hquote] at h ⊢
    exact crosses_splitLiteral (by rcases hquote with rfl | rfl <;> decide) h
  rw [if_neg hquote] at h ⊢
  by_cases hslashes : c = '/' ∧ cs.head? = some '/'
  · rw [if_pos hslashes] at h
    exact absurd h (hline (by simp [hslashes.1]))
  rw [if_neg hslashes] at h ⊢
  by_cases hblock : c = '/' ∧ cs.head? = some '*'
  · rw [if_pos hblock] at h ⊢
    have htext : c :: '*' :: (splitBlock (cs.drop 1)).1 = front ++ '\n' :: rest := h
    show Crosses (.blockComment (c :: '*' :: (splitBlock (cs.drop 1)).1)) front
    rw [htext]
    have hopens : ['/', '*'] <+: front ++ '\n' :: rest := htext ▸ hblock.1 ▸ ⟨_, rfl⟩
    exact .blockComment
      ((opensAlike_append (beginsBlank_newline rest) front _ (by simp [isBlank])).2 hopens)
  rw [if_neg hblock] at h ⊢
  by_cases hhash : c = '#' ∧ ¬(lineStart ∧ opensDirective cs)
  · rw [if_pos hhash] at h
    exact absurd h (hline (by simp [hhash.1]))
  rw [if_neg hhash] at h ⊢
  cases front with
  | nil => exact absurd rfl hne
  | cons x front => simp [Region.text] at h

theorem crosses_of_mem (hr : r ∈ regionsFrom lineStart cs) (h : r.text = front ++ '\n' :: rest)
    (hne : front ≠ []) : Crosses r front := by
  fun_induction regionsFrom lineStart cs with
  | case1 => cases hr
  | case2 lineStart c cs first ih =>
      rcases List.mem_cons.1 hr with rfl | hr
      · exact Region.crosses_first h hne
      · exact ih hr

/-- A place in a text is between two regions or within one. -/
theorem exists_cut {rs : List Region} (h : rs.flatMap Region.text = front ++ rest) :
    (∃ before after, rs = before ++ after ∧ before.flatMap Region.text = front) ∨
      ∃ before r after left right, rs = before ++ r :: after ∧
        before.flatMap Region.text ++ left = front ∧ r.text = left ++ right ∧ left ≠ [] ∧
        right ≠ [] ∧ right ++ after.flatMap Region.text = rest := by
  induction rs generalizing front with
  | nil => exact .inl ⟨[], [], rfl, (List.append_eq_nil_iff.1 h.symm).1.symm⟩
  | cons r rs ih =>
      by_cases hfront : front = []
      · exact .inl ⟨[], r :: rs, rfl, hfront.symm⟩
      rw [List.flatMap_cons] at h
      rcases List.append_eq_append_iff.1 h with ⟨left, rfl, hrs⟩ | ⟨right, htext, rfl⟩
      · obtain ⟨before, after, rfl, rfl⟩ | ⟨before, s, after, left, right, rfl, rfl, hs⟩ := ih hrs
        · exact .inl ⟨r :: before, after, rfl, rfl⟩
        · exact .inr ⟨r :: before, s, after, left, right, rfl, by simp, hs⟩
      · by_cases hright : right = []
        · exact .inl ⟨[r], rs, rfl, by simp [htext, hright]⟩
        · exact .inr ⟨[], r, rs, front, right, rfl, rfl, htext, hfront, hright, rfl⟩

theorem isCrossed_of_not_reaches (h : ¬ Reaches (a ++ '\n' :: b) a) : IsCrossed a b := by
  obtain hbetween | ⟨before, r, after, left, right, hregions, hleft, htext, hne, hright, hb⟩ :=
    exists_cut (flatMap_text_regionsFrom true (a ++ '\n' :: b))
  · exact absurd hbetween h
  · obtain ⟨x, right, rfl⟩ := List.exists_cons_of_ne_nil hright
    obtain rfl : x = '\n' := (List.cons.inj hb).1
    have hr : r ∈ regionsFrom true (a ++ '\n' :: b) := by simp [hregions]
    exact ⟨before, r, after, left, hregions, hleft, crosses_of_mem hr htext hne⟩

theorem IsCrossed.not_reaches (h : IsCrossed a b) : ¬ Reaches (a ++ '\n' :: b) a := by
  obtain ⟨before, r, after, front, hregions, hfront, hcrosses⟩ := h
  obtain ⟨rest, htext⟩ := hcrosses.exists_text_eq
  have hpos := List.length_pos_iff.2 hcrosses.ne_nil
  rintro ⟨before', after', hregions', hbefore'⟩
  -- Either the region is one of those that are read up to the newline, or it is read after it.
  rcases List.append_eq_append_iff.1 (hregions'.symm.trans hregions) with
    ⟨between, rfl, -⟩ | ⟨between, rfl, hbetween⟩
  · have hlen := congrArg List.length hfront
    rw [List.flatMap_append, hbefore'] at hlen
    simp only [List.length_append] at hlen
    omega
  · have hlen := congrArg List.length hfront
    rw [← hbefore', List.flatMap_append] at hlen
    cases between with
    | nil =>
        simp only [List.flatMap_nil, List.append_nil, List.length_append] at hlen
        omega
    | cons s between =>
        obtain ⟨rfl, -⟩ := List.cons.inj hbetween
        simp only [List.flatMap_cons, List.length_append, htext, List.length_cons] at hlen
        omega

/-! ## Lines apart -/

theorem replaceable_newline (rest : List Char) : Replaceable '\n' ('\n' :: rest) :=
  .of_head (by decide) (by decide)

theorem Reaches.stripped_append_newline (h : Reaches (a ++ '\n' :: b) a) :
    stripped (a ++ '\n' :: b) = stripped a ++ '\n' :: stripped b := by
  have hplain : IsPlain '\n' := isPlain_of_isBlank (by decide)
  rw [h.stripped_append (replaceable_newline b), hplain.renderedFrom_cons]
  rfl

/-- If the reader comes to a newline outside of all literals and comments, what is left of the text
    is what is left of the lines before the newline and of those after it, and so are the tokens.
    It does so unless the newline is part of a block comment, of a literal in three quotes or of a
    plain literal with a backslash there. -/
theorem stripping_goes_line_by_line (a b : List Char) :
    (Reaches (a ++ '\n' :: b) a →
      stripped (a ++ '\n' :: b) = stripped a ++ '\n' :: stripped b ∧
      tokens (stripped (a ++ '\n' :: b)) = tokens (stripped a) ++ tokens (stripped b)) ∧
    (Reaches (a ++ '\n' :: b) a ↔ ¬ IsCrossed a b) := by
  refine ⟨?_, fun h hcrossed => hcrossed.not_reaches h, ?_⟩
  · intro h
    rw [h.stripped_append_newline]
    exact ⟨rfl, tokens_append_newline _ _⟩
  · intro h
    by_contra hreaches
    exact h (isCrossed_of_not_reaches hreaches)

/-- A literal that is not closed ends with its line, and a `#` after it opens a directive. -/
theorem stripping_goes_line_by_line_unclosed :
    stripped (['x', '"', '/', '*'] ++ '\n' :: ['#', 'i', 'f']) =
        stripped ['x', '"', '/', '*'] ++ '\n' :: stripped ['#', 'i', 'f'] ∧
      stripped ['#', 'i', 'f'] = ['#', 'i', 'f'] := by
  have hreaches : Reaches (['x', '"', '/', '*'] ++ '\n' :: ['#', 'i', 'f']) ['x', '"', '/', '*'] :=
    ⟨[.code 'x', .literal ['"', '/', '*']], [.code '\n', .code '#', .code 'i', .code 'f'],
      by decide +kernel, rfl⟩
  exact ⟨((stripping_goes_line_by_line _ _).1 hreaches).1, by decide +kernel⟩

end Playground.Source
