import Playground.Proofs.Source.Comments
import Playground.Proofs.Source.Spacing

set_option autoImplicit false

/-! # Stripping a stripped text

A stripped text has no comments, and of its literals the placeholders alone. What is taken out
never leaves something behind that would be taken for a literal, a comment or a directive: a `/`
of the code keeps its distance from the next one, since where a region is taken out a blank or the
end of the line is left (`head?_renderedFrom`), and a `#` that opened a directive is followed by the
same word and comes first on its line as before, since the reader is in the same state on both
texts (`renderedFrom_renderedFrom`).

So stripping once more reads each placeholder as a literal again and puts one more space on each
side of it. As doubled spaces do not count, the scores are the same. -/

namespace Playground.Source

open Playground.Text

/-- One more space on each side of every two quotes. -/
def widen : List Char → List Char
  | '"' :: '"' :: cs => ' ' :: '"' :: '"' :: ' ' :: widen cs
  | c :: cs => c :: widen cs
  | [] => []

/-- What is left of a region that is stripped twice. -/
def Region.renderedTwice : Region → List Char
  | .literal _ => [' '] ++ placeholder ++ [' ']
  | r => r.rendered

variable {c : Char} {cs : List Char} {lineStart : Bool}

/-! ## What a text opens with -/

theorem Region.first_cases (lineStart : Bool) (c : Char) (cs : List Char) :
    (∃ t rest, Region.first lineStart c cs = (.literal t, rest)) ∨
      (∃ t, Region.first lineStart c cs = (.lineComment t, (splitLine cs).2)) ∨
      (∃ t rest, Region.first lineStart c cs = (.blockComment t, rest)) ∨
      Region.first lineStart c cs = (.code c, cs) := by
  unfold Region.first
  split
  · exact .inl ⟨_, _, rfl⟩
  · split
    · exact .inr (.inl ⟨_, rfl⟩)
    · split
      · exact .inr (.inr (.inl ⟨_, _, rfl⟩))
      · split
        · exact .inr (.inl ⟨_, rfl⟩)
        · exact .inr (.inr (.inr rfl))

theorem Region.first_eq_code_iff : Region.first lineStart c cs = (.code c, cs) ↔
    ¬(c = '"' ∨ c = '\'') ∧ ¬(c = '/' ∧ cs.head? = some '/') ∧ ¬(c = '/' ∧ cs.head? = some '*') ∧
      ¬(c = '#' ∧ ¬(lineStart = true ∧ opensDirective cs = true)) := by
  unfold Region.first
  split
  · next hquote => simp [hquote]
  · next hquote =>
      split
      · next hline => simp [hline]
      · next hline =>
          split
          · next hblock => simp [hblock]
          · next hblock =>
              split
              · next hhash => simp [hhash]
              · next hhash => exact iff_of_true rfl ⟨hquote, hline, hblock, hhash⟩

/-! ## What is left of a text -/

theorem renderedFrom_cons (lineStart : Bool) (c : Char) (cs : List Char) :
    renderedFrom lineStart (c :: cs) =
      (Region.first lineStart c cs).1.rendered ++
        renderedFrom ((Region.first lineStart c cs).1.lineStart lineStart)
          (Region.first lineStart c cs).2 := by
  rw [renderedFrom, regionsFrom_cons, List.flatMap_cons]
  rfl

/-- Characters that open no literal and no comment. -/
def IsPlain (c : Char) : Prop := c ∉ ['"', '\'', '/', '#']

theorem IsPlain.first (h : IsPlain c) (lineStart : Bool) (cs : List Char) :
    Region.first lineStart c cs = (.code c, cs) := by
  simp only [IsPlain, List.mem_cons, List.not_mem_nil, or_false, not_or] at h
  obtain ⟨hdouble, hsingle, hslash, hhash⟩ := h
  simp [Region.first, hdouble, hsingle, hslash, hhash]

theorem IsPlain.renderedFrom_cons (h : IsPlain c) (lineStart : Bool) (cs : List Char) :
    renderedFrom lineStart (c :: cs) =
      c :: renderedFrom ((Region.code c).lineStart lineStart) cs := by
  rw [Source.renderedFrom_cons, h.first]
  rfl

theorem isPlain_of_isBlank (h : isBlank c = true) : IsPlain c := by
  have hnone : (['"', '\'', '/', '#'].all fun d => !isBlank d) = true := by decide
  intro hc
  have hc := List.all_eq_true.1 hnone c hc
  rw [h] at hc
  cases hc

theorem isPlain_of_isWord (h : isWord c = true) : IsPlain c := by
  have hnone : (['"', '\'', '/', '#'].all fun d => !isWord d) = true := by decide
  intro hc
  have hc := List.all_eq_true.1 hnone c hc
  rw [h] at hc
  cases hc

/-- Plain characters stay as they are, whatever comes after them. -/
theorem exists_renderedFrom_append {front : List Char} (h : ∀ c ∈ front, IsPlain c)
    (lineStart : Bool) (cs : List Char) :
    ∃ lineStart', renderedFrom lineStart (front ++ cs) = front ++ renderedFrom lineStart' cs := by
  obtain ⟨lineStart', hregions⟩ := exists_regionsFrom_append_code h lineStart cs
  refine ⟨lineStart', ?_⟩
  rw [renderedFrom, hregions, List.flatMap_append, List.flatMap_map]
  simp [Region.rendered, renderedFrom]

theorem atLineEnd_splitLine (cs : List Char) : AtLineEnd (splitLine cs).2 := by
  intro y hy
  have hstop := List.head?_dropWhile_not (· != '\n') cs
  simp only [splitLine] at hy
  rw [hy] at hstop
  simpa using hstop

theorem atLineEnd_renderedFrom_splitLine (lineStart : Bool) (cs : List Char) :
    AtLineEnd (renderedFrom lineStart (splitLine cs).2) := by
  cases hcs : (splitLine cs).2 with
  | nil => simp [AtLineEnd, renderedFrom]
  | cons y rest =>
      obtain rfl : y = '\n' := atLineEnd_splitLine cs y (by simp [hcs])
      rw [(isPlain_of_isBlank (by decide)).renderedFrom_cons]
      simp [AtLineEnd]

theorem rendered_blockComment (t : List Char) :
    (Region.blockComment t).rendered = [' '] ∧ t.contains '\n' = false ∨
      (∃ n, (Region.blockComment t).rendered = List.replicate (n + 1) '\n') ∧
        t.contains '\n' = true := by
  by_cases h : t.contains '\n' = true
  · have hpos := List.count_pos_iff.2 (List.contains_iff_mem.1 h)
    refine .inr ⟨⟨t.count '\n' - 1, ?_⟩, h⟩
    rw [Nat.sub_add_cancel hpos]
    exact if_pos h
  · exact .inl ⟨if_neg h, by simpa using h⟩

/-- What is in front of a stripped text was in front before, or is a blank in place of a region. -/
theorem head?_renderedFrom (lineStart : Bool) (cs : List Char) :
    ∀ y ∈ (renderedFrom lineStart cs).head?, cs.head? = some y ∨ y = ' ' ∨ y = '\n' := by
  cases cs with
  | nil => simp [renderedFrom]
  | cons c cs =>
      intro y hy
      rw [renderedFrom_cons] at hy
      obtain ⟨t, rest, h⟩ | ⟨t, h⟩ | ⟨t, rest, h⟩ | h := Region.first_cases lineStart c cs
      · rw [h] at hy
        exact .inr (.inl (Option.some.inj hy).symm)
      · rw [h] at hy
        exact .inr (.inr (atLineEnd_renderedFrom_splitLine _ _ y hy))
      · rw [h] at hy
        obtain ⟨hspace, -⟩ | ⟨⟨n, hnewlines⟩, -⟩ := rendered_blockComment t
        · rw [hspace] at hy
          exact .inr (.inl (Option.some.inj hy).symm)
        · rw [hnewlines, List.replicate_succ] at hy
          exact .inr (.inr (Option.some.inj hy).symm)
      · rw [h] at hy
        exact .inl hy

/-! ## Nothing new is opened -/

theorem opensDirective_of_word {spaces word rest : List Char}
    (hspaces : ∀ c ∈ spaces, isSpaceOrTab c = true) (hword : word ∈ directiveWords)
    (hrest : ∀ y ∈ rest.head?, y.isAlpha = false) :
    opensDirective (spaces ++ word ++ rest) = true := by
  have hwords : ∀ word ∈ directiveWords,
      (word ++ rest).dropWhile isSpaceOrTab = word ++ rest ∧ word.takeWhile Char.isAlpha = word := by
    unfold directiveWords
    simp [isSpaceOrTab]
  obtain ⟨hdrop, htake⟩ := hwords word hword
  unfold opensDirective
  rw [List.append_assoc, List.dropWhile_append_of_pos hspaces, hdrop,
    takeWhile_append_of_head? hrest, htake]
  exact List.contains_iff_mem.2 hword

/-- The word of a directive is still there, and ends where it ended. -/
theorem opensDirective_renderedFrom (h : opensDirective cs = true) (lineStart : Bool) :
    opensDirective (renderedFrom lineStart cs) = true := by
  have hsplit : cs.takeWhile isSpaceOrTab ++ (cs.dropWhile isSpaceOrTab).takeWhile Char.isAlpha ++
      (cs.dropWhile isSpaceOrTab).dropWhile Char.isAlpha = cs := by
    rw [List.append_assoc, List.takeWhile_append_dropWhile, List.takeWhile_append_dropWhile]
  have hspaces : ∀ c ∈ cs.takeWhile isSpaceOrTab, isSpaceOrTab c = true :=
    List.all_eq_true.1 List.all_takeWhile
  have hletters : ∀ c ∈ (cs.dropWhile isSpaceOrTab).takeWhile Char.isAlpha, c.isAlpha = true :=
    List.all_eq_true.1 List.all_takeWhile
  -- Blanks and letters are passed on, so the word is there again; what comes after it does not
  -- prolong it.
  have hplain : ∀ c ∈ cs.takeWhile isSpaceOrTab ++
      (cs.dropWhile isSpaceOrTab).takeWhile Char.isAlpha, IsPlain c := by
    intro c hc
    rcases List.mem_append.1 hc with hc | hc
    · have hblank := hspaces c hc
      simp only [isSpaceOrTab, Bool.or_eq_true, beq_iff_eq] at hblank
      rcases hblank with rfl | rfl <;> simp [IsPlain]
    · exact isPlain_of_isWord (isWord_of_isWordStart (by simp [isWordStart, hletters c hc]))
  obtain ⟨lineStart', hrendered⟩ := exists_renderedFrom_append hplain lineStart
    ((cs.dropWhile isSpaceOrTab).dropWhile Char.isAlpha)
  rw [hsplit] at hrendered
  rw [hrendered]
  refine opensDirective_of_word hspaces (List.contains_iff_mem.1 h) ?_
  intro y hy
  rcases head?_renderedFrom _ _ y hy with hy | rfl | rfl
  · have hstop := List.head?_dropWhile_not Char.isAlpha (cs.dropWhile isSpaceOrTab)
    rw [hy] at hstop
    simpa using hstop
  · decide
  · decide

/-- A character of the code is one in the stripped text, too. -/
theorem Region.first_renderedFrom (h : Region.first lineStart c cs = (.code c, cs))
    (lineStart' : Bool) :
    Region.first lineStart c (renderedFrom lineStart' cs) =
      (.code c, renderedFrom lineStart' cs) := by
  have hhead := head?_renderedFrom lineStart' cs
  rw [Region.first_eq_code_iff] at h ⊢
  obtain ⟨hquote, hline, hblock, hhash⟩ := h
  refine ⟨hquote, ?_, ?_, ?_⟩
  · rintro ⟨hc, hy⟩
    rcases hhead _ hy with hy | hy | hy
    · exact hline ⟨hc, hy⟩
    · cases hy
    · cases hy
  · rintro ⟨hc, hy⟩
    rcases hhead _ hy with hy | hy | hy
    · exact hblock ⟨hc, hy⟩
    · cases hy
    · cases hy
  · rintro ⟨hc, hcomment⟩
    refine hhash ⟨hc, ?_⟩
    rintro ⟨hstart, hd⟩
    exact hcomment ⟨hstart, opensDirective_renderedFrom hd lineStart'⟩

/-! ## Reading what is left of a region -/

theorem renderedFrom_placeholder (lineStart : Bool) (rest : List Char) :
    renderedFrom lineStart (placeholder ++ rest) =
      [' '] ++ placeholder ++ [' '] ++ renderedFrom false rest := by
  have hspace : IsPlain ' ' := isPlain_of_isBlank (by decide)
  have hliteral : ∀ b, Region.first b '"' ('"' :: ' ' :: rest) =
      (.literal ['"', '"'], ' ' :: rest) := by
    intro b
    simp [Region.first, splitLiteral, splitPlain]
  show renderedFrom lineStart (' ' :: '"' :: '"' :: ' ' :: rest) = _
  rw [hspace.renderedFrom_cons, renderedFrom_cons, hliteral, hspace.renderedFrom_cons]
  rfl

theorem renderedFrom_newlines (lineStart : Bool) (n : Nat) (rest : List Char) :
    renderedFrom lineStart (List.replicate (n + 1) '\n' ++ rest) =
      List.replicate (n + 1) '\n' ++ renderedFrom true rest := by
  have hnewline : IsPlain '\n' := isPlain_of_isBlank (by decide)
  induction n generalizing lineStart with
  | zero => exact hnewline.renderedFrom_cons lineStart rest
  | succ n ih =>
      rw [List.replicate_succ, List.cons_append, hnewline.renderedFrom_cons]
      exact congrArg ('\n' :: ·) (ih true)

/-- What is left of a region is read again as what it was, and the reader is in the same state after
    it. -/
theorem renderedFrom_first (lineStart : Bool) (c : Char) (cs : List Char) :
    renderedFrom lineStart (renderedFrom lineStart (c :: cs)) =
      (Region.first lineStart c cs).1.renderedTwice ++
        renderedFrom ((Region.first lineStart c cs).1.lineStart lineStart)
          (renderedFrom ((Region.first lineStart c cs).1.lineStart lineStart)
            (Region.first lineStart c cs).2) := by
  have hspace : isBlank ' ' = true := by decide
  rw [renderedFrom_cons]
  obtain ⟨t, rest, h⟩ | ⟨t, h⟩ | ⟨t, rest, h⟩ | h := Region.first_cases lineStart c cs
  · -- A placeholder is a literal itself.
    rw [h]
    exact renderedFrom_placeholder lineStart _
  · rw [h]
    rfl
  · -- A comment has left a blank, or the ends of its lines.
    rw [h]
    obtain ⟨hrendered, hnewline⟩ | ⟨⟨n, hrendered⟩, hnewline⟩ := rendered_blockComment t
    · simp only [Region.renderedTwice, Region.lineStart, hrendered, hnewline, Bool.or_false,
        List.singleton_append]
      rw [(isPlain_of_isBlank hspace).renderedFrom_cons]
      simp [Region.lineStart, hspace]
    · simp only [Region.renderedTwice, Region.lineStart, hrendered, hnewline, Bool.or_true]
      exact renderedFrom_newlines lineStart n _
  · rw [h]
    show renderedFrom lineStart (c :: renderedFrom _ cs) = _
    rw [renderedFrom_cons, Region.first_renderedFrom h]
    rfl

theorem renderedFrom_renderedFrom (lineStart : Bool) (cs : List Char) :
    renderedFrom lineStart (renderedFrom lineStart cs) =
      (regionsFrom lineStart cs).flatMap Region.renderedTwice := by
  fun_induction regionsFrom lineStart cs with
  | case1 => simp [renderedFrom]
  | case2 lineStart c cs r ih => rw [renderedFrom_first, ih, List.flatMap_cons]

/-! ## Only placeholders get more spaces -/

theorem widen_append {front : List Char} (h : '"' ∉ front) (cs : List Char) :
    widen (front ++ cs) = front ++ widen cs := by
  induction front with
  | nil => rfl
  | cons c front ih =>
      rw [List.mem_cons, not_or] at h
      have hc : c ≠ '"' := fun hc => h.1 hc.symm
      rw [List.cons_append, widen.eq_def]
      split <;> simp_all

/-- Code has no double quotes, and neither has what is left of a comment. -/
theorem widen_first (lineStart : Bool) (c : Char) (cs rest : List Char) :
    widen ((Region.first lineStart c cs).1.rendered ++ rest) =
      (Region.first lineStart c cs).1.renderedTwice ++ widen rest := by
  obtain ⟨t, left, h⟩ | ⟨t, h⟩ | ⟨t, left, h⟩ | h := Region.first_cases lineStart c cs
  · rw [h]
    rfl
  · rw [h]
    rfl
  · rw [h]
    refine widen_append ?_ rest
    obtain ⟨hspace, -⟩ | ⟨⟨n, hnewlines⟩, -⟩ := rendered_blockComment t
    · simp [hspace]
    · simp [hnewlines]
  · rw [h]
    refine widen_append ?_ rest
    have hc := (Region.first_eq_code_iff.1 h).1
    simpa [Region.rendered, eq_comm] using (not_or.1 hc).1

theorem widen_renderedFrom (lineStart : Bool) (cs : List Char) :
    widen (renderedFrom lineStart cs) = (regionsFrom lineStart cs).flatMap Region.renderedTwice := by
  fun_induction regionsFrom lineStart cs with
  | case1 => simp [renderedFrom, widen]
  | case2 lineStart c cs r ih => rw [renderedFrom_cons, widen_first, ih, List.flatMap_cons]

theorem Region.widens_rendered (r : Region) : Widens r.rendered r.renderedTwice := by
  cases r with
  | literal t => exact .twice (.same '"' (.same '"' (.twice .nil)))
  | code _ | lineComment _ | blockComment _ => exact .refl _

theorem widens_flatMap_rendered (rs : List Region) :
    Widens (rs.flatMap Region.rendered) (rs.flatMap Region.renderedTwice) := by
  induction rs with
  | nil => exact .nil
  | cons r rs ih => exact r.widens_rendered.append ih

theorem stripped_stripped (source : List Char) :
    stripped (stripped source) = widen (stripped source) :=
  (renderedFrom_renderedFrom true source).trans (widen_renderedFrom true source).symm

theorem widens_stripped (source : List Char) :
    Widens (stripped source) (stripped (stripped source)) := by
  have h : stripped (stripped source) = (regions source).flatMap Region.renderedTwice :=
    renderedFrom_renderedFrom true source
  rw [h]
  exact widens_flatMap_rendered _

/-! ## Scoring a stripped text -/

/-- Stripping once more adds a space on each side of the placeholders, and that does not count: the
    tokens are the same, each idiom occurs as often, and so the scores and the guess are those of
    the source. -/
theorem stripping_is_stable (source : List Char) :
    stripped (stripped source) = widen (stripped source) ∧
      tokens (stripped (stripped source)) = tokens (stripped source) ∧
      (∀ l : Language, ∀ i ∈ l.vocabulary.idioms,
        i.count (stripped (stripped source)) = i.count (stripped source)) ∧
      Scores.ofSource (stripped source) = Scores.ofSource source ∧
      detect (String.ofList (stripped source)) = detect (String.ofList source) := by
  have hwidens := widens_stripped source
  have hscores : Scores.ofSource (stripped source) = Scores.ofSource source :=
    hwidens.ofStripped_eq
  refine ⟨stripped_stripped source, hwidens.tokens_eq, hwidens.count_eq, hscores, ?_⟩
  unfold detect
  rw [String.toList_ofList, String.toList_ofList, hscores]

end Playground.Source
