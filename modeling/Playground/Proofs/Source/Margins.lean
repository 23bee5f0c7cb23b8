import Playground.Proofs.Source.FreeShape
import Playground.Proofs.Source.LineForm
import Playground.Proofs.Source.Opening

set_option autoImplicit false

/-! # Blanks around a source

Spaces, tabs and newlines before a source are code and stay where they are. What becomes of those
after a source depends on where the source ends: they may be code, they may belong to a comment or
a literal that is still open, the first of them may be taken by a backslash, and a newline may end
what is open. In all cases the region that is read last is the same or has taken some of them
(`Region.Extends`), and so the stripped texts differ by blanks at their ends only
(`exists_renderedFrom_margins`).

Blanks there are no tokens, and they leave each line of a stripped text what it was. -/

namespace Playground.Source

open Playground.Text

variable {q c : Char} {cs w text line front rest : List Char} {p p' : List Char × List Char}

/-- A space, a tab or a newline. -/
def IsMargin (c : Char) : Prop := c ∈ [' ', '\t', '\n']

instance : DecidablePred IsMargin := fun c => inferInstanceAs (Decidable (c ∈ [' ', '\t', '\n']))

theorem IsMargin.isBlank (h : IsMargin c) : isBlank c = true := by
  have hall : ∀ d ∈ [' ', '\t', '\n'], Text.isBlank d = true := by simp [Text.isBlank]
  exact hall c h

theorem IsMargin.isSpaceOrTab (h : IsMargin c) (hc : c ≠ '\n') : isSpaceOrTab c = true := by
  simp only [IsMargin, List.mem_cons, List.not_mem_nil, or_false] at h
  rcases h with rfl | rfl | rfl
  · decide
  · decide
  · exact absurd rfl hc

theorem blanks_of_margins (h : ∀ c ∈ w, IsMargin c) : ∀ c ∈ w, isBlank c = true :=
  fun c hc => (h c hc).isBlank

/-! ## A region at the end of a text -/

/-- What is split off when `w` is added to a text: the same, or more if nothing was left. -/
inductive SplitsOn (w : List Char) : List Char × List Char → List Char × List Char → Prop where
  | same (covered left : List Char) : SplitsOn w (covered, left) (covered, left ++ w)
  | more (covered : List Char) {taken left : List Char} (h : w = taken ++ left) :
      SplitsOn w (covered, []) (covered ++ taken, left)

namespace SplitsOn

theorem cons (c : Char) (h : SplitsOn w p p') : SplitsOn w (c :: p.1, p.2) (c :: p'.1, p'.2) := by
  cases h with
  | same covered left => exact .same (c :: covered) left
  | more covered h => exact .more (c :: covered) h

theorem of_append (h : p.1 ++ p.2 = w) : SplitsOn w ([], []) p := .more [] h.symm

end SplitsOn

theorem splitsOn_splitPlain (q : Char) (cs w : List Char) :
    SplitsOn w (splitPlain q cs) (splitPlain q (cs ++ w)) := by
  induction cs using unit_induction with
  | nil => exact .of_append (splitPlain_append q w)
  | backslash =>
      cases w with
      | nil => exact .same ['\\'] []
      | cons d w =>
          -- The backslash takes the first character of what is added.
          rw [List.singleton_append, splitPlain_escape]
          exact .more ['\\'] (by rw [List.cons_append, splitPlain_append])
  | escape d cs ih =>
      rw [List.cons_append, List.cons_append, splitPlain_escape, splitPlain_escape]
      exact (ih.cons d).cons '\\'
  | char c cs hc ih =>
      rw [List.cons_append, splitPlain_cons hc, splitPlain_cons hc]
      split
      · exact .same [] (c :: cs)
      · split
        · exact .same [c] cs
        · exact ih.cons c

theorem splitsOn_splitTriple (hq : isBlank q = false) (hw : ∀ d ∈ w, isBlank d = true)
    (cs : List Char) : SplitsOn w (splitTriple q cs) (splitTriple q (cs ++ w)) := by
  induction cs using unit_induction with
  | nil => exact .of_append (splitTriple_append q w)
  | backslash =>
      cases w with
      | nil => exact .same ['\\'] []
      | cons d w =>
          rw [List.singleton_append, splitTriple_escape]
          exact .more ['\\'] (by rw [List.cons_append, splitTriple_append])
  | escape d cs ih =>
      rw [List.cons_append, List.cons_append, splitTriple_escape, splitTriple_escape]
      exact (ih.cons d).cons '\\'
  | char c cs hc ih =>
      have hquotes := opensAlike_append (.of_all hw) (c :: cs) [q, q, q] (by simpa using hq)
      rw [List.cons_append] at hquotes ⊢
      rw [splitTriple_cons hc, splitTriple_cons hc]
      by_cases hclose : [q, q, q] <+: c :: cs
      · rw [if_pos hclose, if_pos (hquotes.1 hclose)]
        have hlen := hclose.length_le
        rw [List.drop_append_of_le_length (by simpa using hlen)]
        exact .same _ _
      · rw [if_neg hclose, if_neg (mt hquotes.2 hclose)]
        exact ih.cons c

theorem splitsOn_splitBlock (hw : ∀ d ∈ w, isBlank d = true) (cs : List Char) :
    SplitsOn w (splitBlock cs) (splitBlock (cs ++ w)) := by
  induction cs with
  | nil => exact .of_append (splitBlock_append w)
  | cons c cs ih =>
      have hend := opensAlike_append (.of_all hw) (c :: cs) ['*', '/'] (by simp [isBlank])
      rw [← List.isPrefixOf_iff_prefix, ← List.isPrefixOf_iff_prefix] at hend
      rw [List.cons_append] at hend ⊢
      rw [splitBlock, splitBlock]
      by_cases hclose : ['*', '/'].isPrefixOf (c :: cs) = true
      · rw [if_pos hclose, if_pos (hend.1 hclose)]
        have hlen := (List.isPrefixOf_iff_prefix.1 hclose).length_le
        rw [List.drop_append_of_le_length (by simpa using hlen)]
        exact .same _ _
      · rw [if_neg hclose, if_neg (mt hend.2 hclose)]
        exact ih.cons c

theorem splitsOn_splitLine (cs w : List Char) :
    SplitsOn w (splitLine cs) (splitLine (cs ++ w)) := by
  induction cs with
  | nil => exact .of_append (splitLine_append w)
  | cons c cs ih =>
      unfold splitLine at ih ⊢
      rw [List.cons_append, List.takeWhile_cons, List.takeWhile_cons, List.dropWhile_cons,
        List.dropWhile_cons]
      split
      · exact ih.cons c
      · exact .same [] (c :: cs)

theorem splitsOn_splitLiteral (hq : isBlank q = false) (hw : ∀ d ∈ w, isBlank d = true)
    (cs : List Char) : SplitsOn w (splitLiteral q cs) (splitLiteral q (cs ++ w)) := by
  obtain ⟨⟨htwo, -⟩, h, h'⟩ | ⟨-, h, h'⟩ :=
    (opensAlike_append (.of_all hw) cs).splitLiteral_cases hq
  · have hdrop : (cs ++ w).drop 2 = cs.drop 2 ++ w := List.drop_append_of_le_length htwo.length_le
    rw [h, h', hdrop]
    exact ((splitsOn_splitTriple hq hw (cs.drop 2)).cons q).cons q
  · rw [h, h']
    exact splitsOn_splitPlain q cs w

/-- A `#` cannot tell blanks after a text from the end of the text. -/
theorem opensDirective_append_blanks (hw : ∀ d ∈ w, isBlank d = true) (cs : List Char) :
    opensDirective (cs ++ w) = opensDirective cs := by
  have hletter : ∀ v : List Char, (∀ d ∈ v, isBlank d = true) →
      ∀ y ∈ v.head?, y.isAlpha = false := by
    intro v hv y hy
    have hblank := hv y (List.mem_of_mem_head? hy)
    rw [← Bool.not_eq_true]
    intro halpha
    rw [isBlank_of_isWordStart (by simp [isWordStart, halpha])] at hblank
    cases hblank
  unfold opensDirective
  rw [List.dropWhile_append]
  split
  · -- There are spaces and tabs only, so the word would begin within the blanks.
    next hempty =>
      rw [List.isEmpty_iff.1 hempty]
      have hdrop := takeWhile_append_of_head? (u := []) (hletter (w.dropWhile isSpaceOrTab)
        fun d hd => hw d ((List.dropWhile_sublist _).mem hd))
      rw [List.nil_append] at hdrop
      rw [hdrop]
  · rw [takeWhile_append_of_head? (hletter w hw)]

/-- The region and the text after it, when `w` is added to the text. -/
inductive Region.Extends (w : List Char) : Region × List Char → Region × List Char → Prop where
  | same (r : Region) (left : List Char) : Extends w (r, left) (r, left ++ w)
  | literal (t t' : List Char) {taken left : List Char} (h : w = taken ++ left) :
      Extends w (.literal t, []) (.literal t', left)
  | lineComment (t t' : List Char) {taken left : List Char} (h : w = taken ++ left) :
      Extends w (.lineComment t, []) (.lineComment t', left)
  | blockComment (t t' : List Char) {taken left : List Char} (h : w = taken ++ left) :
      Extends w (.blockComment t, []) (.blockComment t', left)

theorem Region.extends_first (hw : ∀ d ∈ w, isBlank d = true) (lineStart : Bool) (c : Char)
    (cs : List Char) :
    Extends w (Region.first lineStart c cs) (Region.first lineStart c (cs ++ w)) := by
  obtain ⟨hquote, h, h'⟩ | ⟨h, h'⟩ | ⟨⟨hstar, -⟩, h, h'⟩ | ⟨h, h'⟩ :=
    (opensAlike_append (.of_all hw) cs).first_cases (opensDirective_append_blanks hw cs) lineStart c
  · have hq : isBlank c = false := by rcases hquote with rfl | rfl <;> decide
    have hsplit := splitsOn_splitLiteral hq hw cs
    rw [h, h']
    generalize splitLiteral c cs = p, splitLiteral c (cs ++ w) = p' at hsplit
    cases hsplit with
    | same covered left => exact .same _ _
    | more covered hmore => exact .literal _ _ hmore
  · have hsplit := splitsOn_splitLine cs w
    rw [h, h']
    generalize splitLine cs = p, splitLine (cs ++ w) = p' at hsplit
    cases hsplit with
    | same covered left => exact .same _ _
    | more covered hmore => exact .lineComment _ _ hmore
  · have hsplit := splitsOn_splitBlock hw (cs.drop 1)
    have hdrop : (cs ++ w).drop 1 = cs.drop 1 ++ w := by
      cases cs with
      | nil => cases hstar
      | cons d cs => rfl
    rw [h, h', hdrop]
    generalize splitBlock (cs.drop 1) = p, splitBlock (cs.drop 1 ++ w) = p' at hsplit
    cases hsplit with
    | same covered left => exact .same _ _
    | more covered hmore => exact .blockComment _ _ hmore
  · rw [h, h']
    exact .same _ _

/-! ## What is left of blanks -/

theorem renderedFrom_blanks (hw : ∀ d ∈ w, isBlank d = true) (lineStart : Bool) :
    renderedFrom lineStart w = w := by
  have hplain : ∀ c ∈ w, IsPlain c := fun c hc => isPlain_of_isBlank (hw c hc)
  obtain ⟨lineStart', h⟩ := exists_renderedFrom_append hplain lineStart []
  rwa [List.append_nil, renderedFrom_nil, List.append_nil] at h

/-- Only blanks have been seen before them, so the text after them is read as it would be. -/
theorem stripped_append_of_blank (hfront : ∀ d ∈ front, isBlank d = true) (cs : List Char) :
    stripped (front ++ cs) = front ++ stripped cs := by
  induction front with
  | nil => rfl
  | cons d front ih =>
      rw [List.forall_mem_cons] at hfront
      have hstart : (Region.code d).lineStart true = true := by simp [Region.lineStart, hfront.1]
      show renderedFrom true (d :: (front ++ cs)) = _
      rw [(isPlain_of_isBlank hfront.1).renderedFrom_cons, hstart]
      exact congrArg (d :: ·) (ih hfront.2)

theorem isMargin_of_mem_rendered (t : List Char) :
    ∀ c ∈ (Region.blockComment t).rendered, IsMargin c := by
  intro c hc
  obtain ⟨h, -⟩ | ⟨⟨n, h⟩, -⟩ := rendered_blockComment t
  · rw [h, List.mem_singleton] at hc
    rw [hc]
    decide
  · rw [h] at hc
    rw [List.eq_of_mem_replicate hc]
    decide

/-- The two stripped texts are the same up to blanks at their ends. -/
theorem exists_renderedFrom_margins (hw : ∀ c ∈ w, IsMargin c) (lineStart : Bool)
    (cs : List Char) :
    ∃ front tail tail', renderedFrom lineStart cs = front ++ tail ∧
      renderedFrom lineStart (cs ++ w) = front ++ tail' ∧ (∀ c ∈ tail, IsMargin c) ∧
      ∀ c ∈ tail', IsMargin c := by
  have hblanks := blanks_of_margins hw
  induction lineStart, cs using regionsFrom.induct with
  | case1 lineStart =>
      refine ⟨[], [], w, renderedFrom_nil lineStart, ?_, by simp, hw⟩
      exact renderedFrom_blanks hblanks lineStart
  | case2 lineStart c cs r ih =>
      have hextends := Region.extends_first hblanks lineStart c cs
      have hleft : ∀ taken left, w = taken ++ left → ∀ lineStart',
          renderedFrom lineStart' left = left ∧ ∀ c ∈ left, IsMargin c := by
        rintro taken left rfl lineStart'
        rw [List.forall_mem_append] at hw hblanks
        exact ⟨renderedFrom_blanks hblanks.2 lineStart', hw.2⟩
      rw [List.cons_append, renderedFrom_cons, renderedFrom_cons]
      change Region.Extends w r _ at hextends
      change ∃ front tail tail', r.1.rendered ++ renderedFrom (r.1.lineStart lineStart) r.2 = _ ∧ _
      clear_value r
      generalize Region.first lineStart c (cs ++ w) = r' at hextends
      cases hextends with
      | same r left =>
          -- What is left after the region is read as before, with the blanks at its end.
          obtain ⟨front, tail, tail', h, h', hmargins⟩ := ih
          refine ⟨r.rendered ++ front, tail, tail', ?_, ?_, hmargins⟩
          · rw [h, List.append_assoc]
          · rw [h', List.append_assoc]
      | @literal t t' taken left h =>
          obtain ⟨hrendered, hmargins⟩ := hleft taken left h false
          refine ⟨placeholder, [], left, ?_, ?_, by simp, hmargins⟩
          · exact congrArg (placeholder ++ ·) (renderedFrom_nil _)
          · exact congrArg (placeholder ++ ·) hrendered
      | @lineComment t t' taken left h =>
          obtain ⟨hrendered, hmargins⟩ := hleft taken left h lineStart
          exact ⟨[], [], left, renderedFrom_nil _, hrendered, by simp, hmargins⟩
      | @blockComment t t' taken left h =>
          -- Both comments are rendered as a space or as newlines, which need not be as many.
          obtain ⟨hrendered, hmargins⟩ := hleft taken left h _
          refine ⟨[], (Region.blockComment t).rendered, (Region.blockComment t').rendered ++ left,
            ?_, ?_, isMargin_of_mem_rendered t, ?_⟩
          · rw [renderedFrom_nil, List.append_nil, List.nil_append]
          · rw [hrendered, List.nil_append]
          · exact List.forall_mem_append.2 ⟨isMargin_of_mem_rendered t', hmargins⟩

/-! ## Blanks around lines -/

/-- Spaces and tabs around a line do not change whether it has the property, and no empty line has
    it. -/
structure IgnoresMargins (f : List Char → Bool) : Prop where
  nil : f [] = false
  cons : ∀ c line, isSpaceOrTab c = true → '\n' ∉ line → f (c :: line) = f line
  append : ∀ c line, isSpaceOrTab c = true → '\n' ∉ line → f (line ++ [c]) = f line

namespace IgnoresMargins

variable {f : List Char → Bool}

theorem countP_cons (h : IgnoresMargins f) (hc : IsMargin c) (text : List Char) :
    (lines (c :: text)).countP f = (lines text).countP f := by
  by_cases hn : c = '\n'
  · rw [hn, lines_cons_newline, List.countP_cons_of_neg (by simp [h.nil])]
  · have hspace := hc.isSpaceOrTab hn
    have hcons : ∀ line, '\n' ∉ line → '\n' ∉ c :: line := fun line hline hmem =>
      (List.mem_cons.1 hmem).elim (fun heq => hn heq.symm) hline
    induction text using lines_induction with
    | line line hline =>
        rw [lines_of_not_mem hline, lines_of_not_mem (hcons line hline), List.countP_singleton,
          List.countP_singleton, h.cons c line hspace hline]
    | more line rest hline _ =>
        rw [← List.cons_append, lines_append, lines_append, lines_of_not_mem hline,
          lines_of_not_mem (hcons line hline), List.countP_append, List.countP_append,
          List.countP_singleton, List.countP_singleton, h.cons c line hspace hline]

theorem countP_append_singleton (h : IgnoresMargins f) (hc : IsMargin c) (text : List Char) :
    (lines (text ++ [c])).countP f = (lines text).countP f := by
  by_cases hn : c = '\n'
  · have hempty : lines [] = [[]] := lines_of_not_mem (by simp)
    rw [hn, lines_append, hempty, List.countP_append, List.countP_singleton, h.nil]
    rfl
  · have hspace := hc.isSpaceOrTab hn
    induction text using lines_induction with
    | line line hline =>
        have happend : '\n' ∉ line ++ [c] := by simp [hline, Ne.symm hn]
        rw [lines_of_not_mem hline, lines_of_not_mem happend, List.countP_singleton,
          List.countP_singleton, h.append c line hspace hline]
    | more line rest hline ih =>
        rw [List.append_assoc, List.cons_append, lines_append, lines_append, List.countP_append,
          List.countP_append, ih]

theorem countP_margins (h : IgnoresMargins f) (hfront : ∀ c ∈ front, IsMargin c)
    (hrest : ∀ c ∈ rest, IsMargin c) (text : List Char) :
    (lines (front ++ text ++ rest)).countP f = (lines text).countP f := by
  induction front with
  | cons c front ih =>
      rw [List.forall_mem_cons] at hfront
      rw [List.cons_append, List.cons_append, h.countP_cons hfront.1, ih hfront.2]
  | nil =>
      rw [List.nil_append]
      induction rest generalizing text with
      | nil => rw [List.append_nil]
      | cons c rest ih =>
          rw [List.forall_mem_cons] at hrest
          rw [List.append_cons, ih hrest.2, h.countP_append_singleton hrest.1]

end IgnoresMargins

theorem newline_ne_of_isSpaceOrTab (h : isSpaceOrTab c = true) : c ≠ '\n' := by
  rintro rfl
  cases h

theorem ignoresMargins_bareAssignment : IgnoresMargins Vocabulary.bareAssignment.isLine where
  nil := Idiom.isLine_nil (by decide) (by decide)
  cons := by
    intro c line hc hline
    have hn := (newline_ne_of_isSpaceOrTab hc).symm
    rw [Bool.eq_iff_iff, isLine_bareAssignment (by simp [hn, hline]), isLine_bareAssignment hline,
      isAssignment_cons_iff hc]
  append := by
    intro c line hc hline
    have hn := (newline_ne_of_isSpaceOrTab hc).symm
    have hvalue : c ∉ ['=', ';', '\x7b', '\x7d', '\n'] := by
      have hc : c = ' ' ∨ c = '\t' := by simpa [isSpaceOrTab] using hc
      rcases hc with rfl | rfl <;> decide
    rw [Bool.eq_iff_iff, isLine_bareAssignment (by simp [hn, hline]), isLine_bareAssignment hline,
      isAssignment_append_iff hvalue]

theorem ignoresMargins_blockHeader : IgnoresMargins Vocabulary.blockHeader.isLine where
  nil := Idiom.isLine_nil (by decide) (by decide)
  cons := by
    intro c line hc hline
    have hn := (newline_ne_of_isSpaceOrTab hc).symm
    rw [Bool.eq_iff_iff, isLine_blockHeader (by simp [hn, hline]), isLine_blockHeader hline,
      isHeader_cons_iff hc]
  append := by
    intro c line hc hline
    have hn := (newline_ne_of_isSpaceOrTab hc).symm
    have hcolon : c ≠ ':' := by
      rintro rfl
      cases hc
    rw [Bool.eq_iff_iff, isLine_blockHeader (by simp [hn, hline]), isLine_blockHeader hline,
      isHeader_append_iff hcolon, and_iff_left hc]

/-! ## Scores -/

theorem Idiom.count_margins {i : Idiom} (hi : i.isFree = true) (hvisible : i.isVisible = true)
    (hfront : ∀ c ∈ front, IsMargin c) (hrest : ∀ c ∈ rest, IsMargin c) (text : List Char) :
    i.count (front ++ text ++ rest) = i.count text := by
  rw [count_append_blanks hi hvisible (blanks_of_margins hrest),
    count_append_of_blank hi (blanks_of_margins hfront)]

theorem count_margins (hfront : ∀ c ∈ front, IsMargin c) (hrest : ∀ c ∈ rest, IsMargin c)
    (text : List Char) (l : Language) :
    ∀ i ∈ l.vocabulary.idioms, i.count (front ++ text ++ rest) = i.count text := by
  intro i hi
  have hvisible := isVisible_of_mem_idioms l i hi
  cases l with
  | python =>
      have hi : i = Vocabulary.bareAssignment ∨ i = Vocabulary.blockHeader := by
        simpa [Language.vocabulary, Vocabulary.python] using hi
      rcases hi with rfl | rfl
      · rw [count_bareAssignment, count_bareAssignment,
          ignoresMargins_bareAssignment.countP_margins hfront hrest]
      · rw [count_blockHeader, count_blockHeader,
          ignoresMargins_blockHeader.countP_margins hfront hrest]
  | java => exact Idiom.count_margins (isFree_of_mem_java i hi) hvisible hfront hrest text
  | cpp => exact Idiom.count_margins (isFree_of_mem_cpp i hi) hvisible hfront hrest text

theorem Scores.ofStripped_margins (hfront : ∀ c ∈ front, IsMargin c)
    (hrest : ∀ c ∈ rest, IsMargin c) (text : List Char) :
    Scores.ofStripped (front ++ text ++ rest) = Scores.ofStripped text := by
  refine Scores.ofStripped_congr ?_ (count_margins hfront hrest text)
  rw [tokens_append_blanks (blanks_of_margins hrest),
    tokens_append_of_blank (blanks_of_margins hfront)]

/-- Spaces, tabs and newlines around a source change neither its scores nor the guess. -/
theorem surrounding_blanks_do_not_count (before source after : List Char)
    (hbefore : ∀ c ∈ before, c ∈ [' ', '\t', '\n']) (hafter : ∀ c ∈ after, c ∈ [' ', '\t', '\n']) :
    Scores.ofSource (before ++ source ++ after) = Scores.ofSource source ∧
      detect (String.ofList (before ++ source ++ after)) = detect (String.ofList source) := by
  have hscores : Scores.ofSource (before ++ source ++ after) = Scores.ofSource source := by
    obtain ⟨text, tail, tail', h, h', htail, htail'⟩ :=
      exists_renderedFrom_margins hafter true source
    have hstripped : stripped source = text ++ tail := h
    have hstripped' : stripped (source ++ after) = text ++ tail' := h'
    have hnone : ∀ c ∈ ([] : List Char), IsMargin c := by simp
    rw [Scores.ofSource, Scores.ofSource, List.append_assoc,
      stripped_append_of_blank (blanks_of_margins hbefore), hstripped, hstripped',
      ← List.append_assoc]
    -- Both sources have the score of what their stripped texts have in common.
    calc Scores.ofStripped (before ++ text ++ tail')
        = Scores.ofStripped text := Scores.ofStripped_margins hbefore htail' text
      _ = Scores.ofStripped (text ++ tail) :=
          (Scores.ofStripped_margins hnone htail text).symm
  refine ⟨hscores, ?_⟩
  unfold detect
  rw [String.toList_ofList, String.toList_ofList, hscores]

/-- A backslash at the end takes the first newline into the literal, and the second one ends it. -/
theorem surrounding_blanks_do_not_count_after_backslash :
    regions ['x', '=', '\'', '\\'] = [.code 'x', .code '=', .literal ['\'', '\\']] ∧
      regions (['x', '=', '\'', '\\'] ++ ['\n', '\n', ' ']) =
        [.code 'x', .code '=', .literal ['\'', '\\', '\n'], .code '\n', .code ' '] ∧
      Scores.ofSource (['\t', '\n'] ++ ['x', '=', '\'', '\\'] ++ ['\n', '\n', ' ']) =
        Scores.ofSource ['x', '=', '\'', '\\'] :=
  ⟨by decide +kernel, by decide +kernel,
    (surrounding_blanks_do_not_count ['\t', '\n'] ['x', '=', '\'', '\\'] ['\n', '\n', ' ']
      (by simp) (by simp)).1⟩

end Playground.Source
