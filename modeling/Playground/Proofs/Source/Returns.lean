import Mathlib
import Playground.Proofs.Source.FreeShape
import Playground.Proofs.Source.LineForm
import Playground.Proofs.Source.Opening
import Playground.Proofs.Source.Spacing

set_option autoImplicit false

/-! # Carriage returns

Some texts end their lines with a carriage return and a newline. For the most part this is one more
blank: the reader of regions comes to the same places, so that a stripped text differs by carriage
returns before newlines only (`Returns.rendered`), tokens have no blank in them, and all idioms
but the headers of blocks are found again.

In two places it matters. The header of a block has to end in a colon, after which only spaces and
tabs may follow, so that a header with a carriage return at its end is none
(`carriage_returns_hide_headers`). And a backslash at the end of a line takes the carriage return
with it, so that the newline ends a literal that it should have continued; of the sources that are
compared here none has such a literal. -/

namespace Playground.Source

open Playground.Text

variable {q c : Char} {x y word left cs ds line : List Char}

/-! ## Texts with carriage returns -/

/-- The text with a carriage return before each newline. -/
def withReturns (text : List Char) : List Char :=
  text.flatMap fun c => if c = '\n' then ['\r', '\n'] else [c]

/-- The second text is the first with a carriage return before some of its newlines. -/
inductive Returns : List Char → List Char → Prop where
  | nil : Returns [] []
  | same {cs ds : List Char} (c : Char) (rest : Returns cs ds) : Returns (c :: cs) (c :: ds)
  | newline {cs ds : List Char} (rest : Returns cs ds) : Returns ('\n' :: cs) ('\r' :: '\n' :: ds)

theorem returns_withReturns (text : List Char) : Returns text (withReturns text) := by
  induction text with
  | nil => exact .nil
  | cons c text ih =>
      by_cases hc : c = '\n'
      · subst hc
        exact .newline ih
      · have hsame : withReturns (c :: text) = c :: withReturns text := by
          simp [withReturns, hc]
        rw [hsame]
        exact .same c ih

namespace Returns

theorem refl (x : List Char) : Returns x x := by
  induction x with
  | nil => exact .nil
  | cons c x ih => exact .same c ih

theorem append {x' y' : List Char} (h : Returns x y) (h' : Returns x' y') :
    Returns (x ++ x') (y ++ y') := by
  induction h with
  | nil => exact h'
  | same c rest ih => exact .same c ih
  | newline rest ih => exact .newline ih

theorem count_newline (h : Returns x y) : y.count '\n' = x.count '\n' := by
  induction h with
  | nil => rfl
  | same c rest ih => rw [List.count_cons, List.count_cons, ih]
  | newline rest ih => simp [ih]

theorem opensAlike (h : Returns x y) : OpensAlike x y := by
  have hreturn : ∀ cs, BeginsBlank ('\r' :: cs) := BeginsBlank.cons (by decide)
  induction h with
  | nil => exact fun word _ => Iff.rfl
  | same c rest ih => exact ih.cons c
  | newline rest ih => exact (beginsBlank_newline _).opensAlike (hreturn _)

theorem exists_append (h : Returns (word ++ left) y) (hword : '\n' ∉ word) :
    ∃ left', y = word ++ left' ∧ Returns left left' := by
  induction word generalizing y with
  | nil => exact ⟨y, rfl, h⟩
  | cons c word ih =>
      rw [List.mem_cons, not_or] at hword
      cases h with
      | same _ rest =>
          obtain ⟨left', rfl, hleft⟩ := ih rest hword.2
          exact ⟨left', rfl, hleft⟩
      | newline rest => exact absurd rfl hword.1

/-- What is left of both texts after the same characters. -/
theorem drop (h : Returns x y) (hword : '\n' ∉ word) (hx : word <+: x) :
    Returns (x.drop word.length) (y.drop word.length) := by
  obtain ⟨left, rfl⟩ := hx
  obtain ⟨left', rfl, hleft⟩ := h.exists_append hword
  rwa [List.drop_left, List.drop_left]

/-! ## Where regions end -/

theorem opensDirective_eq (h : Returns x y) : opensDirective y = opensDirective x := by
  have hword : ∀ {x y}, Returns x y → y.takeWhile Char.isAlpha = x.takeWhile Char.isAlpha := by
    intro x y h
    induction h with
    | nil => rfl
    | same c rest ih => rw [List.takeWhile_cons, List.takeWhile_cons, ih]
    | newline rest ih => rfl
  unfold opensDirective
  induction h with
  | nil => rfl
  | same c rest ih =>
      rw [List.dropWhile_cons, List.dropWhile_cons]
      split
      · exact ih
      · rw [hword (.same c rest)]
  | newline rest ih => rfl

theorem splitLine_left (h : Returns x y) : Returns (splitLine x).2 (splitLine y).2 := by
  unfold splitLine
  induction h with
  | nil => exact .nil
  | same c rest ih =>
      simp only [List.dropWhile_cons]
      split
      · exact ih
      · exact .same c rest
  | newline rest ih => exact .same '\n' rest

theorem splitBlock_left (h : Returns x y) : Returns (splitBlock x).2 (splitBlock y).2 := by
  induction h with
  | nil => exact .nil
  | @same cs ds c rest ih =>
      have hend := (Returns.same c rest).opensAlike ['*', '/'] (by simp [isBlank])
      rw [← List.isPrefixOf_iff_prefix, ← List.isPrefixOf_iff_prefix] at hend
      rw [splitBlock, splitBlock]
      by_cases hclose : ['*', '/'].isPrefixOf (c :: cs) = true
      · rw [if_pos hclose, if_pos (hend.1 hclose)]
        exact (Returns.same c rest).drop (by decide) (List.isPrefixOf_iff_prefix.1 hclose)
      · rw [if_neg hclose, if_neg (mt hend.2 hclose)]
        exact ih
  | newline rest ih => exact ih

theorem splitTriple_left (hq : isBlank q = false) (h : Returns x y) :
    Returns (splitTriple q x).2 (splitTriple q y).2 := by
  have hblank : ∀ c cs, isBlank c = true → (splitTriple q (c :: cs)).2 = (splitTriple q cs).2 := by
    intro c cs hc
    have hbackslash : c ≠ '\\' := by
      rintro rfl
      cases hc
    have hopen : ¬ [q, q, q] <+: c :: cs := by
      rintro hopen
      obtain rfl := (List.cons_prefix_cons.1 hopen).1
      rw [hc] at hq
      cases hq
    rw [splitTriple_cons hbackslash, if_neg hopen]
  induction x using unit_induction generalizing y with
  | nil =>
      cases h
      exact .nil
  | backslash =>
      cases h with
      | same _ rest =>
          cases rest
          exact .nil
  | escape d cs ih =>
      cases h with
      | same _ rest =>
          rw [splitTriple_escape]
          cases rest with
          | same _ rest =>
              rw [splitTriple_escape]
              exact ih rest
          | newline rest =>
              -- The carriage return is taken by the backslash, the newline is not.
              rw [splitTriple_escape, hblank '\n' _ (by decide)]
              exact ih rest
  | char c cs hc ih =>
      cases h with
      | @same _ ds _ rest =>
          have hquotes := (Returns.same c rest).opensAlike [q, q, q] (by simpa using hq)
          rw [splitTriple_cons hc, splitTriple_cons hc]
          by_cases hclose : [q, q, q] <+: c :: cs
          · have hnewline : '\n' ∉ [q, q, q] := by
              have hne : '\n' ≠ q := by
                rintro rfl
                cases hq
              simpa using hne
            rw [if_pos hclose, if_pos (hquotes.1 hclose)]
            exact (Returns.same c rest).drop hnewline hclose
          · rw [if_neg hclose, if_neg (mt hquotes.2 hclose)]
            exact ih rest
      | newline rest =>
          rw [hblank '\n' _ (by decide), hblank '\r' _ (by decide), hblank '\n' _ (by decide)]
          exact ih rest

/-- A literal with no newline in it ends where it did. -/
theorem splitPlain_left (hq : isBlank q = false) (h : Returns x y)
    (hnone : '\n' ∉ (splitPlain q x).1) : Returns (splitPlain q x).2 (splitPlain q y).2 := by
  induction x using unit_induction generalizing y with
  | nil =>
      cases h
      exact .nil
  | backslash =>
      cases h with
      | same _ rest =>
          cases rest
          exact .nil
  | escape d cs ih =>
      rw [splitPlain_escape, List.mem_cons, List.mem_cons, not_or, not_or] at hnone
      cases h with
      | same _ rest =>
          cases rest with
          | same _ rest =>
              rw [splitPlain_escape, splitPlain_escape]
              exact ih rest hnone.2.2
          | newline rest => exact absurd rfl hnone.2.1
  | char c cs hc ih =>
      cases h with
      | same _ rest =>
          rw [splitPlain_cons hc] at hnone ⊢
          rw [splitPlain_cons hc]
          split at hnone
          · next hn =>
              rw [if_pos hn, if_pos hn]
              exact .same c rest
          · next hn =>
              rw [if_neg hn, if_neg hn]
              split at hnone
              · next hclose =>
                  rw [if_pos hclose, if_pos hclose]
                  exact rest
              · next hclose =>
                  rw [List.mem_cons, not_or] at hnone
                  rw [if_neg hclose, if_neg hclose]
                  exact ih rest hnone.2
      | newline rest =>
          -- The carriage return is in the literal, which ends before the newline, as before.
          have hne : '\r' ≠ q := by
            rintro rfl
            cases hq
          rw [splitPlain_cons (by decide), splitPlain_cons (by decide), splitPlain_cons (by decide),
            if_pos rfl, if_neg (by decide), if_neg hne, if_pos rfl]
          exact .same '\n' rest

end Returns

/-! ## What is left of the texts -/

/-- Literals that go on behind the end of a line are in three quotes. -/
def NoneContinued (rs : List Region) : Prop :=
  ∀ t, .literal t ∈ rs → '\n' ∈ t → ∃ q, [q, q, q] <+: t

-- A plain literal that a backslash continues on the next line ends with its line.
example :
    regions ['\'', '\\', '\n', 'x', '\''] = [.literal ['\'', '\\', '\n', 'x', '\'']] ∧
      regions (withReturns ['\'', '\\', '\n', 'x', '\'']) =
        [.literal ['\'', '\\', '\r'], .code '\n', .code 'x', .literal ['\'']] := by
  decide +kernel

theorem NoneContinued.of_cons {r : Region} {rs : List Region} (h : NoneContinued (r :: rs)) :
    NoneContinued rs :=
  fun t ht => h t (List.mem_cons_of_mem r ht)

/-- A block comment is rendered by the number of its newlines. -/
theorem Region.rendered_blockComment_congr {t t' : List Char} (h : t'.count '\n' = t.count '\n') :
    (Region.blockComment t').rendered = (Region.blockComment t).rendered ∧
      ∀ lineStart, (Region.blockComment t').lineStart lineStart =
        (Region.blockComment t).lineStart lineStart := by
  have hcontains : t'.contains '\n' = t.contains '\n' := by
    rw [Bool.eq_iff_iff, List.contains_iff_mem, List.contains_iff_mem, ← List.count_pos_iff,
      ← List.count_pos_iff, h]
  refine ⟨?_, fun lineStart => ?_⟩
  · rw [Region.rendered, Region.rendered, hcontains, h]
  · rw [Region.lineStart, Region.lineStart, hcontains]

namespace Returns

theorem splitLiteral_left (hq : isBlank q = false) (h : Returns x y)
    (hnone : '\n' ∈ (splitLiteral q x).1 → ∃ d, [d, d, d] <+: q :: (splitLiteral q x).1) :
    Returns (splitLiteral q x).2 (splitLiteral q y).2 := by
  have hne : '\n' ≠ q := by
    rintro rfl
    cases hq
  obtain ⟨⟨htwo, -⟩, hx, hy⟩ | ⟨htwo, hx, hy⟩ := h.opensAlike.splitLiteral_cases hq
  · rw [hx, hy]
    exact (h.drop (by simpa using hne) htwo).splitTriple_left hq
  · rw [hx] at hnone ⊢
    rw [hy]
    refine h.splitPlain_left hq fun hmem => htwo ?_
    -- With two more quotes the literal would have been a longer one.
    obtain ⟨d, hd⟩ := hnone hmem
    obtain ⟨rfl, hrest⟩ := List.cons_prefix_cons.1 hd
    have happend : (splitPlain d x).1 <+: x := ⟨_, splitPlain_append d x⟩
    exact hrest.trans happend

theorem splitBlock_count (h : Returns x y) :
    (splitBlock y).1.count '\n' = (splitBlock x).1.count '\n' := by
  have hx := congrArg (List.count '\n') (splitBlock_append x)
  have hy := congrArg (List.count '\n') (splitBlock_append y)
  have hleft := h.splitBlock_left.count_newline
  have hall := h.count_newline
  rw [List.count_append] at hx hy
  omega

/-- What is left of the two texts differs by carriage returns before newlines only. -/
theorem rendered (lineStart : Bool) (x : List Char) :
    ∀ y, Returns x y → NoneContinued (regionsFrom lineStart x) →
      Returns (renderedFrom lineStart x) (renderedFrom lineStart y) := by
  induction lineStart, x using regionsFrom.induct with
  | case1 lineStart =>
      intro y h _
      cases h
      exact .refl _
  | case2 lineStart c cs r ih =>
      intro y h hnone
      have hr : r = Region.first lineStart c cs := rfl
      clear_value r
      rw [regionsFrom_cons, ← hr] at hnone
      have hleft := fun y (h : Returns r.2 y) => ih y h hnone.of_cons
      rw [renderedFrom_cons, ← hr]
      cases h with
      | @newline _ ds rest =>
          -- Both characters are code, and the second one begins a line.
          have hnewline : IsPlain '\n' := isPlain_of_isBlank (by decide)
          have hreturn : IsPlain '\r' := isPlain_of_isBlank (by decide)
          rw [hnewline.first] at hr
          rw [hreturn.renderedFrom_cons, hnewline.renderedFrom_cons]
          rw [hr] at hleft ⊢
          exact .newline (hleft ds rest)
      | @same _ ds _ rest =>
          rw [renderedFrom_cons]
          obtain ⟨hquote, h, h'⟩ | ⟨h, h'⟩ | ⟨⟨hstar, -⟩, h, h'⟩ | ⟨h, h'⟩ :=
            rest.opensAlike.first_cases rest.opensDirective_eq lineStart c
          · -- A literal may be longer now, but its placeholder is the same.
            have hq : isBlank c = false := by rcases hquote with rfl | rfl <;> decide
            rw [h] at hr
            rw [h']
            rw [hr] at hleft hnone ⊢
            refine .append (.refl placeholder) (hleft _ (rest.splitLiteral_left hq fun hmem => ?_))
            exact hnone _ List.mem_cons_self (List.mem_cons_of_mem c hmem)
          · rw [h] at hr
            rw [h']
            rw [hr] at hleft ⊢
            exact hleft _ rest.splitLine_left
          · -- A block comment has as many newlines as before.
            have hdrop : Returns (cs.drop 1) (ds.drop 1) := by
              obtain ⟨cs, rfl⟩ := List.head?_eq_some_iff.1 hstar
              have hopens : ['*'] <+: '*' :: cs := ⟨cs, rfl⟩
              exact rest.drop (by decide) hopens
            have hcount : (c :: '*' :: (splitBlock (ds.drop 1)).1).count '\n' =
                (c :: '*' :: (splitBlock (cs.drop 1)).1).count '\n' := by
              rw [List.count_cons, List.count_cons, hdrop.splitBlock_count, ← List.count_cons,
                ← List.count_cons]
            obtain ⟨hrendered, hstart⟩ := Region.rendered_blockComment_congr hcount
            rw [h] at hr
            rw [h', hrendered, hstart]
            rw [hr] at hleft ⊢
            exact .append (.refl _) (hleft _ hdrop.splitBlock_left)
          · rw [h] at hr
            rw [h']
            rw [hr] at hleft ⊢
            exact .same c (hleft ds rest)

/-! ## Lines with carriage returns -/

/-- The lines are the same, or have a carriage return at their ends. -/
theorem forall₂_lines (h : Returns x y) :
    List.Forall₂ (fun line line' => line' = line ∨ line' = line ++ ['\r']) (lines x) (lines y) := by
  have hcons : ∀ {c : Char} {ls ls' : List (List Char)},
      List.Forall₂ (fun line line' => line' = line ∨ line' = line ++ ['\r']) ls ls' →
      List.Forall₂ (fun line line' => line' = line ∨ line' = line ++ ['\r'])
        (ls.modifyHead (c :: ·)) (ls'.modifyHead (c :: ·)) := by
    intro c ls ls' h
    cases h with
    | nil => exact .nil
    | cons hline hrest => exact .cons (hline.imp (congrArg (c :: ·)) (congrArg (c :: ·))) hrest
  induction h with
  | nil => exact .cons (.inl rfl) .nil
  | same c rest ih =>
      by_cases hc : c = '\n'
      · subst hc
        rw [lines_cons_newline, lines_cons_newline]
        exact .cons (.inl rfl) ih
      · rw [lines_cons hc, lines_cons hc]
        exact hcons ih
  | newline rest ih =>
      rw [lines_cons_newline, lines_cons (by decide), lines_cons_newline]
      exact .cons (.inr rfl) ih

theorem tokens_eq (h : Returns x y) : tokens y = tokens x := by
  rw [tokens_eq_flatMap_lines x, tokens_eq_flatMap_lines y]
  have hlines := h.forall₂_lines
  generalize lines x = ls, lines y = ls' at hlines
  induction hlines with
  | nil => rfl
  | @cons line line' ls ls' hline rest ih =>
      have htokens : tokens line' = tokens line := by
        rcases hline with rfl | rfl
        · rfl
        · exact tokens_append_blanks (by simp [isBlank]) line
      rw [List.flatMap_cons, List.flatMap_cons, htokens, ih]

theorem widens (h : Returns x y) : Widens (x.map asSpace) (y.map asSpace) := by
  induction h with
  | nil => exact .nil
  | same c rest ih => exact .same (asSpace c) ih
  | newline rest ih => exact .twice ih

theorem count_eq {i : Idiom} (hi : i.isFree = true) (hel : i.isElastic = true)
    (hcovers : i.coversSome = true) (h : Returns x y) : i.count y = i.count x := by
  rw [← Idiom.count_map_asSpace hi y, ← Idiom.count_map_asSpace hi x,
    Idiom.count_widens hel hcovers h.widens]

end Returns

theorem Returns.count_bareAssignment_eq (h : Returns x y) :
    Vocabulary.bareAssignment.count y = Vocabulary.bareAssignment.count x := by
  rw [count_bareAssignment, count_bareAssignment]
  have hlines := h.forall₂_lines
  have hnewline := fun line => @newline_not_mem_of_mem_lines x line
  generalize lines x = ls, lines y = ls' at hlines hnewline
  induction hlines with
  | nil => rfl
  | @cons line line' ls ls' hline rest ih =>
      rw [List.forall_mem_cons] at hnewline
      have hsame : Vocabulary.bareAssignment.isLine line' =
          Vocabulary.bareAssignment.isLine line := by
        rcases hline with rfl | rfl
        · rfl
        · rw [Bool.eq_iff_iff, isLine_bareAssignment (by simp [hnewline.1]),
            isLine_bareAssignment hnewline.1, isAssignment_append_iff (by decide)]
      rw [List.countP_cons, List.countP_cons, hsame, ih hnewline.2]

/-! ## Headers with carriage returns -/

/-- Would the line be a header but for a carriage return at its end? -/
def isHiddenHeader (line : List Char) : Bool :=
  line.getLast? == some '\r' && Vocabulary.blockHeader.isLine line.dropLast

theorem isHiddenHeader_append (line : List Char) :
    isHiddenHeader (line ++ ['\r']) = Vocabulary.blockHeader.isLine line := by
  simp [isHiddenHeader]

theorem isHiddenHeader_eq_false (h : '\r' ∉ line) : isHiddenHeader line = false := by
  have hlast : line.getLast? ≠ some '\r' := fun hlast => h (List.mem_of_getLast? hlast)
  simp [isHiddenHeader, hlast]

theorem isHiddenHeader_iff (hline : '\n' ∉ line) :
    isHiddenHeader line = true ↔ ∃ header, IsHeader header ∧ line = header ++ ['\r'] := by
  constructor
  · intro h
    rw [isHiddenHeader, Bool.and_eq_true, beq_iff_eq] at h
    obtain ⟨header, rfl⟩ := List.getLast?_eq_some_iff.1 h.1
    rw [List.mem_append, not_or] at hline
    rw [List.dropLast_concat, isLine_blockHeader hline.1] at h
    exact ⟨header, h.2, rfl⟩
  · rintro ⟨header, hheader, rfl⟩
    rw [List.mem_append, not_or] at hline
    rwa [isHiddenHeader_append, isLine_blockHeader hline.1]

/-- Of the headers those are lost that get a carriage return. -/
theorem Returns.count_blockHeader_add (h : Returns x y) (hx : '\r' ∉ x) :
    Vocabulary.blockHeader.count y + (lines y).countP isHiddenHeader =
      Vocabulary.blockHeader.count x := by
  rw [count_blockHeader, count_blockHeader]
  have hlines := h.forall₂_lines
  have hnone : ∀ line ∈ lines x, '\n' ∉ line ∧ '\r' ∉ line := fun line hline =>
    ⟨newline_not_mem_of_mem_lines hline, fun hmem => hx (mem_of_mem_lines hline hmem)⟩
  generalize lines x = ls, lines y = ls' at hlines hnone
  induction hlines with
  | nil => rfl
  | @cons line line' ls ls' hline rest ih =>
      rw [List.forall_mem_cons] at hnone
      obtain ⟨⟨hnewline, hreturn⟩, hrest⟩ := hnone
      -- A line counts as a header, as a hidden one or not at all.
      have hone : (if Vocabulary.blockHeader.isLine line' then 1 else 0) +
          (if isHiddenHeader line' then 1 else 0) =
            if Vocabulary.blockHeader.isLine line then 1 else 0 := by
        rcases hline with rfl | rfl
        · rw [isHiddenHeader_eq_false hreturn]
          rfl
        · have hlost : Vocabulary.blockHeader.isLine (line ++ ['\r']) = false := by
            rw [← Bool.not_eq_true, isLine_blockHeader (by simp [hnewline]),
              isHeader_append_iff (by decide)]
            exact fun hheader => absurd hheader.2 (by decide)
          rw [hlost, isHiddenHeader_append, if_neg (by decide), Nat.zero_add]
      have hall := ih hrest
      rw [List.countP_cons, List.countP_cons, List.countP_cons]
      omega

/-! ## Scores -/

/-- All that comes into a stripped text from outside are placeholders and blanks. -/
theorem mem_of_mem_stripped {source : List Char} (h : c ∈ stripped source) :
    c ∈ source ∨ c ∈ ['"', ' ', '\n'] := by
  obtain ⟨r, hr, hc⟩ := List.mem_flatMap.1 h
  cases r with
  | code d =>
      have hmem : c ∈ (regions source).flatMap Region.text := List.mem_flatMap.2 ⟨.code d, hr, hc⟩
      rw [regions, flatMap_text_regionsFrom] at hmem
      exact .inl hmem
  | literal t =>
      have hplaceholder : ∀ c ∈ placeholder, c ∈ ['"', ' ', '\n'] := by simp [placeholder]
      exact .inr (hplaceholder c hc)
  | lineComment t => cases hc
  | blockComment t =>
      obtain ⟨hspace, -⟩ | ⟨⟨n, hnewlines⟩, -⟩ := rendered_blockComment t
      · rw [hspace] at hc
        simp [List.mem_singleton.1 hc]
      · rw [hnewlines] at hc
        simp [List.eq_of_mem_replicate hc]

theorem Scores.python_ofStripped (text : List Char) :
    (Scores.ofStripped text).python =
      ((tokens text).countP fun t => Language.python.credits t.text) +
        (Vocabulary.bareAssignment.count text + Vocabulary.blockHeader.count text) := by
  have hpoints := Scores.get_ofStripped text .python
  rw [Language.points, Language.occurrences_eq_countIdioms] at hpoints
  exact hpoints.trans (congrArg _ (countIdioms_python text))

namespace Returns

/-- A language none of whose idioms looks at lines keeps its points. -/
theorem points_eq (h : Returns x y) (l : Language)
    (hfree : ∀ i ∈ l.vocabulary.idioms, Idiom.isFree i = true) : l.points y = l.points x := by
  have hidioms : l.vocabulary.countIdioms y = l.vocabulary.countIdioms x :=
    Vocabulary.countIdioms_congr fun i hi =>
      h.count_eq (hfree i hi) (isElastic_of_mem_idioms l i hi) (l.coversSome_of_mem_idioms i hi)
  rw [Language.points, Language.points, Language.occurrences_eq_countIdioms,
    Language.occurrences_eq_countIdioms, h.tokens_eq, hidioms]

theorem java_eq (h : Returns x y) : (Scores.ofStripped y).java = (Scores.ofStripped x).java := by
  have hy := Scores.get_ofStripped y .java
  have hx := Scores.get_ofStripped x .java
  exact hy.trans ((h.points_eq .java isFree_of_mem_java).trans hx.symm)

theorem cpp_eq (h : Returns x y) : (Scores.ofStripped y).cpp = (Scores.ofStripped x).cpp := by
  have hy := Scores.get_ofStripped y .cpp
  have hx := Scores.get_ofStripped x .cpp
  exact hy.trans ((h.points_eq .cpp isFree_of_mem_cpp).trans hx.symm)

theorem python_add (h : Returns x y) (hx : '\r' ∉ x) :
    (Scores.ofStripped y).python + (lines y).countP isHiddenHeader =
      (Scores.ofStripped x).python := by
  have hheaders := h.count_blockHeader_add hx
  rw [Scores.python_ofStripped, Scores.python_ofStripped, h.tokens_eq, h.count_bareAssignment_eq]
  omega

theorem ofStripped_eq_iff (h : Returns x y) (hx : '\r' ∉ x) :
    Scores.ofStripped y = Scores.ofStripped x ↔
      ∀ header, IsHeader header → header ++ ['\r'] ∉ lines y := by
  have hadd := h.python_add hx
  have hsame : Scores.ofStripped y = Scores.ofStripped x ↔
      (lines y).countP isHiddenHeader = 0 := by
    rw [Scores.mk.injEq, h.java_eq, h.cpp_eq]
    constructor
    · rintro ⟨hpython, -, -⟩
      omega
    · intro hzero
      exact ⟨by omega, rfl, rfl⟩
  rw [hsame, List.countP_eq_zero]
  constructor
  · intro hnone header hheader hmem
    exact hnone _ hmem ((isHiddenHeader_iff (newline_not_mem_of_mem_lines hmem)).2
      ⟨header, hheader, rfl⟩)
  · intro hnone line hmem hhidden
    obtain ⟨header, hheader, rfl⟩ :=
      (isHiddenHeader_iff (newline_not_mem_of_mem_lines hmem)).1 hhidden
    exact hnone header hheader hmem

end Returns

/-- With a carriage return before each newline a source has the same tokens when it is stripped, and
    the same points for all languages but the one whose blocks are opened by a colon: this one loses
    a point for each header that ends in a carriage return. -/
theorem carriage_returns_hide_headers (source : List Char) (hreturn : '\r' ∉ source)
    (hnone : NoneContinued (regions source)) :
    tokens (stripped (withReturns source)) = tokens (stripped source) ∧
      (Scores.ofSource (withReturns source)).java = (Scores.ofSource source).java ∧
      (Scores.ofSource (withReturns source)).cpp = (Scores.ofSource source).cpp ∧
      (Scores.ofSource (withReturns source)).python +
          (lines (stripped (withReturns source))).countP isHiddenHeader =
        (Scores.ofSource source).python ∧
      (Scores.ofSource (withReturns source) = Scores.ofSource source ↔
        ∀ header, IsHeader header → header ++ ['\r'] ∉ lines (stripped (withReturns source))) := by
  have hstripped : Returns (stripped source) (stripped (withReturns source)) :=
    Returns.rendered true source _ (returns_withReturns source) hnone
  have hx : '\r' ∉ stripped source := by
    intro hmem
    rcases mem_of_mem_stripped hmem with hmem | hmem
    · exact hreturn hmem
    · exact absurd hmem (by decide)
  exact ⟨hstripped.tokens_eq, hstripped.java_eq, hstripped.cpp_eq, hstripped.python_add hx,
    hstripped.ofStripped_eq_iff hx⟩

/-- Of two headers the first is followed by a comment, which takes the carriage return with it. -/
theorem carriage_returns_hide_headers_second :
    let source := ['"', '"', '"', '\n', '"', '"', '"', '\n', 'i', 'f', ' ', 'x', ':', '#', '\n',
      'i', 'f', ' ', 'y', ':', '\n']
    '\r' ∉ source ∧ NoneContinued (regions source) ∧
      (Scores.ofSource (withReturns source)).python + 1 = (Scores.ofSource source).python := by
  intro source
  have hreturn : '\r' ∉ source := by decide
  have hregions : regions source = .literal ['"', '"', '"', '\n', '"', '"', '"'] :: .code '\n' ::
      ['i', 'f', ' ', 'x', ':'].map .code ++ .lineComment ['#'] :: .code '\n' ::
      ['i', 'f', ' ', 'y', ':', '\n'].map .code := by
    decide +kernel
  have hnone : NoneContinued (regions source) := by
    intro t ht _
    rw [hregions] at ht
    obtain rfl : t = ['"', '"', '"', '\n', '"', '"', '"'] := by simpa using ht
    exact ⟨'"', by decide⟩
  have hone : (lines (stripped (withReturns source))).countP isHiddenHeader = 1 := by
    cbv
  have hadd := (carriage_returns_hide_headers source hreturn hnone).2.2.2.1
  rw [hone] at hadd
  exact ⟨hreturn, hnone, hadd⟩

/-- The guess can be lost with a header. -/
theorem guess_lost_with_header :
    '\r' ∉ ['i', 'f', ' ', 'n', 'e', 'w', ':', '\n'] ∧
      Scores.ofSource ['i', 'f', ' ', 'n', 'e', 'w', ':', '\n'] = ⟨2, 1, 0⟩ ∧
      Scores.ofSource (withReturns ['i', 'f', ' ', 'n', 'e', 'w', ':', '\n']) = ⟨1, 1, 0⟩ ∧
      detect (String.ofList ['i', 'f', ' ', 'n', 'e', 'w', ':', '\n']) = .found .python ∧
      detect (String.ofList (withReturns ['i', 'f', ' ', 'n', 'e', 'w', ':', '\n'])) =
        .undetected := by
  have hscores : Scores.ofSource ['i', 'f', ' ', 'n', 'e', 'w', ':', '\n'] = ⟨2, 1, 0⟩ := by
    cbv
  have hscores' : Scores.ofSource (withReturns ['i', 'f', ' ', 'n', 'e', 'w', ':', '\n']) =
      ⟨1, 1, 0⟩ := by
    cbv
  refine ⟨by decide, hscores, hscores', ?_, ?_⟩
  · rw [detect, String.toList_ofList, hscores]
    rfl
  · rw [detect, String.toList_ofList, hscores']
    rfl

end Playground.Source
