import Mathlib
import Playground.Proofs.Source.Hash
import Playground.Proofs.Source.Stable

set_option autoImplicit false

/-! # Spaces between a hash and its name

A `#` opens a directive whether its name follows at once or after spaces and tabs, and these stay
where they are when a source is stripped (`KeepsHash.stripped_eq`). They part the hash from the name
for all that comes after, as any other blanks do: how many there are makes no difference, and on the
line of a directive an assignment or a header is one with them and without.

It makes a difference whether there are any. Three names are one token with the hash before them,
and the inclusion of a header is an idiom, but only if nothing stands between. -/

namespace Playground.Source

open Playground.Text

variable {c : Char} {cs a b z front rest left v v' w w' name : List Char} {lineStart : Bool}

/-! ## Spaces and words -/

theorem eq_of_isSpaceOrTab (h : isSpaceOrTab c = true) : c = ' ' ∨ c = '\t' := by
  simpa [isSpaceOrTab] using h

/-- One space, the plainest way to part a hash from its name. -/
theorem spaces_one : ∀ c ∈ [' '], isSpaceOrTab c = true :=
  List.forall_mem_singleton.2 rfl

theorem isBlank_of_isSpaceOrTab (h : isSpaceOrTab c = true) : isBlank c = true := by
  rcases eq_of_isSpaceOrTab h with rfl | rfl <;> decide

theorem not_mem_of_spaces (hw : ∀ c ∈ w, isSpaceOrTab c = true) (hc : isSpaceOrTab c = false) :
    c ∉ w := by
  intro hmem
  rw [hw c hmem] at hc
  cases hc

theorem not_mem_of_word (hname : ∀ c ∈ name, isWord c = true) (hc : isWord c = false) :
    c ∉ name := by
  intro hmem
  rw [hname c hmem] at hc
  cases hc

theorem IsIdentifier.isWord (h : IsIdentifier name) : ∀ c ∈ name, Text.isWord c = true := by
  cases name with
  | nil => exact h.elim
  | cons c cs => exact List.forall_mem_cons.2 ⟨isWord_of_isWordStart h.1, h.2⟩

/-! ## Directives in a stripped text -/

/-- The reader comes to a `#` after `front`, with `rest` after it, and keeps it. -/
def KeepsHash (front rest : List Char) : Prop :=
  ∃ before after, regions (front ++ '#' :: rest) = before ++ .code '#' :: after ∧
    before.flatMap Region.text = front

theorem KeepsHash.reaches (h : KeepsHash front v) : Reaches (front ++ '#' :: v) front := by
  obtain ⟨before, after, hregions, hbefore⟩ := h
  exact ⟨before, .code '#' :: after, hregions, hbefore⟩

/-- A `#` that is kept is the first on its line and opens a directive. -/
theorem KeepsHash.opens (h : KeepsHash front v) :
    lineStartAfter true (regions front) = true ∧ opensDirective v = true := by
  obtain ⟨before, after, hregions, hbefore⟩ := h
  have hafter := regionsFrom_after hregions hbefore
  rw [regionsFrom_cons, List.cons.injEq] at hafter
  rw [regions_eq_before hregions hbefore (replaceable_hash v)]
  obtain ⟨t, rest, hfirst⟩ | ⟨t, hfirst⟩ | ⟨t, rest, hfirst⟩ | hfirst :=
    Region.first_cases (lineStartAfter true before) '#' v
  · rw [hfirst] at hafter
    cases hafter.1
  · rw [hfirst] at hafter
    cases hafter.1
  · rw [hfirst] at hafter
    cases hafter.1
  · obtain ⟨-, -, -, hhash⟩ := Region.first_eq_code_iff.1 hfirst
    simpa using hhash

/-- What follows the `#` can be replaced by what opens a directive as well. -/
theorem KeepsHash.replace (h : KeepsHash front v) (hv' : opensDirective v' = true) :
    KeepsHash front v' := by
  have hregions := h.reaches.regions_append (replaceable_hash v')
  rw [h.opens.1, regionsFrom_directive hv'] at hregions
  exact ⟨regions front, regionsFrom false v', hregions, flatMap_text_regionsFrom true front⟩

theorem KeepsHash.stripped_eq (h : KeepsHash front v) :
    stripped (front ++ '#' :: v) = stripped front ++ '#' :: renderedFrom false v := by
  rw [h.reaches.stripped_append (replaceable_hash v), h.opens.1, renderedFrom,
    regionsFrom_directive h.opens.2]
  rfl

theorem opensDirective_append_of_spaces (hw : ∀ c ∈ w, isSpaceOrTab c = true) (rest : List Char) :
    opensDirective (w ++ rest) = opensDirective rest := by
  unfold opensDirective
  rw [List.dropWhile_append_of_pos hw]

theorem renderedFrom_append_of_plain (hw : ∀ c ∈ w, IsPlain c ∧ c ≠ '\n') (rest : List Char) :
    renderedFrom false (w ++ rest) = w ++ renderedFrom false rest := by
  induction w with
  | nil => rfl
  | cons c w ih =>
      rw [List.forall_mem_cons] at hw
      have hstays : (Region.code c).lineStart false = false := by simp [Region.lineStart, hw.1.2]
      rw [List.cons_append, hw.1.1.renderedFrom_cons, hstays, ih hw.2, List.cons_append]

theorem renderedFrom_append_of_spaces (hw : ∀ c ∈ w, isSpaceOrTab c = true) (rest : List Char) :
    renderedFrom false (w ++ rest) = w ++ renderedFrom false rest := by
  refine renderedFrom_append_of_plain (fun c hc => ⟨?_, ?_⟩) rest
  · exact isPlain_of_isBlank (isBlank_of_isSpaceOrTab (hw c hc))
  · rintro rfl
    exact not_mem_of_spaces hw (by decide) hc

theorem isWord_of_mem_joinedNames (h : name ∈ joinedNames) : ∀ c ∈ name, isWord c = true := by
  have htable : ∀ name ∈ joinedNames, name.all isWord = true := by decide
  exact List.all_eq_true.1 (htable name h)

theorem renderedFrom_append_of_word (hname : ∀ c ∈ name, isWord c = true) (rest : List Char) :
    renderedFrom false (name ++ rest) = name ++ renderedFrom false rest := by
  refine renderedFrom_append_of_plain (fun c hc => ⟨isPlain_of_isWord (hname c hc), ?_⟩) rest
  rintro rfl
  exact not_mem_of_word hname (by decide) hc

/-- A word that a stripped text begins with stood there before. -/
theorem prefix_of_prefix_renderedFrom (hname : ∀ c ∈ name, isWord c = true)
    (h : name <+: renderedFrom lineStart cs) : name <+: cs := by
  induction name generalizing lineStart cs with
  | nil => exact List.nil_prefix
  | cons c name ih =>
      rw [List.forall_mem_cons] at hname
      obtain ⟨left, hleft⟩ := h
      have hhead := head?_renderedFrom lineStart cs c (by rw [← hleft]; rfl)
      have hne : c ≠ ' ' ∧ c ≠ '\n' := by
        constructor <;> rintro rfl <;> exact absurd hname.1 (by decide)
      obtain ⟨cs, rfl⟩ := List.head?_eq_some_iff.1
        ((hhead.resolve_right fun h => h.elim hne.1 hne.2))
      rw [(isPlain_of_isWord hname.1).renderedFrom_cons] at hleft
      exact List.cons_prefix_cons.2 ⟨rfl, ih hname.2 ⟨left, (List.cons.inj hleft).2⟩⟩

/-! ## The line of a directive -/

theorem lines_append_of_not_mem (h : '\n' ∉ front) (rest : List Char) :
    lines (front ++ rest) = (lines rest).modifyHead (front ++ ·) := by
  induction front with
  | nil =>
      rw [List.nil_append]
      cases lines rest <;> rfl
  | cons c front ih =>
      rw [List.mem_cons, not_or] at h
      rw [List.cons_append, lines_cons (Ne.symm h.1), ih h.2]
      cases lines rest <;> rfl

/-- What is inserted between two texts stands on one line, if it has no newline. -/
theorem exists_lines_around (front rest : List Char) :
    ∃ above before after below, ∀ line, '\n' ∉ line →
      lines (front ++ (line ++ rest)) = above ++ (before ++ (line ++ after)) :: below := by
  induction front using lines_induction with
  | line front hfront =>
      cases hlines : lines rest with
      | nil => exact absurd hlines (List.splitOn_ne_nil '\n' rest)
      | cons after below =>
          refine ⟨[], front, after, below, fun line hline => ?_⟩
          rw [lines_append_of_not_mem hfront, lines_append_of_not_mem hline, hlines]
          rfl
  | more line front hline ih =>
      obtain ⟨above, before, after, below, hlines⟩ := ih
      refine ⟨line :: above, before, after, below, fun inserted hinserted => ?_⟩
      rw [List.append_assoc, List.cons_append, lines_append, lines_of_not_mem hline,
        hlines inserted hinserted]
      rfl

/-- A character that is not in the first part of a text comes after it. -/
theorem exists_of_append_eq_append_cons {x y : List Char} (h : x ++ y = a ++ c :: z)
    (hx : c ∉ x) : ∃ between, a = x ++ between ∧ y = between ++ c :: z := by
  rcases List.append_eq_append_iff.1 h with ⟨between, rfl, rfl⟩ | ⟨between, rfl, hz⟩
  · exact ⟨between, rfl, rfl⟩
  · cases between with
    | nil => exact ⟨[], by simp, hz.symm⟩
    | cons d between =>
        obtain ⟨rfl, -⟩ := List.cons.inj hz
        exact absurd (List.mem_append_right a List.mem_cons_self) hx

/-- A `#` in an assignment is in its value. -/
theorem IsAssignment.respell (h : IsAssignment (a ++ '#' :: (w ++ b)))
    (hw' : ∀ c ∈ w', isSpaceOrTab c = true) : IsAssignment (a ++ '#' :: (w' ++ b)) := by
  obtain ⟨indent, name, gap, value, heq, hindent, hname, hgap, hvalue⟩ := h
  have hfront : '#' ∉ indent ++ name ++ gap ++ ['='] := by
    have hword : isWord '#' = false := by decide
    have hspace : isSpaceOrTab '#' = false := by decide
    simp [not_mem_of_spaces hindent hspace, not_mem_of_word hname.isWord hword,
      not_mem_of_spaces hgap hspace]
  have hline : (indent ++ name ++ gap ++ ['=']) ++ value = a ++ '#' :: (w ++ b) := by
    rw [heq, List.append_assoc _ ['=']]
    rfl
  obtain ⟨between, rfl, rfl⟩ := exists_of_append_eq_append_cons hline hfront
  refine ⟨indent, name, gap, between ++ '#' :: (w' ++ b), by simp, hindent, hname, hgap, ?_⟩
  simp only [List.forall_mem_append, List.forall_mem_cons] at hvalue ⊢
  refine ⟨hvalue.1, hvalue.2.1, fun c hc => ?_, hvalue.2.2.2⟩
  rcases eq_of_isSpaceOrTab (hw' c hc) with rfl | rfl <;> decide

/-- A `#` in the header of a block is between its keyword and the colon. -/
theorem IsHeader.respell (hw : ∀ c ∈ w, isSpaceOrTab c = true)
    (h : IsHeader (a ++ '#' :: (w ++ b))) (hw' : ∀ c ∈ w', isSpaceOrTab c = true) :
    IsHeader (a ++ '#' :: (w' ++ b)) := by
  obtain ⟨indent, keyword, rest, tail, heq, hindent, hkeyword, hnext, hrest, htail⟩ := h
  have hspace : isSpaceOrTab '#' = false := by decide
  have hkeywords : ∀ keyword ∈ Vocabulary.headerKeywords, '#' ∉ keyword.toList := by decide
  have hfront : '#' ∉ indent ++ keyword.toList := by
    simp [not_mem_of_spaces hindent hspace, hkeywords keyword hkeyword]
  have hline : (indent ++ keyword.toList) ++ (rest ++ ':' :: tail) = a ++ '#' :: (w ++ b) := by
    rw [heq, List.append_assoc _ rest]
  obtain ⟨between, rfl, hbetween⟩ := exists_of_append_eq_append_cons hline hfront
  -- The spaces are a part of what comes before the last colon.
  obtain ⟨left, rfl, rfl⟩ : ∃ left, rest = between ++ '#' :: (w ++ left) ∧
      b = left ++ ':' :: tail := by
    rcases List.append_eq_append_iff.1 hbetween with ⟨more, rfl, hcolon⟩ | ⟨more, rfl, hhash⟩
    · have hmem : '#' ∈ ':' :: tail := hcolon ▸ List.mem_append_right more List.mem_cons_self
      exact absurd hmem (by simp [not_mem_of_spaces htail hspace])
    · cases more with
      | nil => cases hhash
      | cons d more =>
          obtain ⟨rfl, hspaces⟩ := List.cons.inj hhash
          have hcolon : ':' ∉ w := not_mem_of_spaces hw (by decide)
          obtain ⟨left, rfl, rfl⟩ := exists_of_append_eq_append_cons hspaces hcolon
          exact ⟨left, rfl, rfl⟩
  refine ⟨indent, keyword, between ++ '#' :: (w' ++ left), tail, by simp, hindent, hkeyword, ?_, ?_,
    htail⟩
  · cases between <;> exact hnext
  · simp only [List.forall_mem_append, List.forall_mem_cons] at hrest ⊢
    refine ⟨hrest.1, hrest.2.1, fun c hc => ?_, hrest.2.2.2⟩
    rcases eq_of_isSpaceOrTab (hw' c hc) with rfl | rfl <;> decide

/-- With other spaces after the `#`, a line is an assignment or a header if it was one. -/
theorem isLine_respell {i : Idiom} (hi : i ∈ Vocabulary.python.idioms)
    (hline : '\n' ∉ a ++ '#' :: (w ++ b)) (hw : ∀ c ∈ w, isSpaceOrTab c = true)
    (hw' : ∀ c ∈ w', isSpaceOrTab c = true) (h : i.isLine (a ++ '#' :: (w ++ b)) = true) :
    i.isLine (a ++ '#' :: (w' ++ b)) = true := by
  have hline' : '\n' ∉ a ++ '#' :: (w' ++ b) := by
    have hspaces : '\n' ∉ w' := not_mem_of_spaces hw' (by decide)
    simp_all
  rcases List.mem_pair.1 hi with rfl | rfl
  · exact (isLine_bareAssignment hline').2 (((isLine_bareAssignment hline).1 h).respell hw')
  · exact (isLine_blockHeader hline').2 (((isLine_blockHeader hline).1 h).respell hw hw')

theorem count_respell {i : Idiom} (hi : i ∈ Vocabulary.python.idioms)
    (hw : ∀ c ∈ w, isSpaceOrTab c = true) (hw' : ∀ c ∈ w', isSpaceOrTab c = true)
    (front rest : List Char) :
    i.count (front ++ '#' :: (w ++ rest)) = i.count (front ++ '#' :: (w' ++ rest)) := by
  obtain ⟨hwhole, hcovers⟩ : i.isWholeLine = true ∧ i.coversSome = true := by
    revert i
    decide
  obtain ⟨above, before, after, below, haround⟩ := exists_lines_around front rest
  have hlines : ∀ u : List Char, (∀ c ∈ u, isSpaceOrTab c = true) →
      lines (front ++ '#' :: (u ++ rest)) = above ++ (before ++ '#' :: (u ++ after)) :: below := by
    refine fun u hu => haround ('#' :: u) (List.not_mem_cons_of_ne_of_not_mem (by decide) ?_)
    exact not_mem_of_spaces hu (by decide)
  have hline : ∀ u : List Char, (∀ c ∈ u, isSpaceOrTab c = true) →
      '\n' ∉ before ++ '#' :: (u ++ after) := by
    intro u hu
    have hmem : before ++ '#' :: (u ++ after) ∈ lines (front ++ '#' :: (u ++ rest)) := by
      rw [hlines u hu]
      exact List.mem_append_right above List.mem_cons_self
    exact newline_not_mem_of_mem_lines hmem
  have hsame : i.isLine (before ++ '#' :: (w ++ after)) =
      i.isLine (before ++ '#' :: (w' ++ after)) :=
    Bool.eq_iff_iff.2
      ⟨isLine_respell hi (hline w hw) hw hw', isLine_respell hi (hline w' hw') hw' hw⟩
  rw [Idiom.count_eq_countP hwhole hcovers, Idiom.count_eq_countP hwhole hcovers, hlines w hw,
    hlines w' hw', List.countP_append, List.countP_append, List.countP_cons, List.countP_cons,
    hsame]

/-! ## The points of a directive -/

/-- The hash and what follows it are not one token. -/
def StandsApart (w rest : List Char) : Prop :=
  w ≠ [] ∨ ∀ name ∈ joinedNames, ¬ name <+: rest

theorem standsApart_space (rest : List Char) : StandsApart [' '] rest :=
  .inl (List.cons_ne_nil ' ' [])

theorem tokens_hash_apart (hw : ∀ c ∈ w, isSpaceOrTab c = true) (h : StandsApart w rest) :
    tokens ('#' :: (w ++ rest)) = ⟨.symbol, ['#']⟩ :: tokens rest := by
  by_cases hne : w = []
  · subst hne
    exact tokens_hash_other (h.resolve_left fun h => h rfl)
  · exact tokens_hash_of_blank hne (fun c hc => isBlank_of_isSpaceOrTab (hw c hc)) rest

theorem not_isInclusion_apart (hw : ∀ c ∈ w, isSpaceOrTab c = true) (h : StandsApart w rest) :
    ¬ IsInclusion (w ++ rest) := by
  by_cases hne : w = []
  · subst hne
    exact fun his => h.resolve_left (fun h => h rfl) _ (by decide) his.prefix
  · exact IsInclusion.not_of_blank hne fun c hc => isBlank_of_isSpaceOrTab (hw c hc)

/-- The idioms that have no `#` and do not look at lines. -/
theorem count_apart {i : Idiom}
    (hi : i ∈ Vocabulary.java.idioms ++ Vocabulary.cpp.idioms.erase Vocabulary.headerInclusion)
    (hw : ∀ c ∈ w, isSpaceOrTab c = true) (front rest : List Char) :
    i.count (front ++ '#' :: (w ++ rest)) = i.count front + i.count rest := by
  obtain ⟨hfree, hrefuses, hstops, hcovers⟩ : i.isFree = true ∧ i.refusesHash = true ∧
      i.stopsAtHash = true ∧ i.coversSome = true := by
    revert i
    decide
  exact Idiom.count_hash hfree hrefuses hstops hcovers
    (fun c hc => isBlank_of_isSpaceOrTab (hw c hc)) front rest

theorem occurrences_cpp (text : List Char) :
    Language.cpp.occurrences text = Vocabulary.standardName.count text +
      Vocabulary.headerInclusion.count text + Vocabulary.mainFunction.count text +
        Vocabulary.usingNamespace.count text := by
  rw [Language.occurrences_eq_countIdioms]
  simp [Language.vocabulary, Vocabulary.countIdioms, Vocabulary.cpp]

theorem count_headerInclusion_spaces (hw : ∀ c ∈ w, isSpaceOrTab c = true)
    (front rest : List Char) :
    Vocabulary.headerInclusion.count (front ++ '#' :: (w ++ rest)) =
      Vocabulary.headerInclusion.count front + Vocabulary.headerInclusion.count rest +
        if IsInclusion (w ++ rest) then 1 else 0 := by
  rw [count_headerInclusion, Idiom.count_append_of_blank (by decide)
    fun c hc => isBlank_of_isSpaceOrTab (hw c hc)]

/-- Of all idioms only the inclusion of a header can tell how many spaces there are. -/
theorem occurrences_hash (hw : ∀ c ∈ w, isSpaceOrTab c = true) (l : Language)
    (front rest : List Char) :
    l.occurrences (front ++ '#' :: (w ++ rest)) =
      l.occurrences (front ++ '#' :: ([' '] ++ rest)) +
        if l = .cpp ∧ IsInclusion (w ++ rest) then 1 else 0 := by
  have hother : ∀ i ∈ Vocabulary.java.idioms ++
        Vocabulary.cpp.idioms.erase Vocabulary.headerInclusion,
      i.count (front ++ '#' :: (w ++ rest)) = i.count (front ++ '#' :: ([' '] ++ rest)) := by
    intro i hi
    rw [count_apart hi hw, count_apart hi spaces_one]
  cases l with
  | python =>
      rw [if_neg (fun h => nomatch h.1), Language.occurrences_eq_countIdioms,
        Language.occurrences_eq_countIdioms]
      exact Vocabulary.countIdioms_congr fun i hi => count_respell hi hw spaces_one front rest
  | java =>
      rw [if_neg (fun h => nomatch h.1), Language.occurrences_eq_countIdioms,
        Language.occurrences_eq_countIdioms]
      exact Vocabulary.countIdioms_congr fun i hi => hother i (List.mem_append_left _ hi)
  | cpp =>
      have hnot : ¬ IsInclusion ([' '] ++ rest) :=
        not_isInclusion_apart spaces_one (standsApart_space rest)
      rw [occurrences_cpp, occurrences_cpp, hother Vocabulary.standardName (by decide),
        hother Vocabulary.mainFunction (by decide), hother Vocabulary.usingNamespace (by decide),
        count_headerInclusion_spaces hw, count_headerInclusion_spaces spaces_one, if_neg hnot]
      simp only [true_and]
      omega

theorem points_apart (hw : ∀ c ∈ w, isSpaceOrTab c = true) (h : StandsApart w rest) (l : Language)
    (front : List Char) :
    l.points (front ++ '#' :: (w ++ rest)) = l.points (front ++ '#' :: ([' '] ++ rest)) := by
  have hnot : ¬(l = .cpp ∧ IsInclusion (w ++ rest)) := fun h' => not_isInclusion_apart hw h h'.2
  rw [Language.points, Language.points, occurrences_hash hw, if_neg hnot, Nat.add_zero,
    tokens_append_hash, tokens_append_hash, tokens_hash_apart hw h,
    tokens_hash_apart spaces_one (standsApart_space _)]

/-- A name that is one token with its hash is a point for one language, if it follows at once. -/
theorem points_together (hname : name ∈ joinedNames) (l : Language) (front left : List Char) :
    l.points (front ++ '#' :: (name ++ left)) +
        ((tokens (name ++ left)).countP fun t => l.credits t.text) =
      l.points (front ++ '#' :: ([' '] ++ (name ++ left))) +
        ((tokens left).countP fun t => l.credits t.text) +
          if l = .cpp then 1 + (if IsInclusion (name ++ left) then 1 else 0) else 0 := by
  have hjoined : ∀ name ∈ joinedNames, ∀ l : Language,
      l.credits ('#' :: name) = decide (l = .cpp) ∧ l.credits ['#'] = false := by
    rintro name hname (_ | _ | _) <;> revert name <;> decide +kernel
  obtain ⟨hcredits, hhash⟩ := hjoined name hname l
  have hoccurrences := occurrences_hash (w := []) (by simp) l front (name ++ left)
  rw [List.nil_append] at hoccurrences
  rw [Language.points, Language.points, hoccurrences, tokens_append_hash, tokens_append_hash,
    tokens_hash_apart spaces_one (standsApart_space _), tokens_hash_name hname]
  simp only [List.countP_append, List.countP_cons, hcredits, hhash, decide_eq_true_eq,
    Bool.false_eq_true, if_false]
  by_cases hl : l = .cpp
  · simp only [hl, true_and, if_true]
    omega
  · simp only [hl, false_and, if_false]
    omega

/-! ## Spellings of a directive -/

theorem splitChain_append_of_word (hcs : ∀ c ∈ cs, isWord c = true) (rest : List Char) :
    splitChain (cs ++ rest) = (cs ++ (splitChain rest).1, (splitChain rest).2) := by
  induction cs with
  | nil => rfl
  | cons c cs ih =>
      rw [List.forall_mem_cons] at hcs
      rw [List.cons_append, splitChain_cons hcs.1, ih hcs.2]
      rfl

/-- A name with neither a word character nor a colon after it is a word. -/
theorem tokens_append_of_name (hname : name ∈ joinedNames)
    (hleft : ∀ y ∈ left.head?, isWord y = false ∧ y ≠ ':') :
    tokens (name ++ left) = ⟨.word, name⟩ :: tokens left := by
  have hstart : ∀ name ∈ joinedNames, name.head?.any isWordStart = true := by decide
  obtain ⟨c, hc, hstart⟩ := (Option.any_eq_true _ _).1 (hstart name hname)
  obtain ⟨cs, rfl⟩ := List.head?_eq_some_iff.1 hc
  have hword := (List.forall_mem_cons.1 (isWord_of_mem_joinedNames hname)).2
  have hstop : splitChain left = ([], left) := by
    cases left with
    | nil => rfl
    | cons y left =>
        obtain ⟨hy, hcolon⟩ := hleft y rfl
        rw [splitChain.eq_def]
        simp [hy, hcolon]
  have hfirst : Token.first c (cs ++ left) = (⟨.word, c :: cs⟩, left) := by
    unfold Token.first
    rw [if_pos hstart, splitChain_append_of_word hword, hstop, List.append_nil]
  rw [List.cons_append, tokens_cons (isBlank_of_isWord (isWord_of_isWordStart hstart)), hfirst]

theorem Scores.eq_of_get {s s' : Scores} (h : ∀ l, s.get l = s'.get l) : s = s' := by
  have hpython := h .python
  have hjava := h .java
  have hcpp := h .cpp
  cases s
  cases s'
  simp_all [Scores.get]

theorem StandsApart.rendered (h : StandsApart w rest) :
    StandsApart w (renderedFrom false rest) := by
  refine h.imp id fun h name hname hprefix => h name hname ?_
  exact prefix_of_prefix_renderedFrom (isWord_of_mem_joinedNames hname) hprefix

/-- With other spaces after it, a `#` that is kept is kept. -/
theorem KeepsHash.respell (h : KeepsHash front (w ++ rest)) (hw : ∀ c ∈ w, isSpaceOrTab c = true)
    (hw' : ∀ c ∈ w', isSpaceOrTab c = true) : KeepsHash front (w' ++ rest) := by
  have hopens := h.opens.2
  rw [opensDirective_append_of_spaces hw] at hopens
  exact h.replace (by rwa [opensDirective_append_of_spaces hw'])

theorem KeepsHash.get_ofSource (h : KeepsHash front (w ++ rest))
    (hw : ∀ c ∈ w, isSpaceOrTab c = true) (l : Language) :
    (Scores.ofSource (front ++ '#' :: (w ++ rest))).get l =
      l.points (stripped front ++ '#' :: (w ++ renderedFrom false rest)) := by
  rw [Scores.ofSource, h.stripped_eq, renderedFrom_append_of_spaces hw, Scores.get_ofStripped]

/-- Two spellings in which the hash stands apart. -/
theorem KeepsHash.ofSource_eq (h : KeepsHash front (w ++ rest))
    (hw : ∀ c ∈ w, isSpaceOrTab c = true) (hw' : ∀ c ∈ w', isSpaceOrTab c = true)
    (hapart : StandsApart w rest) (hapart' : StandsApart w' rest) :
    Scores.ofSource (front ++ '#' :: (w ++ rest)) =
      Scores.ofSource (front ++ '#' :: (w' ++ rest)) := by
  refine Scores.eq_of_get fun l => ?_
  rw [h.get_ofSource hw, (h.respell hw hw').get_ofSource hw', points_apart hw hapart.rendered,
    points_apart hw' hapart'.rendered]

/-- A spelling in which the hash is one token with its name, and one in which it stands apart. -/
theorem KeepsHash.get_ofSource_joined (h : KeepsHash front (name ++ left))
    (hname : name ∈ joinedNames) (hw : ∀ c ∈ w, isSpaceOrTab c = true) (hne : w ≠ [])
    (l : Language) :
    (Scores.ofSource (front ++ '#' :: (name ++ left))).get l +
        ((tokens (renderedFrom false (name ++ left))).countP fun t => l.credits t.text) =
      (Scores.ofSource (front ++ '#' :: (w ++ (name ++ left)))).get l +
        ((tokens (renderedFrom false left)).countP fun t => l.credits t.text) +
          if l = .cpp then 1 + (if IsInclusion (renderedFrom false (name ++ left)) then 1 else 0)
          else 0 := by
  have hnil : ∀ c ∈ ([] : List Char), isSpaceOrTab c = true := List.forall_mem_nil _
  have hjoined := @KeepsHash.get_ofSource front (name ++ left) [] h hnil l
  have hkept := @KeepsHash.respell front (name ++ left) [] w h hnil hw
  rw [List.nil_append, List.nil_append] at hjoined
  rw [hjoined, hkept.get_ofSource hw, points_apart hw (.inl hne),
    renderedFrom_append_of_word (isWord_of_mem_joinedNames hname)]
  exact points_together hname l (stripped front) (renderedFrom false left)

/-- If the name is a whole identifier, the tokens after it are the same in both spellings. -/
theorem KeepsHash.ofSource_joined (h : KeepsHash front (name ++ left)) (hname : name ∈ joinedNames)
    (hw : ∀ c ∈ w, isSpaceOrTab c = true) (hne : w ≠ [])
    (hleft : ∀ y ∈ left.head?, isWord y = false ∧ y ≠ ':') :
    Scores.ofSource (front ++ '#' :: (name ++ left)) =
      (Scores.ofSource (front ++ '#' :: (w ++ (name ++ left)))).credit
        (1 + if IsInclusion (renderedFrom false (name ++ left)) then 1 else 0) .cpp := by
  refine Scores.eq_of_get fun l => ?_
  have hnext : ∀ y ∈ (renderedFrom false left).head?, isWord y = false ∧ y ≠ ':' := by
    intro y hy
    rcases head?_renderedFrom false left y hy with hy | rfl | rfl
    · exact hleft y hy
    · decide
    · decide
  -- The name alone, as it is read where the hash stands apart, is a point for no language.
  have hcredits : ∀ name ∈ joinedNames, ∀ l : Language, l.credits name = false := by
    rintro name hname (_ | _ | _) <;> revert name <;> decide +kernel
  have hrest := renderedFrom_append_of_word (isWord_of_mem_joinedNames hname) left
  have hl := h.get_ofSource_joined hname hw hne l
  rw [hrest, tokens_append_of_name hname hnext, List.countP_cons, hcredits name hname l] at hl
  rw [Scores.get_credit, hrest]
  simp only [Bool.false_eq_true, if_false, eq_comm (a := Language.cpp)] at hl ⊢
  omega

/-- How many spaces and tabs there are between a `#` that is kept and the name after it makes no
    difference to the scores, as long as there are some in both spellings or in none; and for most
    names it makes no difference whether there are any. But `include`, `define` and `pragma` are one
    token with the `#` if they follow at once, and what comes after them is then read apart from
    them; and a header is included only if they do. If the name is a whole identifier, that is one
    point or two for C++, and nothing else. -/
theorem directive_spelling (front w w' rest : List Char) (hkept : KeepsHash front (w ++ rest))
    (hw : ∀ c ∈ w, isSpaceOrTab c = true) (hw' : ∀ c ∈ w', isSpaceOrTab c = true) :
    KeepsHash front (w' ++ rest) ∧
    ((w = [] ↔ w' = []) ∨ (∀ name ∈ joinedNames, ¬ name <+: rest) →
      Scores.ofSource (front ++ '#' :: (w ++ rest)) =
        Scores.ofSource (front ++ '#' :: (w' ++ rest))) ∧
    (w = [] → w' ≠ [] → ∀ name ∈ joinedNames, ∀ left, rest = name ++ left →
      (∀ l : Language, (Scores.ofSource (front ++ '#' :: rest)).get l +
          ((tokens (renderedFrom false rest)).countP fun t => l.credits t.text) =
        (Scores.ofSource (front ++ '#' :: (w' ++ rest))).get l +
          ((tokens (renderedFrom false left)).countP fun t => l.credits t.text) +
            if l = .cpp then 1 + (if IsInclusion (renderedFrom false rest) then 1 else 0) else 0) ∧
      ((∀ y ∈ left.head?, isWord y = false ∧ y ≠ ':') →
        Scores.ofSource (front ++ '#' :: rest) =
          (Scores.ofSource (front ++ '#' :: (w' ++ rest))).credit
            (1 + if IsInclusion (renderedFrom false rest) then 1 else 0) .cpp)) := by
  refine ⟨hkept.respell hw hw', fun h => ?_, ?_⟩
  · by_cases hnil : w = [] ∧ w' = []
    · rw [hnil.1, hnil.2]
    · exact hkept.ofSource_eq hw hw' (h.imp (fun hiff hw => hnil ⟨hw, hiff.1 hw⟩) id)
        (h.imp (fun hiff hw' => hnil ⟨hiff.2 hw', hw'⟩) id)
  · rintro rfl hne name hname left rfl
    have hjoined : KeepsHash front (name ++ left) := hkept
    exact ⟨hjoined.get_ofSource_joined hname hw' hne, hjoined.ofSource_joined hname hw' hne⟩

/-- A space after the `#` of an inclusion costs C++ two points. -/
theorem directive_spelling_of_inclusion :
    Scores.ofSource ['#', 'i', 'n', 'c', 'l', 'u', 'd', 'e', ' ', '<', 'x', '>'] =
      (Scores.ofSource ['#', ' ', 'i', 'n', 'c', 'l', 'u', 'd', 'e', ' ', '<', 'x', '>']).credit
        2 .cpp := by
  have hkept : KeepsHash [] ([] ++ ['i', 'n', 'c', 'l', 'u', 'd', 'e', ' ', '<', 'x', '>']) :=
    ⟨[], [.code 'i', .code 'n', .code 'c', .code 'l', .code 'u', .code 'd', .code 'e', .code ' ',
      .code '<', .code 'x', .code '>'], by decide +kernel, rfl⟩
  obtain ⟨-, -, hjoined⟩ := directive_spelling [] [] [' '] _ hkept (by simp)
    (List.forall_mem_singleton.2 rfl)
  have hcredit := (hjoined rfl (by simp) ['i', 'n', 'c', 'l', 'u', 'd', 'e'] (by decide)
    [' ', '<', 'x', '>'] rfl).2 (by rintro _ ⟨⟩; decide)
  have hrendered : renderedFrom false ['i', 'n', 'c', 'l', 'u', 'd', 'e', ' ', '<', 'x', '>'] =
      ['i', 'n', 'c', 'l', 'u', 'd', 'e', ' ', '<', 'x', '>'] := by
    decide +kernel
  have his : IsInclusion ['i', 'n', 'c', 'l', 'u', 'd', 'e', ' ', '<', 'x', '>'] :=
    ⟨[' '], ['x'], [], rfl, List.forall_mem_singleton.2 (by decide), by simp,
      List.forall_mem_singleton.2 (.inl (by decide))⟩
  rwa [hrendered, if_pos his] at hcredit

/-- The guess can be lost with it. -/
theorem inclusion_missed_behind_space :
    Scores.ofSource ['#', 'i', 'n', 'c', 'l', 'u', 'd', 'e', ' ', '<', 'x', '>'] = ⟨0, 0, 2⟩ ∧
      Scores.ofSource ['#', ' ', 'i', 'n', 'c', 'l', 'u', 'd', 'e', ' ', '<', 'x', '>'] =
        ⟨0, 0, 0⟩ := by
  constructor <;> cbv

end Playground.Source
