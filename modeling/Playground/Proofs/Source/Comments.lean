import Playground.Proofs.Source.Prefix
import Playground.Proofs.Source.Tally

set_option autoImplicit false

/-! # Comments do not count

A comment is one region, whatever is in it, and little is left of it: nothing of a line comment, and
of a block comment its newlines, or one space. The reader passes a line comment in the state in
which it came to it, and is after a block comment where the newlines of the comment have brought it;
so what comes after a comment is read in the same way whatever the comment says.

The one `#` that is no comment is the one that opens a directive. It has to be the first on its
line, comments aside, and that is said here of the text before it (`opensLine`) and not of the state
in which it is met. -/

namespace Playground.Source

open Playground.Text

/-! ## Texts of comments -/

/-- The text ends here, or the line does. -/
def AtLineEnd (rest : List Char) : Prop := ∀ y ∈ rest.head?, y = '\n'

/-- What stands in a block comment: the first end that is met is the one after the body. -/
def BlockBody (body : List Char) : Prop :=
  ∀ front rest, body ++ ['*', '/'] = front ++ ['*', '/'] ++ rest → front = body

/-- Blanks and comments, the comments with their ends. -/
inductive OnlyComments : List Char → Prop where
  | nil : OnlyComments []
  | blank {c : Char} {cs : List Char} (h : isBlank c = true) (rest : OnlyComments cs) :
      OnlyComments (c :: cs)
  | slashes {body cs : List Char} (hbody : '\n' ∉ body) (hend : AtLineEnd cs)
      (rest : OnlyComments cs) : OnlyComments ('/' :: '/' :: (body ++ cs))
  | hash {body cs : List Char} (hbody : '\n' ∉ body) (hd : opensDirective body = false)
      (hend : AtLineEnd cs) (rest : OnlyComments cs) : OnlyComments ('#' :: (body ++ cs))
  | block {body cs : List Char} (hbody : BlockBody body) (rest : OnlyComments cs) :
      OnlyComments ('/' :: '*' :: (body ++ ['*', '/'] ++ cs))

/-- What is left of a region without its comment; the newlines of a comment stay. -/
def Region.uncommented : Region → List Char
  | .code c => [c]
  | .literal t => t
  | .lineComment _ => []
  | .blockComment t => t.filter (· == '\n')

/-- Is there nothing but blanks after the last newline? -/
def endsBlank (cs : List Char) : Bool := allBlank (cs.reverse.takeWhile (· != '\n'))

/-- Would a character after this text be the first on its line that is not blank, comments
    aside? -/
def opensLine (p : List Char) : Bool := endsBlank ((regions p).flatMap Region.uncommented)

variable {p c r s body : List Char} {x : Char} {v w : List Char} {lineStart : Bool}

/-! ## Each comment is one region -/

theorem AtLineEnd.isAlpha (h : AtLineEnd r) : ∀ y ∈ r.head?, y.isAlpha = false := by
  intro y hy
  rw [h y hy]
  decide

theorem AtLineEnd.isSpaceOrTab (h : AtLineEnd r) : ∀ y ∈ r.head?, isSpaceOrTab y = false := by
  intro y hy
  rw [h y hy]
  decide

theorem splitLine_comment (hc : '\n' ∉ c) (hr : AtLineEnd r) : splitLine (c ++ r) = (c, r) := by
  have hall : ∀ y ∈ c, (y != '\n') = true := by
    intro y hy
    simpa using fun h : y = '\n' => hc (h ▸ hy)
  unfold splitLine
  rw [List.takeWhile_append_of_pos hall, List.dropWhile_append_of_pos hall]
  cases r with
  | nil => simp
  | cons y r => simp [hr y rfl]

theorem regionsFrom_slashes (hc : '\n' ∉ c) (hr : AtLineEnd r) (lineStart : Bool) :
    regionsFrom lineStart ('/' :: '/' :: (c ++ r)) =
      .lineComment ('/' :: '/' :: c) :: regionsFrom lineStart r := by
  have hsplit : splitLine ('/' :: (c ++ r)) = ('/' :: c, r) :=
    splitLine_comment (c := '/' :: c) (by simpa using hc) hr
  have hfirst : Region.first lineStart '/' ('/' :: (c ++ r)) =
      (.lineComment ('/' :: '/' :: c), r) := by
    simp [Region.first, hsplit]
  rw [regionsFrom_cons, hfirst]
  rfl

theorem regionsFrom_hash (hc : '\n' ∉ c) (hr : AtLineEnd r)
    (h : ¬(lineStart = true ∧ opensDirective c = true)) :
    regionsFrom lineStart ('#' :: (c ++ r)) =
      .lineComment ('#' :: c) :: regionsFrom lineStart r := by
  have hfirst : Region.first lineStart '#' (c ++ r) = (.lineComment ('#' :: c), r) := by
    unfold Region.first
    rw [opensDirective_append hr.isAlpha hr.isSpaceOrTab, splitLine_comment hc hr]
    simp [h]
  rw [regionsFrom_cons, hfirst]
  rfl

theorem regionsFrom_directive (h : opensDirective r = true) :
    regionsFrom true ('#' :: r) = .code '#' :: regionsFrom false r := by
  have hfirst : Region.first true '#' r = (.code '#', r) := by
    simp [Region.first, h]
  rw [regionsFrom_cons, hfirst]
  rfl

theorem splitBlock_body (h : BlockBody body) (s : List Char) :
    splitBlock (body ++ ['*', '/'] ++ s) = (body ++ ['*', '/'], s) := by
  induction body with
  | nil => simp [splitBlock]
  | cons c body ih =>
      -- An end that begins here would be met before the one after the body.
      have hopen : ¬ ['*', '/'] <+: c :: (body ++ ['*', '/'] ++ s) := by
        intro hclose
        have hin : ['*', '/'] <+: c :: (body ++ ['*', '/']) ++ [] :=
          prefix_of_length_le (u := c :: (body ++ ['*', '/'])) hclose (by simp)
        obtain ⟨after, hafter⟩ := hin
        rw [List.append_nil] at hafter
        exact List.cons_ne_nil c body (h [] after hafter.symm).symm
      have hrest := ih fun front after heq =>
        (List.cons_inj_right c).1 (h (c :: front) after (congrArg (c :: ·) heq))
      show splitBlock (c :: (body ++ ['*', '/'] ++ s)) = _
      rw [splitBlock, if_neg (fun hp => hopen (List.isPrefixOf_iff_prefix.1 hp)), hrest]
      rfl

theorem regionsFrom_block (h : BlockBody body) (lineStart : Bool) (s : List Char) :
    regionsFrom lineStart ('/' :: '*' :: (body ++ ['*', '/'] ++ s)) =
      .blockComment ('/' :: '*' :: (body ++ ['*', '/'])) ::
        regionsFrom (lineStart || body.contains '\n') s := by
  have hfirst : Region.first lineStart '/' ('*' :: (body ++ ['*', '/'] ++ s)) =
      (.blockComment ('/' :: '*' :: (body ++ ['*', '/'])), s) := by
    unfold Region.first
    rw [if_neg (by simp), if_neg (by simp), if_pos (by simp), List.drop_one, List.tail_cons,
      splitBlock_body h]
  rw [regionsFrom_cons, hfirst]
  simp [Region.lineStart]

/-- Of a block comment only the number of its newlines is left. -/
theorem rendered_block (body : List Char) :
    (Region.blockComment ('/' :: '*' :: (body ++ ['*', '/']))).rendered =
      if body.count '\n' = 0 then [' '] else List.replicate (body.count '\n') '\n' := by
  have hcount : ('/' :: '*' :: (body ++ ['*', '/'])).count '\n' = body.count '\n' := by
    simp
  simp only [Region.rendered, hcount]
  by_cases h : '\n' ∈ body <;> simp [h, List.count_eq_zero]

/-- A body without stars can stand in a block comment. -/
theorem BlockBody.of_not_mem (h : '*' ∉ body) : BlockBody body := by
  intro front rest heq
  have hlen := congrArg List.length heq
  simp only [List.length_append, List.length_cons, List.length_nil] at hlen
  have hprefix : front <+: body :=
    List.prefix_of_prefix_length_le ⟨['*', '/'] ++ rest, by rw [heq, List.append_assoc]⟩
      (List.prefix_append body ['*', '/']) (by omega)
  obtain ⟨tail, rfl⟩ := hprefix
  cases tail with
  | nil => exact (List.append_nil front).symm
  | cons c tail =>
      -- The star of the first end would stand in the body.
      rw [List.append_assoc, List.append_assoc] at heq
      have hc : c = '*' := (List.cons.inj (List.append_cancel_left heq)).1
      exact absurd (by simp [hc]) h

/-! ## The state in which a place is reached -/

/-- Have only blanks been seen since the line began, once all these regions are read? -/
def lineStartAfter (lineStart : Bool) (before : List Region) : Bool :=
  before.foldl (fun b r => r.lineStart b) lineStart

theorem regionsFrom_after {before after : List Region}
    (h : regionsFrom lineStart (p ++ w) = before ++ after) (hp : before.flatMap Region.text = p) :
    after = regionsFrom (lineStartAfter lineStart before) w := by
  induction before generalizing lineStart p with
  | nil =>
      subst hp
      exact h.symm
  | cons r before ih =>
      rw [List.flatMap_cons] at hp
      cases hw : p ++ w with
      | nil => simp [hw] at h
      | cons c cs =>
          rw [hw, regionsFrom_cons, List.cons_append, List.cons.injEq] at h
          obtain ⟨hr, hrest⟩ := h
          have happend := Region.first_append lineStart c cs
          rw [hr, ← hw, ← hp, List.append_assoc] at happend
          rw [hr, List.append_cancel_left happend] at hrest
          exact ih hrest rfl

/-- The regions before a place are those of the text before it. -/
theorem regions_eq_before {before after : List Region}
    (h : regions (p ++ x :: v) = before ++ after) (hp : before.flatMap Region.text = p)
    (hw : Replaceable x w) : regions p = before := by
  obtain ⟨lineStart, hstable⟩ := regionsFrom_stable h hp
  have hnil := hstable [] ⟨hw.not_letter, hw.not_space, .inr (by simp)⟩
  rwa [List.append_nil, regionsFrom_nil, List.append_nil] at hnil

/-- What comes after a place is read on its own, from the state in which the place is reached. -/
theorem Reaches.regions_append (hp : Reaches (p ++ x :: v) p) (hw : Replaceable x w) :
    regions (p ++ w) = regions p ++ regionsFrom (lineStartAfter true (regions p)) w := by
  obtain ⟨before, after, hregions, hbefore⟩ := hp
  obtain ⟨lineStart, hstable⟩ := regionsFrom_stable hregions hbefore
  have happend := hstable w hw
  rw [regionsFrom_after happend hbefore] at happend
  rw [regions_eq_before hregions hbefore hw]
  exact happend

/-! ## Where a line begins -/

theorem endsBlank_append_newlines {cs newlines : List Char} (h : ∀ c ∈ newlines, c = '\n') :
    endsBlank (cs ++ newlines) = (endsBlank cs || !newlines.isEmpty) := by
  unfold endsBlank
  rw [List.reverse_append]
  cases hn : newlines.reverse with
  | nil =>
      obtain rfl := List.reverse_eq_nil_iff.1 hn
      simp
  | cons c rest =>
      have hc : c = '\n' := h c (List.mem_reverse.1 (by simp [hn]))
      have hne : newlines ≠ [] := by
        rintro rfl
        cases hn
      simp [hc, allBlank, hne]

theorem endsBlank_append_char (cs : List Char) (c : Char) :
    endsBlank (cs ++ [c]) = (c == '\n' || (endsBlank cs && isBlank c)) := by
  unfold endsBlank
  rw [List.reverse_append, List.reverse_singleton, List.singleton_append, List.takeWhile_cons]
  by_cases hc : c = '\n'
  · simp [hc, allBlank]
  · simp [hc, allBlank, Bool.and_comm]

/-- A literal ends with its quote, unless the text or the line ends before that. -/
theorem splitPlain_closed (q : Char) (cs : List Char) :
    (splitPlain q cs).1.getLast? = some q ∨ AtLineEnd (splitPlain q cs).2 := by
  induction cs using unit_induction with
  | nil => exact .inr (by simp [splitPlain, AtLineEnd])
  | backslash => exact .inr (by simp [splitPlain, AtLineEnd])
  | escape d cs ih =>
      rw [splitPlain_escape]
      refine ih.imp_left fun h => ?_
      simp [List.getLast?_cons, h]
  | char c cs hc ih =>
      rw [splitPlain_cons hc]
      split
      · next hn => exact .inr (by simp [AtLineEnd, hn])
      · split
        · next hq => exact .inl (by simp [hq])
        · refine ih.imp_left fun h => ?_
          simp [List.getLast?_cons, h]

theorem splitTriple_closed (q : Char) (cs : List Char) :
    (splitTriple q cs).1.getLast? = some q ∨ (splitTriple q cs).2 = [] := by
  induction cs using unit_induction with
  | nil => exact .inr rfl
  | backslash => exact .inr (by simp [splitTriple])
  | escape d cs ih =>
      rw [splitTriple_escape]
      refine ih.imp_left fun h => ?_
      simp [List.getLast?_cons, h]
  | char c cs hc ih =>
      rw [splitTriple_cons hc]
      split
      · exact .inl (by simp)
      · refine ih.imp_left fun h => ?_
        simp [List.getLast?_cons, h]

theorem splitLiteral_closed (q : Char) (cs : List Char) :
    (q :: (splitLiteral q cs).1).getLast? = some q ∨ AtLineEnd (splitLiteral q cs).2 := by
  unfold splitLiteral
  split
  · refine (splitTriple_closed q (cs.drop 2)).imp (fun h => ?_) fun h => ?_
    · simp [List.getLast?_cons, h]
    · simp [h, AtLineEnd]
  · refine (splitPlain_closed q cs).imp_left fun h => ?_
    simp [List.getLast?_cons, h]

/-- What is known of the line after a region can be seen from the text that has been read, but for a
    literal that the end of the line has ended. -/
theorem Region.lineStart_first (lineStart : Bool) (c : Char) (cs seen : List Char)
    (h : endsBlank seen = lineStart ∨ c = '\n') :
    endsBlank (seen ++ (Region.first lineStart c cs).1.uncommented) =
        (Region.first lineStart c cs).1.lineStart lineStart ∨
      AtLineEnd (Region.first lineStart c cs).2 := by
  have hseen : c ≠ '\n' → endsBlank seen = lineStart := h.resolve_right
  unfold Region.first
  split
  · next hc =>
      refine (splitLiteral_closed c cs).imp_left fun hlast => ?_
      obtain ⟨front, hfront⟩ := List.getLast?_eq_some_iff.1 hlast
      have hquote : (c == '\n' || (endsBlank (seen ++ front) && isBlank c)) = false := by
        rcases hc with rfl | rfl <;> simp [isBlank]
      show endsBlank (seen ++ c :: (splitLiteral c cs).1) = false
      rw [hfront, ← List.append_assoc, endsBlank_append_char, hquote]
  · split
    · next hc =>
        refine .inl ?_
        show endsBlank (seen ++ []) = lineStart
        rw [List.append_nil, hseen (by simp [hc.1])]
    · split
      · next hc =>
          refine .inl ?_
          show endsBlank (seen ++ List.filter (· == '\n') _) = (lineStart || List.contains _ '\n')
          rw [endsBlank_append_newlines (by simp), hseen (by simp [hc.1])]
          congr 1
          rw [Bool.eq_iff_iff]
          simp [hc.1]
      · split
        · next hc =>
            refine .inl ?_
            show endsBlank (seen ++ []) = lineStart
            rw [List.append_nil, hseen (by simp [hc.1])]
        · refine .inl ?_
          show endsBlank (seen ++ [c]) = (c == '\n' || (lineStart && isBlank c))
          rw [endsBlank_append_char]
          by_cases hc : c = '\n'
          · simp [hc]
          · rw [hseen hc]

/-- The state in which a place is reached can be seen from the text before it. -/
theorem lineStartAfter_eq {before after : List Region} (seen : List Char) (hx : x ≠ '\n')
    (h : regionsFrom lineStart (p ++ x :: v) = before ++ after)
    (hp : before.flatMap Region.text = p)
    (hseen : endsBlank seen = lineStart ∨ (p ++ x :: v).head? = some '\n') :
    lineStartAfter lineStart before =
      endsBlank (seen ++ before.flatMap Region.uncommented) := by
  induction before generalizing lineStart p seen with
  | nil =>
      subst hp
      rw [List.flatMap_nil, List.append_nil]
      exact (hseen.resolve_right (by simpa using hx)).symm
  | cons r before ih =>
      rw [List.flatMap_cons] at hp
      cases hc : p ++ x :: v with
      | nil => simp at hc
      | cons c cs =>
          rw [hc] at h hseen
          rw [regionsFrom_cons, List.cons_append, List.cons.injEq] at h
          obtain ⟨hr, hrest⟩ := h
          have happend := Region.first_append lineStart c cs
          rw [hr, ← hc, ← hp, List.append_assoc] at happend
          have hnext := Region.lineStart_first lineStart c cs seen
            (hseen.imp_right fun h => Option.some.inj h)
          rw [hr, List.append_cancel_left happend] at hrest hnext
          rw [List.flatMap_cons, ← List.append_assoc]
          refine ih _ hrest rfl (hnext.imp_right fun hend => ?_)
          cases hhead : (before.flatMap Region.text ++ x :: v).head? with
          | none => simp at hhead
          | some y => rw [hend y hhead]

theorem Reaches.lineStartAfter_eq_opensLine (hx : x ≠ '\n') (hw : Replaceable x w)
    (hp : Reaches (p ++ x :: v) p) : lineStartAfter true (regions p) = opensLine p := by
  obtain ⟨before, after, hregions, hbefore⟩ := hp
  have h := lineStartAfter_eq [] hx hregions hbefore (.inl rfl)
  rw [regions_eq_before hregions hbefore hw, h, opensLine, regions_eq_before hregions hbefore hw,
    List.nil_append]

/-! ## The text around a comment -/

/-- What a text is rendered as when it is read from the middle of a source. -/
def renderedFrom (lineStart : Bool) (cs : List Char) : List Char :=
  (regionsFrom lineStart cs).flatMap Region.rendered

@[simp] theorem renderedFrom_nil (lineStart : Bool) : renderedFrom lineStart [] = [] := by
  rw [renderedFrom, regionsFrom_nil, List.flatMap_nil]

theorem Reaches.stripped_append (hp : Reaches (p ++ x :: v) p) (hw : Replaceable x w) :
    stripped (p ++ w) = stripped p ++ renderedFrom (lineStartAfter true (regions p)) w := by
  rw [stripped, hp.regions_append hw, List.flatMap_append]
  rfl

/-- Whatever of the sources is looked at to guess the language is the same. -/
structure CountsAlike (source₁ source₂ : List Char) : Prop where
  stripped_eq : stripped source₁ = stripped source₂
  scores_eq : Scores.ofSource source₁ = Scores.ofSource source₂
  detect_eq : detect (String.ofList source₁) = detect (String.ofList source₂)

theorem CountsAlike.of_stripped {source₁ source₂ : List Char}
    (h : stripped source₁ = stripped source₂) : CountsAlike source₁ source₂ := by
  have hscores : Scores.ofSource source₁ = Scores.ofSource source₂ :=
    congrArg Scores.ofStripped h
  refine ⟨h, hscores, ?_⟩
  unfold detect
  rw [String.toList_ofList, String.toList_ofList, hscores]

theorem replaceable_slash (w : List Char) : Replaceable '/' ('/' :: w) :=
  .of_head (by decide) (by decide)

theorem replaceable_hash (w : List Char) : Replaceable '#' ('#' :: w) :=
  .of_head (by decide) (by decide)

/-- A comment at the end of a line can be left out. -/
theorem AtLineEnd.replaceable (hr : AtLineEnd r) (hw : Replaceable x w) : Replaceable x r :=
  ⟨hw.not_letter, hw.not_space, .inr hr⟩

theorem stripped_slashes (hc : '\n' ∉ c) (hr : AtLineEnd r)
    (hp : Reaches (p ++ '/' :: '/' :: (c ++ r)) p) :
    stripped (p ++ '/' :: '/' :: (c ++ r)) = stripped (p ++ r) := by
  rw [hp.stripped_append (replaceable_slash _),
    hp.stripped_append (hr.replaceable (replaceable_slash [])), renderedFrom,
    regionsFrom_slashes hc hr]
  rfl

theorem stripped_hash (hc : '\n' ∉ c) (hr : AtLineEnd r)
    (hp : Reaches (p ++ '#' :: (c ++ r)) p)
    (h : ¬(opensLine p = true ∧ opensDirective c = true)) :
    stripped (p ++ '#' :: (c ++ r)) = stripped (p ++ r) := by
  rw [← hp.lineStartAfter_eq_opensLine (by decide) (replaceable_hash [])] at h
  rw [hp.stripped_append (replaceable_hash _),
    hp.stripped_append (hr.replaceable (replaceable_hash [])), renderedFrom,
    regionsFrom_hash hc hr h]
  rfl

/-- A directive is no comment: its `#` is kept. -/
theorem stripped_directive (hr : AtLineEnd r) (hp : Reaches (p ++ '#' :: (c ++ r)) p)
    (hline : opensLine p = true) (hd : opensDirective c = true) :
    stripped (p ++ '#' :: (c ++ r)) ≠ stripped (p ++ r) := by
  have hopens : opensDirective (c ++ r) = true := by
    rwa [opensDirective_append hr.isAlpha hr.isSpaceOrTab]
  have hstart := hp.lineStartAfter_eq_opensLine (by decide) (replaceable_hash [])
  rw [hp.stripped_append (replaceable_hash _),
    hp.stripped_append (hr.replaceable (replaceable_hash [])), hstart, hline, renderedFrom,
    renderedFrom, regionsFrom_directive hopens]
  intro heq
  have heq := List.append_cancel_left heq
  cases r with
  | nil => simp [Region.rendered] at heq
  | cons y r =>
      obtain rfl : y = '\n' := hr y rfl
      have hfirst : Region.first true '\n' r = (.code '\n', r) := by simp [Region.first]
      rw [regionsFrom_cons, hfirst] at heq
      simp [Region.rendered] at heq

theorem stripped_block {body₁ body₂ : List Char} (h₁ : BlockBody body₁) (h₂ : BlockBody body₂)
    (hlines : body₁.count '\n' = body₂.count '\n')
    (hp : Reaches (p ++ '/' :: '*' :: (body₁ ++ ['*', '/'] ++ s)) p) :
    stripped (p ++ '/' :: '*' :: (body₁ ++ ['*', '/'] ++ s)) =
      stripped (p ++ '/' :: '*' :: (body₂ ++ ['*', '/'] ++ s)) := by
  have hcontains : body₁.contains '\n' = body₂.contains '\n' := by
    rw [Bool.eq_iff_iff, List.contains_iff_mem, List.contains_iff_mem, ← List.count_pos_iff,
      ← List.count_pos_iff, hlines]
  rw [hp.stripped_append (replaceable_slash _), hp.stripped_append (replaceable_slash _),
    renderedFrom, renderedFrom, regionsFrom_block h₁, regionsFrom_block h₂, List.flatMap_cons,
    List.flatMap_cons, rendered_block, rendered_block, hlines, hcontains]

/-! ## A source without code -/

theorem regionsFrom_blank (h : isBlank x = true) (lineStart : Bool) (cs : List Char) :
    regionsFrom lineStart (x :: cs) =
      .code x :: regionsFrom ((Region.code x).lineStart lineStart) cs := by
  have hne : ∀ y, isBlank y = false → x ≠ y := by
    rintro y hy rfl
    rw [h] at hy
    cases hy
  have hfirst : Region.first lineStart x cs = (.code x, cs) := by
    simp [Region.first, hne '"' (by decide), hne '\'' (by decide), hne '/' (by decide),
      hne '#' (by decide)]
  rw [regionsFrom_cons, hfirst]

theorem OnlyComments.all_isBlank {source : List Char} (h : OnlyComments source) :
    ∀ lineStart, (renderedFrom lineStart source).all isBlank = true := by
  unfold renderedFrom
  induction h with
  | nil => simp
  | blank h rest ih =>
      intro lineStart
      rw [regionsFrom_blank h, List.flatMap_cons, List.all_append, ih]
      simp [Region.rendered, h]
  | slashes hbody hend rest ih =>
      intro lineStart
      rw [regionsFrom_slashes hbody hend, List.flatMap_cons, List.all_append, ih]
      rfl
  | hash hbody hd hend rest ih =>
      intro lineStart
      rw [regionsFrom_hash hbody hend (by simp [hd]), List.flatMap_cons, List.all_append, ih]
      rfl
  | @block body cs hbody rest ih =>
      intro lineStart
      rw [regionsFrom_block hbody, List.flatMap_cons, List.all_append, ih, rendered_block,
        Bool.and_true]
      split
      · rfl
      · have hnewline : isBlank '\n' = true := by decide
        rw [List.all_replicate, hnewline, ite_self]

theorem tokens_eq_nil {text : List Char} (h : text.all isBlank = true) : tokens text = [] := by
  induction text with
  | nil => simp [tokens]
  | cons c cs ih =>
      rw [List.all_cons, Bool.and_eq_true] at h
      rw [tokens, if_pos h.1, ih h.2]

/-- Does the step need a character that is not blank? -/
def Step.isVisible : Step → Bool
  | .one (.only c) => !isBlank c
  | .one .wordStart => true
  | _ => false

/-- Each shape of the idiom needs a character that is not blank. -/
def Idiom.isVisible (i : Idiom) : Bool := i.all fun shape => shape.any Step.isVisible

theorem isBlank_of_isWordStart {c : Char} (h : isWordStart c = true) : isBlank c = false := by
  have hlt := toNat_lt_of_isWordStart h
  have hle : 65 ≤ c.toNat := by
    have h' : (decide (c.val ≥ 'A'.val ∧ c.val ≤ 'Z'.val) ||
        (c.val ≥ 'a'.val && c.val ≤ 'z'.val) || c == '_') = true := h
    simp only [Bool.or_eq_true, Bool.and_eq_true, decide_eq_true_eq, beq_iff_eq] at h'
    rcases h' with (⟨h, -⟩ | ⟨h, -⟩) | h
    · exact Nat.le_trans (by decide) (UInt32.le_iff_toNat_le.1 h)
    · exact Nat.le_trans (by decide) (UInt32.le_iff_toNat_le.1 h)
    · subst h; decide
  simp only [isBlank, Bool.or_eq_false_iff, Bool.and_eq_false_iff, decide_eq_false_iff_not,
    beq_eq_false_iff_ne]
  omega

theorem Step.isBlank_of_isVisible {k : CharClass} (hk : (Step.one k).isVisible = true) {c : Char}
    (hc : k.has c = true) : isBlank c = false := by
  cases k with
  | only d =>
      rw [show c = d from eq_of_beq hc]
      exact Bool.not_eq_eq_eq_not.1 hk
  | wordStart => exact isBlank_of_isWordStart hc
  | _ => cases hk

/-- Nothing that needs such a character can be laid on blanks. -/
theorem Fits.not_isVisible {before : Option Char} {after : List Char} {steps : List Step}
    {runs : List Nat} {n : Nat} (h : Fits before after steps runs n)
    (hblank : after.all isBlank = true) : steps.any Step.isVisible = false := by
  induction h with
  | nil => rfl
  | @one before c cs k steps runs n has rest ih =>
      rw [List.all_cons, Bool.and_eq_true] at hblank
      have hk : (Step.one k).isVisible = false := by
        by_contra hk
        rw [Bool.not_eq_false] at hk
        rw [Step.isBlank_of_isVisible hk has] at hblank
        exact absurd hblank.1 (by decide)
      rw [List.any_cons, hk, ih hblank.2]
      rfl
  | more has rest ih =>
      rw [List.all_cons, Bool.and_eq_true] at hblank
      exact ih hblank.2
  | stop rest ih | wordEdge _ rest ih | lineStart _ rest ih | lineEnd _ rest ih => exact ih hblank

theorem Idiom.matchLength?_eq_none {i : Idiom} (hi : i.isVisible = true) {before : Option Char}
    {after : List Char} (h : after.all isBlank = true) : i.matchLength? before after = none := by
  unfold Idiom.matchLength?
  rw [List.findSome?_eq_none_iff]
  intro shape hshape
  rw [Source.matchLength?_eq_none_iff]
  intro runs n hfits
  have hvisible := List.all_eq_true.1 hi shape hshape
  rw [hfits.not_isVisible h] at hvisible
  cases hvisible

theorem Idiom.countFrom_eq_zero {i : Idiom} (hi : i.isVisible = true) {text : List Char}
    (h : text.all isBlank = true) (before : Option Char) : i.countFrom before 0 text = 0 := by
  induction text generalizing before with
  | nil => rfl
  | cons c cs ih =>
      rw [Idiom.countFrom, Idiom.matchLength?_eq_none hi h]
      rw [List.all_cons, Bool.and_eq_true] at h
      exact ih h.2 (some c)

theorem isVisible_of_mem_idioms (l : Language) :
    ∀ i ∈ l.vocabulary.idioms, Idiom.isVisible i = true := by
  cases l <;> decide

theorem countIdioms_eq_zero (l : Language) {text : List Char} (h : text.all isBlank = true) :
    l.vocabulary.countIdioms text = 0 := by
  have hzero : ∀ idioms : List Idiom, (∀ i ∈ idioms, i.isVisible = true) →
      idioms.foldl (fun n i => n + i.count text) 0 = 0 := by
    intro idioms hidioms
    induction idioms with
    | nil => rfl
    | cons i idioms ih =>
        rw [List.foldl_cons, Idiom.count,
          Idiom.countFrom_eq_zero (hidioms i List.mem_cons_self) h]
        exact ih fun j hj => hidioms j (List.mem_cons_of_mem i hj)
  exact hzero _ (isVisible_of_mem_idioms l)

theorem Scores.ofStripped_blank {text : List Char} (h : text.all isBlank = true) :
    Scores.ofStripped text = Scores.zero := by
  unfold Scores.ofStripped
  simp only [tokens_eq_nil h, countIdioms_eq_zero _ h]
  rfl

theorem OnlyComments.ofSource_eq_zero {source : List Char} (h : OnlyComments source) :
    Scores.ofSource source = Scores.zero :=
  Scores.ofStripped_blank (h.all_isBlank true)

/-! ## Comments do not count -/

/-- A line comment can be left out, and a directive, which looks like one, cannot. Of a block
    comment only the number of its newlines matters. Where there is nothing but blanks and comments,
    no language has a point. -/
theorem comments_do_not_count :
    (∀ p c r, '\n' ∉ c → AtLineEnd r → Reaches (p ++ ['/', '/'] ++ c ++ r) p →
      CountsAlike (p ++ ['/', '/'] ++ c ++ r) (p ++ r)) ∧
    (∀ p c r, '\n' ∉ c → AtLineEnd r → Reaches (p ++ ['#'] ++ c ++ r) p →
      (¬(opensLine p = true ∧ opensDirective c = true) →
        CountsAlike (p ++ ['#'] ++ c ++ r) (p ++ r)) ∧
      (opensLine p = true ∧ opensDirective c = true →
        stripped (p ++ ['#'] ++ c ++ r) ≠ stripped (p ++ r))) ∧
    (∀ p c₁ c₂ s, BlockBody c₁ → BlockBody c₂ → c₁.count '\n' = c₂.count '\n' →
      Reaches (p ++ ['/', '*'] ++ c₁ ++ ['*', '/'] ++ s) p →
      CountsAlike (p ++ ['/', '*'] ++ c₁ ++ ['*', '/'] ++ s)
        (p ++ ['/', '*'] ++ c₂ ++ ['*', '/'] ++ s)) ∧
    (∀ source, OnlyComments source → Scores.ofSource source = Scores.zero ∧
      detect (String.ofList source) = .undetected) := by
  refine ⟨?_, ?_, ?_, ?_⟩
  · intro p c r hc hr hp
    have hshape : p ++ ['/', '/'] ++ c ++ r = p ++ '/' :: '/' :: (c ++ r) := by simp
    rw [hshape] at hp ⊢
    exact .of_stripped (stripped_slashes hc hr hp)
  · intro p c r hc hr hp
    have hshape : p ++ ['#'] ++ c ++ r = p ++ '#' :: (c ++ r) := by simp
    rw [hshape] at hp ⊢
    exact ⟨fun h => .of_stripped (stripped_hash hc hr hp h),
      fun h => stripped_directive hr hp h.1 h.2⟩
  · intro p c₁ c₂ s h₁ h₂ hlines hp
    have hshape : ∀ c, p ++ ['/', '*'] ++ c ++ ['*', '/'] ++ s =
        p ++ '/' :: '*' :: (c ++ ['*', '/'] ++ s) := by simp
    rw [hshape] at hp
    rw [hshape, hshape]
    exact .of_stripped (stripped_block h₁ h₂ hlines hp)
  · intro source h
    refine ⟨h.ofSource_eq_zero, ?_⟩
    rw [detect, String.toList_ofList, h.ofSource_eq_zero]
    rfl

/-- Comments with quotes and openings of other comments in them, a `#` that opens a directive and
    one that does not, and a source with one comment of each kind. -/
theorem comments_do_not_count_whatever_they_say :
    CountsAlike (['x', ' '] ++ ['/', '/'] ++ ['"', '/', '*', '#'] ++ ['\n'])
      (['x', ' '] ++ ['\n']) ∧
    CountsAlike ([' '] ++ ['#'] ++ [' ', 'd', 'e', 'f', '\''] ++ []) ([' '] ++ []) ∧
    stripped ([' '] ++ ['#'] ++ ['\t', 'i', 'f'] ++ ['\n']) ≠ stripped ([' '] ++ ['\n']) ∧
    CountsAlike (['x'] ++ ['/', '*'] ++ ['/', '\n', '"'] ++ ['*', '/'] ++ ['#'])
      (['x'] ++ ['/', '*'] ++ ['#', '\n'] ++ ['*', '/'] ++ ['#']) ∧
    detect (String.ofList [' ', '/', '/', 'x', '\n', '#', 'y', '\n', '/', '*', '*', '/']) =
      .undetected := by
  obtain ⟨hslashes, hhash, hblock, honly⟩ := comments_do_not_count
  have hend : AtLineEnd ['\n'] := by simp [AtLineEnd]
  have hnil : AtLineEnd [] := by simp [AtLineEnd]
  refine ⟨hslashes _ _ _ (by decide) hend ?_,
    (hhash _ _ _ (by decide) hnil ?_).1 (by decide +kernel),
    (hhash _ _ _ (by decide) hend ?_).2 (by decide +kernel),
    hblock _ _ _ _ (.of_not_mem (by decide)) (.of_not_mem (by decide)) (by decide) ?_, ?_⟩
  · simpa using Reaches.of_code (p := ['x', ' ']) (by simp) _
  · simpa using Reaches.of_code (p := [' ']) (by simp) _
  · simpa using Reaches.of_code (p := [' ']) (by simp) _
  · simpa using Reaches.of_code (p := ['x']) (by simp) _
  · have hlast : OnlyComments ['/', '*', '*', '/'] :=
      @OnlyComments.block [] [] (.of_not_mem (by simp)) .nil
    have hmiddle : OnlyComments ['#', 'y', '\n', '/', '*', '*', '/'] :=
      @OnlyComments.hash ['y'] _ (by simp) (by decide) (by simp [AtLineEnd])
        (.blank (by decide) hlast)
    have hfirst : OnlyComments ['/', '/', 'x', '\n', '#', 'y', '\n', '/', '*', '*', '/'] :=
      @OnlyComments.slashes ['x'] _ (by simp) (by simp [AtLineEnd]) (.blank (by decide) hmiddle)
    exact (honly _ (.blank (by decide) hfirst)).2

end Playground.Source
