import Mathlib
import Playground.Proofs.Source.Separation
import Playground.Source.Score

set_option autoImplicit false

/-! # Where words begin and end

A word goes on for as long as there are word characters, so it never ends within an identifier. But
it begins wherever the token before it has ended, if an ASCII letter or an underscore comes next;
and three kinds of tokens can end in a word character that is part of the same identifier
(`CutsName`): numbers, characters beyond ASCII, and the names of directives. What comes after one of
these is read as a word of its own.

To see this, a text is parted at a token, and what is before it is read with the rest in view
(`ReadsBefore`): where the token before ended is decided by what comes next. -/

namespace Playground.Source

open Playground.Text

variable {c d y : Char} {cs ds text left front rest word : List Char} {t u : Token}
  {ts before after : List Token}

/-! ## Parting a text -/

/-- These tokens are cut from the text when `rest` comes after it, and no part of `rest` is in
    them. -/
inductive ReadsBefore (rest : List Char) : List Char → List Token → Prop where
  | nil : ReadsBefore rest [] []
  | blank {c : Char} {cs : List Char} {ts : List Token} (h : isBlank c = true)
      (more : ReadsBefore rest cs ts) : ReadsBefore rest (c :: cs) ts
  | token {c : Char} {cs left : List Char} {t : Token} {ts : List Token} (hc : isBlank c = false)
      (h : FirstToken c (cs ++ rest) t) (hleft : c :: cs = t.text ++ left)
      (more : ReadsBefore rest left ts) : ReadsBefore rest (c :: cs) (t :: ts)

theorem Splits.part (h : Splits text (before ++ t :: after)) :
    ∃ front c cs left, text = front ++ c :: cs ∧ ReadsBefore (c :: cs) front before ∧
      FirstToken c cs t ∧ c :: cs = t.text ++ left ∧ Splits left after := by
  generalize hts : before ++ t :: after = ts at h
  induction h generalizing before with
  | nil => simp at hts
  | @blank b cs ts hb _ ih =>
      obtain ⟨front, c, cs, left, rfl, hreads, hfirst⟩ := ih hts
      exact ⟨b :: front, c, cs, left, rfl, .blank hb hreads, hfirst⟩
  | @token d ds rest v ts hd hv hrest hsplits ih =>
      cases before with
      | nil =>
          obtain ⟨rfl, rfl⟩ := List.cons.inj hts
          exact ⟨[], d, ds, rest, rfl, .nil, hv, hrest, hsplits⟩
      | cons u before =>
          obtain ⟨rfl, htail⟩ := List.cons.inj hts
          obtain ⟨front, c, cs, left, rfl, hreads, hfirst⟩ := ih htail
          obtain ⟨es, hes⟩ := hv.exists_cons
          rw [hes, List.cons_append, ← List.append_assoc] at hrest
          obtain rfl := (List.cons.inj hrest).2
          have hfront : ReadsBefore (c :: cs) (d :: (es ++ front)) (u :: before) :=
            .token hd hv (by rw [hes]; rfl) hreads
          exact ⟨d :: (es ++ front), c, cs, left, rfl, hfront, hfirst⟩

theorem IsLongest.of_prefix {Kind : List Char → Prop} (h : IsLongest Kind text word)
    (hword : word <+: front) (hfront : front <+: text) : IsLongest Kind front word :=
  ⟨hword, h.is, fun other hother his => h.greatest other (hother.trans hfront) his⟩

/-- The first token is the same if the text ends somewhere behind it. -/
theorem FirstToken.of_prefix (h : FirstToken c cs t) (ht : t.text <+: c :: ds)
    (hds : ds <+: cs) : FirstToken c ds t := by
  have hopens : c :: ds <+: c :: cs := List.cons_prefix_cons.2 ⟨rfl, hds⟩
  cases h with
  | word hc h => exact .word hc (h.of_prefix ht hopens)
  | number hd h => exact .number hd (h.of_prefix ht hopens)
  | compound hc hd h => exact .compound hc hd (h.of_prefix ht hopens)
  | symbol hc hd hnone => exact .symbol hc hd fun u hu hu' => hnone u hu (hu'.trans hopens)

/-- What is read with a rest in view is read without it. -/
theorem ReadsBefore.splits (h : ReadsBefore rest front ts) : Splits front ts := by
  induction h with
  | nil => exact .nil
  | blank hc _ ih => exact .blank hc ih
  | @token c cs left t ts hc h hleft _ ih =>
      exact .token hc (h.of_prefix ⟨left, hleft.symm⟩ (List.prefix_append cs rest)) hleft ih

/-- If there is no blank at the end of the text, its last token is there. -/
theorem ReadsBefore.exists_last (h : ReadsBefore rest front ts) (hy : front.getLast? = some y)
    (hblank : isBlank y = false) :
    ∃ u, ts.getLast? = some u ∧ u.text <:+ front ∧ u.text.getLast? = some y ∧
      ∃ d ds, u.text = d :: ds ∧ FirstToken d (ds ++ rest) u := by
  induction h with
  | nil => cases hy
  | @blank b cs ts hb more ih =>
      have hcs : cs.getLast? = some y := by
        cases cs with
        | nil =>
            obtain rfl : b = y := Option.some.inj hy
            rw [hb] at hblank
            cases hblank
        | cons d cs => rwa [List.getLast?_cons_cons] at hy
      obtain ⟨u, hu, hends, hlast⟩ := ih hcs
      exact ⟨u, hu, hends.trans (List.suffix_cons b cs), hlast⟩
  | @token c cs left t ts hc h hleft more ih =>
      by_cases hnil : left = []
      · subst hnil
        cases more
        rw [List.append_nil] at hleft
        have hends : t.text <:+ c :: cs := hleft ▸ List.suffix_rfl
        exact ⟨t, rfl, hends, hleft ▸ hy, c, cs, hleft.symm, h⟩
      · have hlast : left.getLast? = some y := by
          obtain ⟨z, hz⟩ := Option.ne_none_iff_exists'.1 (mt List.getLast?_eq_none_iff.1 hnil)
          rw [hleft, List.getLast?_append, hz] at hy
          exact hz.trans hy
        obtain ⟨u, hu, hends, hlast⟩ := ih hlast
        refine ⟨u, ?_, by rw [hleft]; exact hends.trans (List.suffix_append t.text left), hlast⟩
        rw [List.getLast?_cons, hu]
        rfl

/-! ## A word ends with its identifier -/

theorem IsChain.concat {chain : List Char} (h : IsChain chain) (hy : isWord y = true) :
    IsChain (chain ++ [y]) := by
  induction h with
  | @name name h =>
      cases name with
      | nil => exact h.elim
      | cons c cs =>
          refine .name ⟨h.1, fun d hd => ?_⟩
          rcases List.mem_append.1 hd with hd | hd
          · exact h.2 d hd
          · rwa [List.mem_singleton.1 hd]
  | @join name chain h _ ih =>
      rw [List.append_assoc]
      exact .join h ih

/-- What comes after the longest chain continues no identifier. -/
theorem IsLongest.not_isWord (h : IsLongest IsChain text word) (htext : text = word ++ left) :
    ∀ y ∈ left.head?, isWord y = false := by
  intro y hy
  rw [← Bool.not_eq_true]
  intro hword
  obtain ⟨more, rfl⟩ := List.head?_eq_some_iff.1 hy
  have hopens : word ++ [y] <+: text := ⟨more, by rw [htext, List.append_assoc]; rfl⟩
  have hlen := h.greatest _ hopens (h.is.concat hword)
  rw [List.length_append, List.length_singleton] at hlen
  omega

/-! ## A word begins where another token ends -/

/-- The names of directives that are one token with the `#` before them. -/
def joinedNames : List (List Char) := ["include", "define", "pragma"].map String.toList

/-- A token that ends in a word character, and at which the reader lets a word begin: a number that
    ends in a digit, a character beyond ASCII, or the name of a directive. -/
inductive CutsName : Token → Prop where
  | number {front : List Char} {y : Char} (hd : isDigit y = true) (hy : isWord y = true) :
      CutsName ⟨.number, front ++ [y]⟩
  | character {y : Char} (hy : isWord y = true) (hwide : 0x80 ≤ y.toNat) :
      CutsName ⟨.symbol, [y]⟩
  | directive {name : List Char} (h : name ∈ joinedNames) : CutsName ⟨.compound, '#' :: name⟩

theorem CutsName.exists_getLast? (h : CutsName u) :
    ∃ y, u.text.getLast? = some y ∧ isWord y = true := by
  cases h with
  | @number front y _ hy => exact ⟨y, List.getLast?_concat, hy⟩
  | @character y hy _ => exact ⟨y, rfl, hy⟩
  | @directive name h =>
      have htable : ∀ name ∈ joinedNames, ('#' :: name).getLast?.any isWord = true := by decide
      exact (Option.any_eq_true _ _).1 (htable name h)

theorem IsNumeral.isDigit_of_isWord {numeral : List Char} (h : IsNumeral numeral)
    (hy : numeral.getLast? = some y) (hword : isWord y = true) : isDigit y = true := by
  cases h with
  | whole _ h => exact h y (List.mem_of_getLast? hy)
  | @point digits fraction _ _ hfraction =>
      rw [List.getLast?_append, List.getLast?_cons] at hy
      cases hlast : fraction.getLast? with
      | none =>
          -- The point is no word character.
          rw [hlast] at hy
          obtain rfl : '.' = y := Option.some.inj hy
          exact absurd hword (by decide)
      | some z =>
          rw [hlast] at hy
          obtain rfl : z = y := Option.some.inj hy
          exact hfraction z (List.mem_of_getLast? hlast)

theorem IsCompound.exists_name {t : List Char} (h : IsCompound t) (hy : t.getLast? = some y)
    (hword : isWord y = true) : ∃ name ∈ joinedNames, t = '#' :: name := by
  have htable : ∀ t ∈ compounds, t.getLast?.any isWord = true →
      ∃ name ∈ joinedNames, t = '#' :: name := by
    decide +kernel
  exact htable t (mem_compounds_iff.2 h) (by rwa [hy])

theorem isWide_of_isWord (h : isWord y = true) (hstart : isWordStart y = false)
    (hdigit : isDigit y = false) : 0x80 ≤ y.toNat := by
  refine Nat.le_of_not_lt fun hlt => ?_
  have hascii : isWord y = true → isWordStart y = true ∨ isDigit y = true := by
    refine ascii_forall (P := fun y => isWord y = true → isWordStart y = true ∨ isDigit y = true)
      ?_ hlt
    decide +kernel
  rcases hascii h with h | h
  · simp [hstart] at h
  · simp [hdigit] at h

/-- The token before a word has been read with the word in view. If it ends in a word character all
    the same, it is none that goes on with the word. -/
theorem FirstToken.cutsName (h : FirstToken d (ds ++ c :: cs) u) (hu : u.text = d :: ds)
    (hc : isWordStart c = true) (hy : u.text.getLast? = some y) (hword : isWord y = true) :
    CutsName u := by
  cases h with
  | @word t _ h =>
      -- The chain would have gone on.
      obtain rfl : t = d :: ds := hu
      have htext : d :: (ds ++ c :: cs) = (d :: ds) ++ c :: cs := rfl
      have hnot := h.not_isWord htext c rfl
      rw [isWord_of_isWordStart hc] at hnot
      cases hnot
  | @number t _ h =>
      obtain ⟨front, hfront⟩ := List.getLast?_eq_some_iff.1 hy
      obtain rfl : t = front ++ [y] := hfront
      exact .number (h.is.isDigit_of_isWord hy hword) hword
  | @compound t _ _ h =>
      obtain ⟨name, hname, rfl⟩ : ∃ name ∈ joinedNames, t = '#' :: name :=
        h.is.exists_name hy hword
      exact .directive hname
  | symbol hc hd _ =>
      obtain rfl : d = y := Option.some.inj hy
      exact .character hword (isWide_of_isWord hword hc hd)

/-- Each word is the longest that can be read where it begins, so no identifier goes on behind it.
    One goes on before it exactly if the token before ends there in a word character; and that token
    is a number, a character beyond ASCII or the name of a directive. -/
theorem words_begin_where_tokens_end (text : List Char) (before after : List Token) (t : Token)
    (htokens : tokens text = before ++ t :: after) (hword : t.kind = .word) :
    ∃ front left, text = front ++ t.text ++ left ∧ tokens front = before ∧ tokens left = after ∧
      (∀ y ∈ left.head?, isWord y = false) ∧
      ((∃ y ∈ front.getLast?, isWord y = true) ↔
        ∃ u ∈ before.getLast?, CutsName u ∧ u.text <:+ front) := by
  have hsplits := splits_tokens text
  rw [htokens] at hsplits
  obtain ⟨front, c, cs, left, rfl, hreads, hfirst, hcs, hleft⟩ := hsplits.part
  obtain ⟨hc, hlongest⟩ : isWordStart c = true ∧ IsLongest IsChain (c :: cs) t.text := by
    cases hfirst with
    | word hc h => exact ⟨hc, h⟩
    | number _ _ | compound _ _ _ | symbol _ _ _ => cases hword
  refine ⟨front, left, by rw [hcs, List.append_assoc], hreads.splits.eq_tokens.symm,
    hleft.eq_tokens.symm, hlongest.not_isWord hcs, ?_, ?_⟩
  · rintro ⟨y, hy, hword⟩
    obtain ⟨u, hu, hends, hlast, d, ds, htext, hd⟩ :=
      hreads.exists_last hy (isBlank_of_isWord hword)
    exact ⟨u, hu, hd.cutsName htext hc hlast hword, hends⟩
  · rintro ⟨u, -, hcuts, body, rfl⟩
    obtain ⟨y, hy, hword⟩ := hcuts.exists_getLast?
    exact ⟨y, by simp [List.getLast?_append, hy], hword⟩

/-- The digit before `in` is a number, and the word is read apart from it. -/
theorem words_begin_where_tokens_end_after_digit :
    ∃ front left, ['1', 'i', 'n'] = front ++ ['i', 'n'] ++ left ∧
      tokens front = [⟨.number, ['1']⟩] ∧ tokens left = [] ∧
      (∀ y ∈ left.head?, isWord y = false) ∧
      ((∃ y ∈ front.getLast?, isWord y = true) ↔
        ∃ u ∈ [(⟨.number, ['1']⟩ : Token)].getLast?, CutsName u ∧ u.text <:+ front) :=
  words_begin_where_tokens_end ['1', 'i', 'n'] [⟨.number, ['1']⟩] [] ⟨.word, ['i', 'n']⟩
    (by decide +kernel) rfl

set_option maxRecDepth 8000 in
/-- The end of an identifier that begins with a letter beyond ASCII is a keyword, and scores. -/
theorem keyword_within_name :
    tokens ['é', 'i', 'n'] = [⟨.symbol, ['é']⟩, ⟨.word, ['i', 'n']⟩] ∧ isWord 'é' = true ∧
      Scores.ofSource ['é', 'i', 'n'] = ⟨1, 0, 0⟩ :=
  ⟨by decide +kernel, by decide +kernel, by cbv⟩

end Playground.Source
