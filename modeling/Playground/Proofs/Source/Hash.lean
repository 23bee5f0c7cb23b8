import Playground.Proofs.Source.FreeShape
import Playground.Proofs.Source.LineForm
import Playground.Proofs.Source.WholeWords

set_option autoImplicit false

/-! # A hash parts a text

A token or an occurrence of an idiom can begin with a `#`, but has none further on. So what is read
before a `#` does not depend on it, and the reader comes to it between two tokens
(`tokens_append_hash`) and outside of all occurrences (`Idiom.countFrom_append_hash`), as it does
with a blank.

What a `#` opens is decided by the very next character: a name makes one token with it only if it
follows at once (`tokens_hash_name`), and so it is with the inclusion of a header
(`count_headerInclusion`). -/

namespace Playground.Source

open Playground.Text

variable {before : Option Char} {c d : Char} {cs text rest front word name blanks : List Char}
  {t : Token} {ts us : List Token} {steps : List Step} {i : Idiom} {passed : Nat}

/-! ## Tokens on both sides -/

/-- A word that does not have the character ends before it. -/
theorem prefix_of_prefix_append_cons (h : word <+: front ++ d :: rest) (hd : d ∉ word) :
    word <+: front := by
  induction front generalizing word with
  | nil =>
      cases word with
      | nil => exact List.nil_prefix
      | cons e word =>
          obtain ⟨rfl, -⟩ := List.cons_prefix_cons.1 h
          exact absurd List.mem_cons_self hd
  | cons e front ih =>
      cases word with
      | nil => exact List.nil_prefix
      | cons f word =>
          obtain ⟨rfl, htail⟩ := List.cons_prefix_cons.1 h
          exact List.cons_prefix_cons.2 ⟨rfl, ih htail fun hmem => hd (List.mem_cons_of_mem f hmem)⟩

theorem ChainRest.hash_not_mem (h : ChainRest cs) : '#' ∉ cs := by
  have hne : ∀ d, isWord d = true → '#' ≠ d := by
    rintro d hd rfl
    revert hd
    decide
  induction h with
  | nil => exact List.not_mem_nil
  | char hc _ ih => exact List.not_mem_cons_of_ne_of_not_mem (hne _ hc) ih
  | link hd _ ih =>
      have hd := hne _ (isWord_of_isWordStart hd)
      simp [hd, ih]

theorem IsChain.hash_not_mem_tail (h : IsChain word) : '#' ∉ word.tail := by
  obtain ⟨c, cs, rfl, -, hcs⟩ := h.chainRest
  exact hcs.hash_not_mem

theorem AllDigits.hash_not_mem (h : AllDigits word) : '#' ∉ word := by
  intro hmem
  have hdigit := h '#' hmem
  revert hdigit
  decide

theorem IsNumeral.hash_not_mem_tail (h : IsNumeral word) : '#' ∉ word.tail := by
  refine fun hmem => ?_
  have hmem := List.mem_of_mem_tail hmem
  cases h with
  | whole _ h => exact h.hash_not_mem hmem
  | point _ h hfraction =>
      simp only [List.mem_append, List.mem_cons] at hmem
      rcases hmem with hmem | hmem | hmem
      · exact h.hash_not_mem hmem
      · cases hmem
      · exact hfraction.hash_not_mem hmem

theorem IsCompound.hash_not_mem_tail (h : IsCompound word) : '#' ∉ word.tail := by
  have htable : ∀ t ∈ compounds, '#' ∉ t.tail := by decide +kernel
  exact htable word (mem_compounds_iff.2 h)

/-- What has no `#` but at its beginning, if there, does not reach a `#` further on. -/
theorem prefix_of_prefix_hash (hword : '#' ∉ word.tail) (h : word <+: c :: (cs ++ '#' :: rest)) :
    word <+: c :: cs := by
  cases word with
  | nil => exact List.nil_prefix
  | cons d word =>
      obtain ⟨rfl, htail⟩ := List.cons_prefix_cons.1 h
      exact List.cons_prefix_cons.2 ⟨rfl, prefix_of_prefix_append_cons htail hword⟩

theorem IsLongest.append_hash {Kind : List Char → Prop}
    (hkind : ∀ word, Kind word → '#' ∉ word.tail) (h : IsLongest Kind (c :: cs) word)
    (rest : List Char) :
    IsLongest Kind (c :: (cs ++ '#' :: rest)) word where
  opens := h.opens.trans (List.prefix_append (c :: cs) ('#' :: rest))
  is := h.is
  greatest := fun other hother his =>
    h.greatest other (prefix_of_prefix_hash (hkind other his) hother) his

theorem FirstToken.append_hash (h : FirstToken c cs t) (rest : List Char) :
    FirstToken c (cs ++ '#' :: rest) t := by
  cases h with
  | word hc h => exact .word hc (h.append_hash (fun _ => IsChain.hash_not_mem_tail) rest)
  | number hd h => exact .number hd (h.append_hash (fun _ => IsNumeral.hash_not_mem_tail) rest)
  | compound hc hd h =>
      exact .compound hc hd (h.append_hash (fun _ => IsCompound.hash_not_mem_tail) rest)
  | symbol hc hd hnone =>
      exact .symbol hc hd fun u hu hopens =>
        hnone u hu (prefix_of_prefix_hash hu.hash_not_mem_tail hopens)

theorem Splits.append_hash (h : Splits text ts) (h' : Splits ('#' :: rest) us) :
    Splits (text ++ '#' :: rest) (ts ++ us) := by
  induction h with
  | nil => exact h'
  | blank hc _ ih => exact .blank hc ih
  | @token c cs left t ts hc ht hleft _ ih =>
      refine .token hc (ht.append_hash rest) ?_ ih
      show (c :: cs) ++ '#' :: rest = t.text ++ (left ++ '#' :: rest)
      rw [hleft, List.append_assoc]

theorem tokens_append_hash (text rest : List Char) :
    tokens (text ++ '#' :: rest) = tokens text ++ tokens ('#' :: rest) :=
  ((splits_tokens text).append_hash (splits_tokens ('#' :: rest))).eq_tokens.symm

/-! ## The token that a hash opens -/

theorem tokens_hash_of_blank (hne : blanks ≠ []) (hblanks : ∀ d ∈ blanks, isBlank d = true)
    (rest : List Char) : tokens ('#' :: (blanks ++ rest)) = ⟨.symbol, ['#']⟩ :: tokens rest := by
  have hhash : tokens ['#'] = [⟨.symbol, ['#']⟩] := by decide +kernel
  have happend := blanks_separate_tokens.1 ['#'] blanks rest hne hblanks
  rwa [hhash] at happend

theorem isCompound_hash_iff : IsCompound ('#' :: name) ↔ name ∈ joinedNames := by
  have htable : ∀ t ∈ compounds, t.head? = some '#' → t.tail ∈ joinedNames := by decide +kernel
  have hnames : ∀ name ∈ joinedNames, '#' :: name ∈ compounds := by decide +kernel
  exact ⟨fun h => htable _ (mem_compounds_iff.2 h) rfl, fun h => mem_compounds_iff.1 (hnames _ h)⟩

/-- None of the names begins with another. -/
theorem eq_of_mem_joinedNames {other : List Char} (h : name ∈ joinedNames)
    (h' : other ∈ joinedNames) (hopens : name <+: text) (hopens' : other <+: text) :
    other = name := by
  have htable : ∀ name ∈ joinedNames, ∀ other ∈ joinedNames,
      name <+: other ∨ other <+: name → other = name := by
    decide
  exact htable name h other h' (List.prefix_or_prefix_of_prefix hopens hopens')

theorem tokens_hash_name (h : name ∈ joinedNames) (rest : List Char) :
    tokens ('#' :: (name ++ rest)) = ⟨.compound, '#' :: name⟩ :: tokens rest := by
  have hlongest : IsLongest IsCompound ('#' :: (name ++ rest)) ('#' :: name) := by
    refine ⟨List.prefix_append ('#' :: name) rest, isCompound_hash_iff.2 h, ?_⟩
    intro other hother his
    cases other with
    | nil => exact Nat.zero_le _
    | cons c other =>
        obtain ⟨rfl, htail⟩ := List.cons_prefix_cons.1 hother
        have heq := eq_of_mem_joinedNames h (isCompound_hash_iff.1 his)
          (List.prefix_append name rest) htail
        exact Nat.le_of_eq (congrArg (fun name => ('#' :: name).length) heq)
  have hsplits : Splits ('#' :: (name ++ rest)) (⟨.compound, '#' :: name⟩ :: tokens rest) :=
    .token (by decide) (.compound (by decide) (by decide) hlongest) rfl (splits_tokens rest)
  exact hsplits.eq_tokens.symm

theorem tokens_hash_other (h : ∀ name ∈ joinedNames, ¬ name <+: rest) :
    tokens ('#' :: rest) = ⟨.symbol, ['#']⟩ :: tokens rest := by
  have hfirst : FirstToken '#' rest ⟨.symbol, ['#']⟩ := by
    refine .symbol (by decide) (by decide) fun t ht hopens => ?_
    cases t with
    | nil => exact absurd ht.2.1 (Nat.not_lt_zero 1)
    | cons c name =>
        obtain ⟨rfl, hname⟩ := List.cons_prefix_cons.1 hopens
        exact h name (isCompound_hash_iff.1 ht) hname
  have hsplits : Splits ('#' :: rest) (⟨.symbol, ['#']⟩ :: tokens rest) :=
    .token (by decide) hfirst rfl (splits_tokens rest)
  exact hsplits.eq_tokens.symm

/-! ## Occurrences on both sides -/

/-- The step covers no `#` and asks nothing about lines. -/
def Step.refusesHash : Step → Bool
  | .one k => !k.has '#'
  | .many k => !k.has '#'
  | .wordEdge => true
  | .lineStart => false
  | .lineEnd => false

theorem matchLength?_append_hash (h : steps.all Step.refusesHash = true) (before : Option Char)
    (text rest : List Char) :
    matchLength? before (text ++ '#' :: rest) steps = matchLength? before text steps := by
  induction steps generalizing before text with
  | nil => rw [matchLength?, matchLength?]
  | cons step steps ih =>
      rw [List.all_cons, Bool.and_eq_true] at h
      have hsteps := ih h.2
      cases step with
      | one k =>
          have hk : k.has '#' = false := by simpa [Step.refusesHash] using h.1
          refine matchLength?_append_cons (fun before text => hsteps before text) (fun before => ?_)
            before text
          rw [matchLength?_one, hk, matchLength?]
          rfl
      | many k =>
          have hk : k.has '#' = false := by simpa [Step.refusesHash] using h.1
          refine matchLength?_append_cons (fun before text => hsteps before text) (fun before => ?_)
            before text
          rw [matchLength?_many_of_stops (by simpa using hk), matchLength?]
          exact hsteps before []
      | wordEdge =>
          refine matchLength?_append_cons (fun before text => hsteps before text) (fun before => ?_)
            before text
          have hedge : isWordEdge before (some '#') = isWordEdge before none := by
            have hword : isWord '#' = false := by decide
            simp [isWordEdge, hword]
          rw [matchLength?, matchLength?, List.head?_cons, hedge, ← hsteps before []]
          rfl
      | lineStart => cases h.1
      | lineEnd => cases h.1

/-- What the shape covers has no `#`, but perhaps the first character. -/
def stopsAtHash : List Step → Bool
  | .one _ :: steps => steps.all Step.refusesHash
  | .wordEdge :: steps => steps.all Step.refusesHash
  | _ => false

namespace Idiom

def stopsAtHash (i : Idiom) : Bool := i.all Source.stopsAtHash

def refusesHash (i : Idiom) : Bool := i.all fun shape => shape.all Step.refusesHash

theorem matchLength?_append_hash (hi : i.stopsAtHash = true) (before : Option Char) (c : Char)
    (text rest : List Char) :
    i.matchLength? before (c :: (text ++ '#' :: rest)) = i.matchLength? before (c :: text) := by
  refine matchLength?_congr fun shape hshape => ?_
  have hstops := List.all_eq_true.1 hi shape hshape
  match shape, hstops with
  | .one k :: steps, hstops =>
      rw [matchLength?_one, matchLength?_one, Source.matchLength?_append_hash hstops]
  | .wordEdge :: steps, hstops =>
      have hsteps := Source.matchLength?_append_hash hstops before (c :: text) rest
      rw [List.cons_append] at hsteps
      rw [Source.matchLength?, Source.matchLength?, hsteps]
      rfl

/-- By induction on the text; an occurrence that has been counted ends within it. -/
theorem countFrom_append_hash (hi : i.stopsAtHash = true) (before : Option Char)
    (hpassed : passed ≤ text.length) (rest : List Char) :
    i.countFrom before passed (text ++ '#' :: rest) =
      i.countFrom before passed text +
        i.countFrom (text.getLast?.or before) 0 ('#' :: rest) := by
  induction text generalizing before passed with
  | nil =>
      obtain rfl : passed = 0 := Nat.le_zero.1 hpassed
      exact (Nat.zero_add _).symm
  | cons c text ih =>
      rw [List.cons_append, getLast?_cons_or]
      cases passed with
      | succ passed => exact ih (some c) (Nat.le_of_succ_le_succ hpassed)
      | zero =>
          rw [countFrom, countFrom, matchLength?_append_hash hi]
          cases hmatch : i.matchLength? before (c :: text) with
          | none => exact ih (some c) (Nat.zero_le _)
          | some n =>
              have hlen := (Idiom.matchLength?_eq_some_iff.1 hmatch).length_le
              rw [List.length_cons] at hlen
              have hpassed : n - 1 ≤ text.length := by omega
              simp only [ih (some c) hpassed, Nat.add_assoc]

/-- The character before a place does not matter if no match depends on it. -/
theorem countFrom_before {before' : Option Char}
    (h : ∀ text, i.matchLength? before text = i.matchLength? before' text) (text : List Char) :
    i.countFrom before 0 text = i.countFrom before' 0 text := by
  cases text with
  | nil => rfl
  | cons c text => rw [countFrom, countFrom, h]

theorem matchLength?_nil (hi : i.coversSome = true) (before : Option Char) :
    i.matchLength? before [] = none := by
  cases hm : i.matchLength? before [] with
  | none => rfl
  | some n =>
      have hmatches := Idiom.matchLength?_eq_some_iff.1 hm
      have hpos := hmatches.length_pos hi
      have hle := hmatches.length_le
      exact absurd hpos (Nat.not_lt.2 hle)

/-- An idiom that has no `#` anywhere is counted on both sides of one. -/
theorem count_hash (hi : i.isFree = true) (hrefuses : i.refusesHash = true)
    (hstops : i.stopsAtHash = true) (hcovers : i.coversSome = true)
    (hblanks : ∀ d ∈ blanks, isBlank d = true) (text rest : List Char) :
    i.count (text ++ '#' :: (blanks ++ rest)) = i.count text + i.count rest := by
  have hnone : ∀ before, i.matchLength? before ('#' :: (blanks ++ rest)) = none := by
    intro before
    rw [← matchLength?_nil hcovers before]
    exact matchLength?_congr fun shape hshape =>
      Source.matchLength?_append_hash (List.all_eq_true.1 hrefuses shape hshape) before [] _
  have hbefore : ∀ text, i.matchLength? (some '#') text = i.matchLength? none text := by
    refine fun text => matchLength?_congr fun shape hshape => matchLength?_before ?_ ?_ text
    · decide
    · intro hmem
      have hfree := List.all_eq_true.1 (isFree_shape hi shape hshape).1 _ hmem
      cases hfree
  rw [count, countFrom_append_hash hstops none (Nat.zero_le _), countFrom_of_none (hnone _),
    countFrom_before hbefore, ← count, ← count, count_append_of_blank hi hblanks]

end Idiom

/-! ## The inclusion of a header -/

/-- The text goes on from a `#` as the inclusion of a header does. -/
def IsInclusion (text : List Char) : Prop :=
  ∃ blanks path left, text = String.toList "include" ++ blanks ++ '<' :: path ++ '>' :: left ∧
    (∀ c ∈ blanks, isBlank c = true) ∧ path ≠ [] ∧
    ∀ c ∈ path, isWord c = true ∨ c = '.' ∨ c = '/'

/-- What has to come after the `#`. -/
def inclusionSteps : List Step :=
  spelled "include" ++ .many .blank :: .one (.only '<') :: .one .headerPath :: .many .headerPath ::
    [.one (.only '>')]

theorem matchLength?_headerInclusion (before : Option Char) (c : Char) (cs : List Char) :
    Vocabulary.headerInclusion.matchLength? before (c :: cs) =
      if c = '#' then (matchLength? (some c) cs inclusionSteps).map (· + 1) else none := by
  have hshape : Vocabulary.headerInclusion = [.one (.only '#') :: inclusionSteps] := by decide
  rw [hshape, Idiom.matchLength?, List.findSome?_singleton, matchLength?_one]
  simp [CharClass.has]

theorem isSome_inclusionSteps :
    (matchLength? before text inclusionSteps).isSome = true ↔ IsInclusion text := by
  have hpath : ∀ c, CharClass.headerPath.has c = true ↔ isWord c = true ∨ c = '.' ∨ c = '/' := by
    simp [CharClass.has, or_assoc]
  unfold inclusionSteps spelled
  constructor
  · intro h
    obtain ⟨left, rfl, hinclude⟩ := (isSome_spelled _).1 h
    obtain ⟨blanks, left, rfl, hblanks, h⟩ := isSome_many.1 hinclude
    obtain ⟨opening, left, rfl, hopening, h⟩ := isSome_one.1 h
    obtain ⟨c, left, rfl, hc, h⟩ := isSome_one.1 h
    obtain ⟨path, left, rfl, hmore, h⟩ := isSome_many.1 h
    obtain ⟨closing, left, rfl, hclosing, -⟩ := isSome_one.1 h
    obtain rfl : opening = '<' := by simpa [CharClass.has] using hopening
    obtain rfl : closing = '>' := by simpa [CharClass.has] using hclosing
    refine ⟨blanks, c :: path, left, by simp, hblanks, List.cons_ne_nil c path, ?_⟩
    exact List.forall_mem_cons.2 ⟨(hpath c).1 hc, fun d hd => (hpath d).1 (hmore d hd)⟩
  · rintro ⟨blanks, path, left, rfl, hblanks, hne, hall⟩
    obtain ⟨c, path, rfl⟩ := List.exists_cons_of_ne_nil hne
    rw [List.forall_mem_cons] at hall
    refine (isSome_spelled _).2 ⟨blanks ++ '<' :: c :: (path ++ '>' :: left), by simp, ?_⟩
    refine isSome_many.2 ⟨blanks, '<' :: c :: (path ++ '>' :: left), rfl, hblanks, ?_⟩
    refine isSome_one.2 ⟨'<', c :: (path ++ '>' :: left), rfl, rfl, ?_⟩
    refine isSome_one.2 ⟨c, path ++ '>' :: left, rfl, (hpath c).2 hall.1, ?_⟩
    refine isSome_many.2 ⟨path, '>' :: left, rfl, fun d hd => (hpath d).2 (hall.2 d hd), ?_⟩
    refine isSome_one.2 ⟨'>', left, rfl, rfl, ?_⟩
    rw [matchLength?]
    rfl

instance : DecidablePred IsInclusion := fun text =>
  decidable_of_iff ((matchLength? none text inclusionSteps).isSome = true) isSome_inclusionSteps

theorem IsInclusion.not_of_blank (hne : blanks ≠ []) (hblanks : ∀ d ∈ blanks, isBlank d = true) :
    ¬ IsInclusion (blanks ++ rest) := by
  rintro ⟨_, path, left, heq, -⟩
  obtain ⟨d, blanks, rfl⟩ := List.exists_cons_of_ne_nil hne
  have hd := hblanks d List.mem_cons_self
  -- The first letter of the name is no blank.
  obtain rfl : d = 'i' := (List.cons.inj heq).1
  revert hd
  decide

theorem IsInclusion.prefix (h : IsInclusion text) : String.toList "include" <+: text := by
  obtain ⟨blanks, path, left, rfl, -⟩ := h
  simp [List.append_assoc]

theorem countFrom_headerInclusion (before : Option Char) (text : List Char) :
    Vocabulary.headerInclusion.countFrom before 0 text = Vocabulary.headerInclusion.count text := by
  refine Idiom.countFrom_before (fun text => ?_) text
  cases text with
  | nil => rw [Idiom.matchLength?_nil (by decide), Idiom.matchLength?_nil (by decide)]
  | cons c text => rw [matchLength?_headerInclusion, matchLength?_headerInclusion]

/-- Nothing begins where there is no `#`. -/
theorem count_headerInclusion_append (hfront : '#' ∉ front) (rest : List Char) :
    Vocabulary.headerInclusion.count (front ++ rest) = Vocabulary.headerInclusion.count rest := by
  induction front with
  | nil => rfl
  | cons c front ih =>
      rw [List.mem_cons, not_or] at hfront
      have hnone : Vocabulary.headerInclusion.matchLength? none (c :: (front ++ rest)) = none := by
        rw [matchLength?_headerInclusion, if_neg (fun hc => hfront.1 hc.symm)]
      rw [← ih hfront.2, List.cons_append, Idiom.count, Idiom.countFrom_of_none hnone]
      exact countFrom_headerInclusion (some c) _

/-- What is covered is over before the next `#`. -/
theorem exists_covered {n : Nat} (h : steps.all Step.refusesHash = true)
    (hn : matchLength? before text steps = some n) :
    ∃ covered left, text = covered ++ left ∧ covered.length = n ∧ '#' ∉ covered := by
  -- The part of the text before the first hash is long enough.
  obtain ⟨front, rest, rfl, hfront, hm⟩ : ∃ front rest, text = front ++ rest ∧ '#' ∉ front ∧
      matchLength? before front steps = some n := by
    by_cases hmem : '#' ∈ text
    · obtain ⟨front, rest, rfl, hfront⟩ := List.eq_append_cons_of_mem hmem
      exact ⟨front, '#' :: rest, rfl, hfront, (matchLength?_append_hash h before front rest) ▸ hn⟩
    · exact ⟨text, [], (List.append_nil text).symm, hmem, hn⟩
  obtain ⟨runs, hfits, -⟩ := matchLength?_eq_some_iff.1 hm
  refine ⟨front.take n, front.drop n ++ rest, ?_, ?_, ?_⟩
  · rw [← List.append_assoc, List.take_append_drop]
  · exact List.length_take_of_le hfits.length_le
  · exact fun hmem => hfront (List.mem_of_mem_take hmem)

/-- A `#` that opens an inclusion is one occurrence more. -/
theorem count_headerInclusion (text rest : List Char) :
    Vocabulary.headerInclusion.count (text ++ '#' :: rest) =
      Vocabulary.headerInclusion.count text + Vocabulary.headerInclusion.count rest +
        if IsInclusion rest then 1 else 0 := by
  rw [Idiom.count, Idiom.countFrom_append_hash (by decide) none (Nat.zero_le _), ← Idiom.count]
  have hmatch := matchLength?_headerInclusion (text.getLast?.or none) '#' rest
  rw [if_pos rfl] at hmatch
  cases hm : matchLength? (some '#') rest inclusionSteps with
  | none =>
      have hnot : ¬ IsInclusion rest := by
        rw [← @isSome_inclusionSteps (some '#'), hm]
        exact Bool.false_ne_true
      rw [hm] at hmatch
      rw [if_neg hnot, Idiom.countFrom_of_none hmatch, Nat.add_zero]
      exact congrArg _ (countFrom_headerInclusion (some '#') rest)
  | some n =>
      have his : IsInclusion rest := by
        rw [← @isSome_inclusionSteps (some '#'), hm]
        rfl
      obtain ⟨covered, left, rfl, rfl, hcovered⟩ := exists_covered (by decide) hm
      rw [hm] at hmatch
      have hcount := @Idiom.countFrom_of_match _ _ ('#' :: covered) _ hmatch (by decide)
      rw [if_pos his, Nat.add_assoc]
      refine congrArg _ (hcount.trans ?_)
      rw [countFrom_headerInclusion, count_headerInclusion_append hcovered, Nat.add_comm]

end Playground.Source
