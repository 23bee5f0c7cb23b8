import Playground.Proofs.Source.Longest
import Playground.Proofs.Source.Tally

set_option autoImplicit false

/-! # Doubled spaces do not count

Where there is a space, one more makes no difference: the tokens stay the same, and so does the
count of each idiom of the vocabularies.

For tokens this is so because none of them has a blank in it, so that the texts of a kind that can
be read at a place are the same (`Widens.opensAlike`). For idioms it depends on how their shapes are
built (`isElastic`): a step that can cover a space is a repetition or has one after it that takes
the second space, and nothing else can go on between two spaces. Then a shape fits before the
change where it fits after it, and what is covered differs by the new spaces alone (`SameMatch`). -/

namespace Playground.Source

open Playground.Text

/-- The second text is the first with some of its spaces doubled. -/
inductive Widens : List Char → List Char → Prop where
  | nil : Widens [] []
  | same {cs ds : List Char} (c : Char) (rest : Widens cs ds) : Widens (c :: cs) (c :: ds)
  | twice {cs ds : List Char} (rest : Widens cs ds) : Widens (' ' :: cs) (' ' :: ' ' :: ds)

variable {x y text left word : List Char} {before : Option Char} {steps : List Step}

namespace Widens

theorem refl (x : List Char) : Widens x x := by
  induction x with
  | nil => exact .nil
  | cons c x ih => exact .same c ih

theorem append {x' y' : List Char} (h : Widens x y) (h' : Widens x' y') :
    Widens (x ++ x') (y ++ y') := by
  induction h with
  | nil => exact h'
  | same c rest ih => exact .same c ih
  | twice rest ih => exact .twice ih

theorem head?_eq (h : Widens x y) : y.head? = x.head? := by
  cases h <;> rfl

theorem getLast?_eq (h : Widens x y) : y.getLast? = x.getLast? := by
  induction h with
  | nil => rfl
  | same c rest ih | twice rest ih => simp [List.getLast?_cons, ih]

/-! ## Tokens -/

theorem opensAlike (h : Widens x y) : OpensAlike x y := by
  have hspace : ∀ cs, BeginsBlank (' ' :: cs) := BeginsBlank.cons (by decide)
  induction h with
  | nil => exact fun word _ => Iff.rfl
  | same c rest ih => exact ih.cons c
  | twice rest ih => exact (hspace _).opensAlike (hspace _)

theorem exists_append (h : Widens (word ++ left) y) (hword : ∀ d ∈ word, isBlank d = false) :
    ∃ left', y = word ++ left' ∧ Widens left left' := by
  induction word generalizing y with
  | nil => exact ⟨y, rfl, h⟩
  | cons c word ih =>
      rw [List.forall_mem_cons] at hword
      cases h with
      | same _ rest =>
          obtain ⟨left', rfl, hleft⟩ := ih rest hword.2
          exact ⟨left', rfl, hleft⟩
      | twice rest =>
          -- A doubled space is no part of the word.
          exact absurd hword.1 (by decide)

end Widens

theorem Splits.widens {ts : List Token} (h : Splits x ts) (hxy : Widens x y) : Splits y ts := by
  induction h generalizing y with
  | nil =>
      cases hxy
      exact .nil
  | blank hc rest ih =>
      cases hxy with
      | same _ hrest => exact .blank hc (ih hrest)
      | twice hrest => exact .blank hc (.blank hc (ih hrest))
  | @token c cs left t ts hc ht hleft rest ih =>
      have hsplit := hxy
      rw [hleft] at hsplit
      obtain ⟨left', hleft', hrest⟩ := hsplit.exists_append (ht.no_blank hc)
      cases hxy with
      | same _ hcs => exact .token hc ((Widens.same c hcs).opensAlike.firstToken ht) hleft' (ih hrest)
      | twice _ => exact absurd hc (by decide)

/-- Tokens are not affected by a doubled space. -/
theorem Widens.tokens_eq (h : Widens x y) : tokens y = tokens x :=
  ((splits_tokens x).widens h).eq_tokens.symm

/-! ## Idioms that stretch -/

/-- The next step is a repetition that can cover spaces. -/
def repeatsSpaces : List Step → Bool
  | .many k :: _ => k.has ' '
  | _ => false

/-- The steps cannot be laid on a text between two spaces. -/
def refusesSpace : List Step → Bool
  | [] => false
  | .one k :: _ => !k.has ' '
  | .many k :: steps => !k.has ' ' && refusesSpace steps
  | .wordEdge :: _ => true
  | .lineStart :: _ => true
  | .lineEnd :: _ => true

/-- Between two spaces only a repetition that covers both of them can go on. -/
def isElastic : List Step → Bool
  | [] => true
  | .one k :: steps => (!k.has ' ' || repeatsSpaces steps) && isElastic steps
  | .many k :: steps => (!k.has ' ' || refusesSpace steps) && isElastic steps
  | .wordEdge :: steps => isElastic steps
  | .lineStart :: steps => isElastic steps
  | .lineEnd :: steps => isElastic steps

theorem isElastic_of_cons {step : Step} (h : isElastic (step :: steps) = true) :
    isElastic steps = true := by
  cases step <;> simp_all [isElastic]

/-- Each shape of the idiom stretches where spaces are doubled, and none begins between them. -/
def Idiom.isElastic (i : Idiom) : Bool :=
  i.all fun shape => Source.isElastic shape && refusesSpace shape

theorem isElastic_of_mem_idioms (l : Language) :
    ∀ i ∈ l.vocabulary.idioms, Idiom.isElastic i = true := by
  cases l <;> decide

/-! ## A shape on both texts -/

/-- Nothing is covered of either text, or two parts that widen each other, and what is left does so
    too. -/
inductive SameMatch : List Char → List Char → Option Nat → Option Nat → Prop where
  | none {x y : List Char} : SameMatch x y .none .none
  | some {x₁ y₁ x₂ y₂ : List Char} (covered : Widens x₁ y₁) (rest : Widens x₂ y₂) :
      SameMatch (x₁ ++ x₂) (y₁ ++ y₂) (.some x₁.length) (.some y₁.length)

namespace SameMatch

variable {m n : Option Nat}

theorem same (c : Char) (h : SameMatch x y m n) :
    SameMatch (c :: x) (c :: y) (m.map (· + 1)) (n.map (· + 1)) := by
  cases h with
  | none => exact .none
  | some covered rest => exact .some (.same c covered) rest

theorem twice (h : SameMatch x y m n) :
    SameMatch (' ' :: x) (' ' :: ' ' :: y) (m.map (· + 1)) ((n.map (· + 1)).map (· + 1)) := by
  cases h with
  | none => exact .none
  | some covered rest => exact .some (.twice covered) rest

theorem orElse {m' n' : Option Nat} (h : SameMatch x y m n) (h' : SameMatch x y m' n') :
    SameMatch x y (m.or m') (n.or n') := by
  cases h with
  | none => exact h'
  | some covered rest => exact .some covered rest

end SameMatch

theorem matchLength?_one (before : Option Char) (k : CharClass) (c : Char) (cs : List Char)
    (steps : List Step) :
    matchLength? before (c :: cs) (.one k :: steps) =
      if k.has c then (matchLength? (some c) cs steps).map (· + 1) else none := by
  rw [matchLength?]

/-- A repetition covers one character more, or else it is over. -/
theorem matchLength?_many (before : Option Char) (k : CharClass) (c : Char) (cs : List Char)
    (steps : List Step) :
    matchLength? before (c :: cs) (.many k :: steps) =
      ((if k.has c then (matchLength? (some c) cs (.many k :: steps)).map (· + 1) else none).or
        (matchLength? before (c :: cs) steps)) := by
  rw [matchLength?]
  split
  · cases matchLength? (some c) cs (.many k :: steps) <;> rfl
  · rfl

theorem matchLength?_between (h : refusesSpace steps = true) (cs : List Char) :
    matchLength? (some ' ') (' ' :: cs) steps = none := by
  induction steps with
  | nil => cases h
  | cons step steps ih =>
      cases step with
      | one k =>
          have hk : k.has ' ' = false := by simpa [refusesSpace] using h
          simp [matchLength?_one, hk]
      | many k =>
          simp only [refusesSpace, Bool.and_eq_true, Bool.not_eq_true'] at h
          simp [matchLength?_many, h.1, ih h.2]
      | wordEdge =>
          have hedge : isWordEdge (some ' ') (some ' ') = false := by decide
          rw [matchLength?, List.head?_cons, hedge]
          rfl
      | lineStart => simp [matchLength?]
      | lineEnd => simp [matchLength?]

/-- A repetition of spaces takes the second of two. -/
theorem matchLength?_second (h : repeatsSpaces steps = true) (hel : isElastic steps = true)
    (cs : List Char) :
    matchLength? (some ' ') (' ' :: cs) steps =
      (matchLength? (some ' ') cs steps).map (· + 1) := by
  match steps, h with
  | .many k :: steps, h =>
      have hk : k.has ' ' = true := h
      have hstop : refusesSpace steps = true := by
        simp only [isElastic, hk, Bool.not_true, Bool.false_or, Bool.and_eq_true] at hel
        exact hel.1
      rw [matchLength?_many, if_pos hk, matchLength?_between hstop, Option.or_none]

theorem sameMatch_one {k : CharClass}
    (hel : isElastic (.one k :: steps) = true)
    (ih : ∀ before x y, Widens x y →
      SameMatch x y (matchLength? before x steps) (matchLength? before y steps))
    (h : Widens x y) (before : Option Char) :
    SameMatch x y (matchLength? before x (.one k :: steps))
      (matchLength? before y (.one k :: steps)) := by
  simp only [isElastic, Bool.and_eq_true, Bool.or_eq_true, Bool.not_eq_true'] at hel
  cases h with
  | nil =>
      rw [matchLength?]
      exact .none
  | same c rest =>
      rw [matchLength?_one, matchLength?_one]
      split
      · exact (ih (some c) _ _ rest).same c
      · exact .none
  | twice rest =>
      rw [matchLength?_one, matchLength?_one]
      by_cases hk : k.has ' ' = true
      · have hrepeats : repeatsSpaces steps = true := hel.1.resolve_left (by simp [hk])
        rw [if_pos hk, if_pos hk, matchLength?_second hrepeats hel.2]
        exact (ih (some ' ') _ _ rest).twice
      · rw [if_neg hk, if_neg hk]
        exact .none

/-- A repetition, by induction on the texts. -/
theorem sameMatch_many {k : CharClass}
    (hel : isElastic (.many k :: steps) = true)
    (ih : ∀ before x y, Widens x y →
      SameMatch x y (matchLength? before x steps) (matchLength? before y steps))
    (h : Widens x y) (before : Option Char) :
    SameMatch x y (matchLength? before x (.many k :: steps))
      (matchLength? before y (.many k :: steps)) := by
  induction h generalizing before with
  | nil =>
      rw [matchLength?]
      exact ih before _ _ .nil
  | same c rest ihrest =>
      rw [matchLength?_many, matchLength?_many]
      refine SameMatch.orElse ?_ (ih before _ _ (.same c rest))
      split
      · exact (ihrest (some c)).same c
      · exact .none
  | twice rest ihrest =>
      rw [matchLength?_many, matchLength?_many]
      refine SameMatch.orElse ?_ (ih before _ _ (.twice rest))
      split
      · next hk =>
          rw [@matchLength?_second (.many k :: steps) hk hel]
          exact (ihrest (some ' ')).twice
      · exact .none

theorem sameMatch_matchLength? (hel : isElastic steps = true) (h : Widens x y)
    (before : Option Char) :
    SameMatch x y (matchLength? before x steps) (matchLength? before y steps) := by
  induction steps generalizing before x y with
  | nil =>
      rw [matchLength?, matchLength?]
      exact @SameMatch.some [] [] x y .nil h
  | cons step steps ih =>
      have hrest := isElastic_of_cons hel
      cases step with
      | one k => exact sameMatch_one hel (fun before x y h => ih hrest h before) h before
      | many k => exact sameMatch_many hel (fun before x y h => ih hrest h before) h before
      | wordEdge | lineEnd =>
          rw [matchLength?, matchLength?, h.head?_eq]
          split
          · exact ih hrest h before
          · exact .none
      | lineStart =>
          rw [matchLength?, matchLength?]
          split
          · exact ih hrest h before
          · exact .none

/-! ## An idiom on both texts -/

namespace Idiom

variable {i : Idiom}

theorem sameMatch (hel : i.isElastic = true) (h : Widens x y) (before : Option Char) :
    SameMatch x y (i.matchLength? before x) (i.matchLength? before y) := by
  unfold Idiom.matchLength?
  induction i with
  | nil => exact .none
  | cons shape i ih =>
      simp only [isElastic, List.all_cons, Bool.and_eq_true] at hel
      rw [List.findSome?_cons, List.findSome?_cons]
      have hshape := sameMatch_matchLength? hel.1.1 h before
      have hrest := ih (by simpa [isElastic] using hel.2)
      have hor := hshape.orElse hrest
      cases hm : Source.matchLength? before x shape <;>
        cases hn : Source.matchLength? before y shape <;> simpa [hm, hn] using hor

theorem matchLength?_between (hel : i.isElastic = true) (cs : List Char) :
    i.matchLength? (some ' ') (' ' :: cs) = none := by
  unfold Idiom.matchLength?
  rw [List.findSome?_eq_none_iff]
  intro shape hshape
  have hall := List.all_eq_true.1 hel shape hshape
  rw [Bool.and_eq_true] at hall
  exact Source.matchLength?_between hall.2 cs

/-- The character before a place, once a run of characters has been passed. -/
theorem getLast?_cons_or (c : Char) (run : List Char) (before : Option Char) :
    (c :: run).getLast?.or before = run.getLast?.or (some c) := by
  rw [List.getLast?_cons]
  cases run.getLast? <;> rfl

/-- The count goes on behind what has been passed. -/
theorem countFrom_passed (i : Idiom) (before : Option Char) (covered rest : List Char) :
    i.countFrom before covered.length (covered ++ rest) =
      i.countFrom (covered.getLast?.or before) 0 rest := by
  induction covered generalizing before with
  | nil => rfl
  | cons c covered ih =>
      show i.countFrom (some c) covered.length (covered ++ rest) = _
      rw [ih, getLast?_cons_or]

theorem countFrom_of_match {covered rest : List Char}
    (hm : i.matchLength? before (covered ++ rest) = some covered.length)
    (hcovers : i.coversSome = true) :
    i.countFrom before 0 (covered ++ rest) =
      1 + i.countFrom (covered.getLast?.or before) 0 rest := by
  cases covered with
  | nil =>
      have hpos := (Idiom.matchLength?_eq_some_iff.1 hm).length_pos hcovers
      cases hpos
  | cons c covered =>
      rw [← countFrom_passed]
      rw [List.cons_append] at hm ⊢
      rw [countFrom, hm]
      rfl

theorem countFrom_of_none {c : Char} {cs : List Char}
    (hm : i.matchLength? before (c :: cs) = none) :
    i.countFrom before 0 (c :: cs) = i.countFrom (some c) 0 cs := by
  rw [countFrom, hm]

/-- By induction on the length of what is left, since a match passes several characters. -/
theorem countFrom_widens (hel : i.isElastic = true) (hcovers : i.coversSome = true) (n : Nat)
    (hn : x.length ≤ n) (h : Widens x y) (before : Option Char) :
    i.countFrom before 0 y = i.countFrom before 0 x := by
  induction n generalizing x y before with
  | zero =>
      obtain rfl := List.length_eq_zero_iff.1 (Nat.le_zero.1 hn)
      cases h
      rfl
  | succ n ih =>
      have hmatch := sameMatch hel h before
      generalize hm : i.matchLength? before x = m at hmatch
      generalize hm' : i.matchLength? before y = m' at hmatch
      cases hmatch with
      | none =>
          cases h with
          | nil => rfl
          | same c rest =>
              rw [countFrom_of_none hm, countFrom_of_none hm']
              exact ih (Nat.le_of_succ_le_succ hn) rest (some c)
          | twice rest =>
              -- Nothing begins between the two spaces, either.
              rw [countFrom_of_none hm, countFrom_of_none hm',
                countFrom_of_none (matchLength?_between hel _)]
              exact ih (Nat.le_of_succ_le_succ hn) rest (some ' ')
      | @some x₁ y₁ x₂ y₂ covered rest =>
          have hpos := (Idiom.matchLength?_eq_some_iff.1 hm).length_pos hcovers
          rw [List.length_append] at hn
          rw [countFrom_of_match hm hcovers, countFrom_of_match hm' hcovers, covered.getLast?_eq,
            ih (by omega) rest]

theorem count_widens (hel : i.isElastic = true) (hcovers : i.coversSome = true) (h : Widens x y) :
    i.count y = i.count x :=
  countFrom_widens hel hcovers x.length (Nat.le_refl _) h none

end Idiom

theorem Widens.count_eq (h : Widens x y) (l : Language) :
    ∀ i ∈ l.vocabulary.idioms, i.count y = i.count x := fun i hi =>
  Idiom.count_widens (isElastic_of_mem_idioms l i hi) (l.coversSome_of_mem_idioms i hi) h

theorem Widens.ofStripped_eq (h : Widens x y) : Scores.ofStripped y = Scores.ofStripped x :=
  Scores.ofStripped_congr h.tokens_eq h.count_eq

end Playground.Source
