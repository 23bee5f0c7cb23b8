import Playground.Source.Idiom

set_option autoImplicit false

/-! # Occurrences of idioms

What it means that an idiom occurs in a text is said here without saying how it is found. Where a
shape can be laid on a text (`Fits`), it often can be in several ways, which differ in how long the
runs of its repetitions are; the one that is taken is the greatest of them in the order of these
lengths, the first run weighing most (`Prefers`). The occurrences of an idiom are the matches that
are met from left to right, each search going on where the last match ended (`Idiom.Leftmost`).

The matcher of `Source.Idiom` finds these matches and no others, and what it counts is the number of
these occurrences. -/

namespace Playground.Source

/-! ## Laying a shape on a text -/

/-- The steps can be laid on the text at a place between characters, so that they cover `n` of them
    and the runs of the repetitions are as long as `runs` says. -/
inductive Fits : Option Char → List Char → List Step → List Nat → Nat → Prop where
  | nil {before : Option Char} {after : List Char} : Fits before after [] [] 0
  | one {before : Option Char} {c : Char} {cs : List Char} {k : CharClass} {steps : List Step}
      {runs : List Nat} {n : Nat} (has : k.has c = true) (rest : Fits (some c) cs steps runs n) :
      Fits before (c :: cs) (.one k :: steps) runs (n + 1)
  | stop {before : Option Char} {after : List Char} {k : CharClass} {steps : List Step}
      {runs : List Nat} {n : Nat} (rest : Fits before after steps runs n) :
      Fits before after (.many k :: steps) (0 :: runs) n
  | more {before : Option Char} {c : Char} {cs : List Char} {k : CharClass} {steps : List Step}
      {run : Nat} {runs : List Nat} {n : Nat} (has : k.has c = true)
      (rest : Fits (some c) cs (.many k :: steps) (run :: runs) n) :
      Fits before (c :: cs) (.many k :: steps) ((run + 1) :: runs) (n + 1)
  | wordEdge {before : Option Char} {after : List Char} {steps : List Step} {runs : List Nat}
      {n : Nat} (edge : isWordEdge before after.head? = true)
      (rest : Fits before after steps runs n) : Fits before after (.wordEdge :: steps) runs n
  | lineStart {before : Option Char} {after : List Char} {steps : List Step} {runs : List Nat}
      {n : Nat} (edge : before.all (· == '\n') = true) (rest : Fits before after steps runs n) :
      Fits before after (.lineStart :: steps) runs n
  | lineEnd {before : Option Char} {after : List Char} {steps : List Step} {runs : List Nat}
      {n : Nat} (edge : after.head?.all (· == '\n') = true)
      (rest : Fits before after steps runs n) : Fits before after (.lineEnd :: steps) runs n

/-- Of all ways to lay the steps on the text, the one whose runs are the longest, the first run
    weighing most, covers `n` characters. -/
def Prefers (before : Option Char) (after : List Char) (steps : List Step) (n : Nat) : Prop :=
  ∃ runs, Fits before after steps runs n ∧
    ∀ runs' n', Fits before after steps runs' n' → runs' = runs ∨ List.Lex (· < ·) runs' runs

variable {before : Option Char} {after : List Char} {steps : List Step} {runs runs' : List Nat}
  {n n' : Nat}

/-- The runs say how much is covered. -/
theorem Fits.length_unique (h : Fits before after steps runs n) :
    ∀ {n' : Nat}, Fits before after steps runs n' → n' = n := by
  induction h with
  | nil =>
      intro n' h'
      cases h'
      rfl
  | one _ _ ih =>
      intro n' h'
      cases h' with
      | one _ rest => rw [ih rest]
  | stop _ ih =>
      intro n' h'
      cases h' with
      | stop rest => exact ih rest
  | more _ _ ih =>
      intro n' h'
      cases h' with
      | more _ rest => rw [ih rest]
  | wordEdge _ _ ih =>
      intro n' h'
      cases h' with
      | wordEdge _ rest => exact ih rest
  | lineStart _ _ ih =>
      intro n' h'
      cases h' with
      | lineStart _ rest => exact ih rest
  | lineEnd _ _ ih =>
      intro n' h'
      cases h' with
      | lineEnd _ rest => exact ih rest

theorem Fits.length_le (h : Fits before after steps runs n) : n ≤ after.length := by
  induction h with
  | nil => exact Nat.zero_le _
  | one _ _ ih | more _ _ ih => exact Nat.succ_le_succ ih
  | stop _ ih | wordEdge _ _ ih | lineStart _ _ ih | lineEnd _ _ ih => exact ih

/-- Does the step cover a character wherever it fits? -/
def Step.isOne : Step → Bool
  | .one _ => true
  | _ => false

theorem Fits.length_pos (h : Fits before after steps runs n) (hone : steps.any Step.isOne = true) :
    0 < n := by
  induction h with
  | nil => exact absurd hone (by decide)
  | one _ _ _ | more _ _ _ => exact Nat.succ_pos _
  | stop _ ih | wordEdge _ _ ih | lineStart _ _ ih | lineEnd _ _ ih => exact ih hone

/-- There is one preferred way, so it covers one number of characters. -/
theorem Prefers.unique (h : Prefers before after steps n) (h' : Prefers before after steps n') :
    n = n' := by
  obtain ⟨runs, hfits, hmax⟩ := h
  obtain ⟨runs', hfits', hmax'⟩ := h'
  have heq : runs = runs' := by
    rcases hmax' runs n hfits with heq | hlt
    · exact heq
    · rcases hmax runs' n' hfits' with heq | hgt
      · exact heq.symm
      · exact absurd hgt (List.lex_asymm Nat.lt_asymm hlt)
  subst heq
  exact hfits'.length_unique hfits

theorem fits_wordEdge_iff : Fits before after (.wordEdge :: steps) runs n ↔
    isWordEdge before after.head? = true ∧ Fits before after steps runs n := by
  refine ⟨?_, fun h => .wordEdge h.1 h.2⟩
  rintro ⟨⟩
  exact ⟨‹_›, ‹_›⟩

theorem fits_lineStart_iff : Fits before after (.lineStart :: steps) runs n ↔
    before.all (· == '\n') = true ∧ Fits before after steps runs n := by
  refine ⟨?_, fun h => .lineStart h.1 h.2⟩
  rintro ⟨⟩
  exact ⟨‹_›, ‹_›⟩

theorem fits_lineEnd_iff : Fits before after (.lineEnd :: steps) runs n ↔
    after.head?.all (· == '\n') = true ∧ Fits before after steps runs n := by
  refine ⟨?_, fun h => .lineEnd h.1 h.2⟩
  rintro ⟨⟩
  exact ⟨‹_›, ‹_›⟩

/-! ## The matcher takes the preferred way -/

theorem Prefers.nil : Prefers before after [] 0 := by
  refine ⟨[], .nil, ?_⟩
  intro runs' n' h
  cases h
  exact .inl rfl

theorem Prefers.one {c : Char} {cs : List Char} {k : CharClass} (hc : k.has c = true)
    (h : Prefers (some c) cs steps n) : Prefers before (c :: cs) (.one k :: steps) (n + 1) := by
  obtain ⟨runs, hfits, hmax⟩ := h
  refine ⟨runs, .one hc hfits, ?_⟩
  intro runs' n' h'
  cases h' with
  | one _ rest => exact hmax _ _ rest

/-- A run that can go on is preferred to one that stops. -/
theorem Prefers.more {c : Char} {cs : List Char} {k : CharClass} (hc : k.has c = true)
    (h : Prefers (some c) cs (.many k :: steps) n) :
    Prefers before (c :: cs) (.many k :: steps) (n + 1) := by
  obtain ⟨runs, hfits, hmax⟩ := h
  obtain ⟨run, runs, rfl⟩ : ∃ run rest, runs = run :: rest := by
    cases hfits with
    | stop _ | more _ _ => exact ⟨_, _, rfl⟩
  refine ⟨(run + 1) :: runs, .more hc hfits, ?_⟩
  intro runs' n' h'
  cases h' with
  | stop _ => exact .inr (.rel (Nat.succ_pos run))
  | more _ rest =>
      rcases hmax _ _ rest with heq | hlt
      · cases heq
        exact .inl rfl
      · cases hlt with
        | rel hlt => exact .inr (.rel (Nat.succ_lt_succ hlt))
        | cons hlt => exact .inr (.cons hlt)

/-- A run stops where it cannot go on. -/
theorem Prefers.stop {k : CharClass} (h : Prefers before after steps n)
    (hstop : ∀ c cs runs m, after = c :: cs → k.has c = true →
      ¬ Fits (some c) cs (.many k :: steps) runs m) :
    Prefers before after (.many k :: steps) n := by
  obtain ⟨runs, hfits, hmax⟩ := h
  refine ⟨0 :: runs, .stop hfits, ?_⟩
  intro runs' n' h'
  cases h' with
  | stop rest =>
      rcases hmax _ _ rest with heq | hlt
      · exact .inl (congrArg (0 :: ·) heq)
      · exact .inr (.cons hlt)
  | more hc rest => exact absurd rest (hstop _ _ _ _ rfl hc)

theorem matchLength?_spec (before : Option Char) (after : List Char) (steps : List Step) :
    (∀ n, matchLength? before after steps = some n → Prefers before after steps n) ∧
      (matchLength? before after steps = none → ∀ runs n, ¬ Fits before after steps runs n) := by
  fun_induction matchLength? before after steps with
  | case1 before after =>
      refine ⟨?_, by simp⟩
      intro n hn
      cases hn
      exact .nil
  | case2 before k steps =>
      refine ⟨by simp, ?_⟩
      intro _ runs n h
      cases h
  | case3 before k steps c cs hc ih =>
      obtain ⟨ihsome, ihnone⟩ := ih
      refine ⟨?_, ?_⟩
      · intro n hn
        obtain ⟨m, hm, rfl⟩ := Option.map_eq_some_iff.1 hn
        exact .one hc (ihsome m hm)
      · intro hnone runs n h
        cases h with
        | one _ rest => exact ihnone (Option.map_eq_none_iff.1 hnone) _ _ rest
  | case4 before k steps c cs hc =>
      refine ⟨by simp, ?_⟩
      intro _ runs n h
      cases h with
      | one hc' _ => exact hc hc'
  | case5 before k steps ih =>
      obtain ⟨ihsome, ihnone⟩ := ih
      refine ⟨?_, ?_⟩
      · intro n hn
        refine (ihsome n hn).stop ?_
        intro c cs runs m h
        cases h
      · intro hnone runs n h
        cases h with
        | stop rest => exact ihnone hnone _ _ rest
  | case6 before k steps c cs hc m hm ih =>
      refine ⟨?_, by simp⟩
      intro n hn
      cases hn
      exact .more hc (ih.1 m hm)
  | case7 before k steps c cs hc hnone ihmore ihstop =>
      have hstop := ihmore.2 hnone
      obtain ⟨ihsome, ihnone⟩ := ihstop
      refine ⟨?_, ?_⟩
      · intro n hn
        refine (ihsome n hn).stop ?_
        rintro _ _ runs m ⟨⟩ _
        exact hstop runs m
      · intro hnone' runs n h
        cases h with
        | stop rest => exact ihnone hnone' _ _ rest
        | more _ rest => exact hstop _ _ rest
  | case8 before k steps c cs hc ih =>
      obtain ⟨ihsome, ihnone⟩ := ih
      refine ⟨?_, ?_⟩
      · intro n hn
        refine (ihsome n hn).stop ?_
        rintro _ _ runs m ⟨⟩ hc'
        exact absurd hc' hc
      · intro hnone runs n h
        cases h with
        | stop rest => exact ihnone hnone _ _ rest
        | more hc' _ => exact hc hc'
  | case9 before after steps hedge ih =>
      simp only [Prefers, fits_wordEdge_iff, hedge, true_and]
      exact ih
  | case10 before after steps hedge => simp [fits_wordEdge_iff, hedge]
  | case11 before after steps hedge ih =>
      simp only [Prefers, fits_lineStart_iff, hedge, true_and]
      exact ih
  | case12 before after steps hedge => simp [fits_lineStart_iff, hedge]
  | case13 before after steps hedge ih =>
      simp only [Prefers, fits_lineEnd_iff, hedge, true_and]
      exact ih
  | case14 before after steps hedge => simp [fits_lineEnd_iff, hedge]

/-- What the matcher returns is what the preferred way covers. -/
theorem matchLength?_eq_some_iff :
    matchLength? before after steps = some n ↔ Prefers before after steps n := by
  obtain ⟨hsome, hnone⟩ := matchLength?_spec before after steps
  refine ⟨hsome n, ?_⟩
  intro h
  cases hm : matchLength? before after steps with
  | none =>
      obtain ⟨runs, hfits, -⟩ := h
      exact absurd hfits (hnone hm runs n)
  | some m => rw [(hsome m hm).unique h]

theorem matchLength?_eq_none_iff :
    matchLength? before after steps = none ↔ ∀ runs n, ¬ Fits before after steps runs n := by
  obtain ⟨hsome, hnone⟩ := matchLength?_spec before after steps
  refine ⟨hnone, ?_⟩
  intro h
  cases hm : matchLength? before after steps with
  | none => rfl
  | some m =>
      obtain ⟨runs, hfits, -⟩ := hsome m hm
      exact absurd hfits (h runs m)

/-! ## Matches of an idiom -/

/-- The first shape of the idiom that can be laid on the text at this place covers `n` characters
    in its preferred way. -/
def Idiom.Matches (i : Idiom) (before : Option Char) (after : List Char) (n : Nat) : Prop :=
  ∃ earlier shape later, i = earlier ++ shape :: later ∧
    (∀ s ∈ earlier, ∀ runs m, ¬ Fits before after s runs m) ∧ Prefers before after shape n

/-- Each shape of the idiom covers a character wherever it fits. -/
def Idiom.coversSome (i : Idiom) : Bool := i.all fun shape => shape.any Step.isOne

variable {i : Idiom}

theorem Idiom.matchLength?_eq_some_iff :
    i.matchLength? before after = some n ↔ i.Matches before after n := by
  unfold Idiom.matchLength? Idiom.Matches
  rw [List.findSome?_eq_some_iff]
  simp only [Source.matchLength?_eq_some_iff, Source.matchLength?_eq_none_iff]
  constructor
  · rintro ⟨earlier, shape, later, h, hshape, hearlier⟩
    exact ⟨earlier, shape, later, h, hearlier, hshape⟩
  · rintro ⟨earlier, shape, later, h, hearlier, hshape⟩
    exact ⟨earlier, shape, later, h, hshape, hearlier⟩

theorem Idiom.Matches.unique (h : i.Matches before after n) (h' : i.Matches before after n') :
    n = n' := by
  rw [← Idiom.matchLength?_eq_some_iff] at h h'
  exact Option.some.inj (h.symm.trans h')

theorem Idiom.Matches.length_le (h : i.Matches before after n) : n ≤ after.length := by
  obtain ⟨_, _, _, _, _, runs, hfits, _⟩ := h
  exact hfits.length_le

theorem Idiom.Matches.length_pos (h : i.Matches before after n) (hi : i.coversSome = true) :
    0 < n := by
  obtain ⟨earlier, shape, later, rfl, _, runs, hfits, _⟩ := h
  refine hfits.length_pos (List.all_eq_true.1 hi shape ?_)
  exact List.mem_append_right _ List.mem_cons_self

/-- The idiom matches `n` characters of the text from the place `p` on. -/
def Idiom.MatchesAt (i : Idiom) (text : List Char) (p n : Nat) : Prop :=
  p ≤ text.length ∧ i.Matches (text.take p).getLast? (text.drop p) n

theorem Idiom.MatchesAt.unique {text : List Char} {p : Nat} (h : i.MatchesAt text p n)
    (h' : i.MatchesAt text p n') : n = n' :=
  h.2.unique h'.2

/-! ## Occurrences from left to right -/

/-- The matches of the idiom, as places and lengths, that are met when the text is searched from
    left to right from the place `start` on, each search going on where the last match ended. -/
inductive Idiom.Leftmost (i : Idiom) (text : List Char) : Nat → List (Nat × Nat) → Prop where
  | none_left {start : Nat} (h : ∀ p n, start ≤ p → ¬ i.MatchesAt text p n) :
      Leftmost i text start []
  | next {start p n : Nat} {spans : List (Nat × Nat)} (le : start ≤ p)
      (first : ∀ q m, start ≤ q → q < p → ¬ i.MatchesAt text q m) (found : i.MatchesAt text p n)
      (rest : Leftmost i text (p + n) spans) : Leftmost i text start ((p, n) :: spans)

theorem Idiom.Leftmost.unique {text : List Char} {start : Nat} {spans : List (Nat × Nat)}
    (h : i.Leftmost text start spans) :
    ∀ {spans' : List (Nat × Nat)}, i.Leftmost text start spans' → spans = spans' := by
  induction h with
  | none_left hnone =>
      intro spans' h'
      cases h' with
      | none_left _ => rfl
      | next le _ found _ => exact absurd found (hnone _ _ le)
  | @next start p n spans le first found rest ih =>
      intro spans' h'
      cases h' with
      | none_left hnone => exact absurd found (hnone _ _ le)
      | @next _ p' n' spans' le' first' found' rest' =>
          have hp : p = p' := by
            rcases Nat.lt_trichotomy p p' with hlt | heq | hgt
            · exact absurd found (first' _ _ le hlt)
            · exact heq
            · exact absurd found' (first _ _ le' hgt)
          subst hp
          have hn : n = n' := found.unique found'
          subst hn
          rw [ih rest']

/-- A place where nothing matches can be passed over. -/
theorem Idiom.Leftmost.of_succ {text : List Char} {start : Nat} {spans : List (Nat × Nat)}
    (h : i.Leftmost text (start + 1) spans) (hnone : ∀ n, ¬ i.MatchesAt text start n) :
    i.Leftmost text start spans := by
  have hhere : ∀ q m, start ≤ q → q < start + 1 → ¬ i.MatchesAt text q m := by
    intro q m hle hlt
    obtain rfl : q = start := by omega
    exact hnone m
  cases h with
  | none_left h =>
      refine .none_left ?_
      intro p n hle
      by_cases hlt : p < start + 1
      · exact hhere p n hle hlt
      · exact h p n (by omega)
  | next le first found rest =>
      refine .next (by omega) ?_ found rest
      intro q m hle hq
      by_cases hlt : q < start + 1
      · exact hhere q m hle hlt
      · exact first q m (by omega) hq

/-! ## The count is the number of occurrences -/

/-- The occurrences that `Idiom.countFrom` counts, as places and lengths. -/
def Idiom.spansFrom (i : Idiom) (before : Option Char) (place passed : Nat) :
    List Char → List (Nat × Nat)
  | [] => []
  | c :: cs =>
      match passed with
      | passed + 1 => i.spansFrom (some c) (place + 1) passed cs
      | 0 =>
          match i.matchLength? before (c :: cs) with
          | some n => (place, n) :: i.spansFrom (some c) (place + 1) (n - 1) cs
          | none => i.spansFrom (some c) (place + 1) 0 cs

/-- The occurrences of an idiom in a text. -/
def Idiom.spans (i : Idiom) (text : List Char) : List (Nat × Nat) := i.spansFrom none 0 0 text

theorem Idiom.length_spansFrom (i : Idiom) (before : Option Char) (place passed : Nat)
    (text : List Char) :
    (i.spansFrom before place passed text).length = i.countFrom before passed text := by
  induction text generalizing before place passed with
  | nil => rfl
  | cons c cs ih =>
      cases passed with
      | succ passed => exact ih _ _ _
      | zero =>
          simp only [Idiom.spansFrom, Idiom.countFrom]
          cases i.matchLength? before (c :: cs) with
          | none => exact ih _ _ _
          | some n =>
              show _ + 1 = _
              rw [ih, Nat.add_comm]

theorem Idiom.length_spans (i : Idiom) (text : List Char) :
    (i.spans text).length = i.count text :=
  i.length_spansFrom none 0 0 text

/-- What is found from the middle of a text on, when the next `passed` characters belong to the
    match before. -/
theorem Idiom.leftmost_spansFrom (hi : i.coversSome = true) (front : List Char) (passed : Nat)
    (cs : List Char) (hle : passed ≤ cs.length) :
    i.Leftmost (front ++ cs) (front.length + passed)
      (i.spansFrom front.getLast? front.length passed cs) := by
  induction cs generalizing front passed with
  | nil =>
      obtain rfl : passed = 0 := Nat.le_zero.1 hle
      refine .none_left ?_
      rintro p n hp ⟨hin, hmatch⟩
      have hlen := hmatch.length_le
      have hpos := hmatch.length_pos hi
      rw [List.length_drop, List.append_nil] at hlen
      omega
  | cons c cs ih =>
      have hcut : front ++ c :: cs = (front ++ [c]) ++ cs := by simp
      have hat : ∀ n, i.MatchesAt (front ++ c :: cs) front.length n ↔
          i.Matches front.getLast? (c :: cs) n := by
        intro n
        simp [Idiom.MatchesAt]
      cases passed with
      | succ passed =>
          have h := ih (front ++ [c]) passed (Nat.le_of_succ_le_succ hle)
          rw [← hcut] at h
          simpa [Idiom.spansFrom, Nat.add_assoc, Nat.add_comm 1] using h
      | zero =>
          -- Without a match the search goes on one character further; after one, behind it.
          unfold Idiom.spansFrom
          cases hm : i.matchLength? front.getLast? (c :: cs) with
          | none =>
              have h := ih (front ++ [c]) 0 (Nat.zero_le _)
              rw [← hcut] at h
              refine Idiom.Leftmost.of_succ (by simpa using h) ?_
              intro n hn
              rw [Nat.add_zero, hat, ← Idiom.matchLength?_eq_some_iff, hm] at hn
              cases hn
          | some n =>
              have hmatch := Idiom.matchLength?_eq_some_iff.1 hm
              have hpos := hmatch.length_pos hi
              have hlen := hmatch.length_le
              have h := ih (front ++ [c]) (n - 1) (by simp at hlen; omega)
              rw [← hcut] at h
              refine .next (Nat.le_refl _) ?_ ((hat n).2 hmatch) ?_
              · intro q m hle hlt
                exact absurd hle (Nat.not_le_of_lt hlt)
              · have hend : (front ++ [c]).length + (n - 1) = front.length + n := by
                  simp
                  omega
                rw [hend] at h
                simpa using h

/-- The occurrences that are counted are the leftmost ones, and no others are. -/
theorem Idiom.leftmost_iff (hi : i.coversSome = true) {text : List Char}
    {spans : List (Nat × Nat)} : i.Leftmost text 0 spans ↔ spans = i.spans text := by
  have h : i.Leftmost text 0 (i.spans text) :=
    Idiom.leftmost_spansFrom hi [] 0 text (Nat.zero_le _)
  constructor
  · intro h'
    exact h'.unique h
  · rintro rfl
    exact h

end Playground.Source
