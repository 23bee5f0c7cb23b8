import Playground.Source.Score
import Playground.Proofs.Source.Occurrence
import Mathlib.Data.List.Basic
import Mathlib.Tactic.ByContra
import Mathlib.Tactic.Push

set_option autoImplicit false

/-! # The scores are counts

A score says how many pieces of evidence for a language there are in a text: the tokens that its
vocabulary has and no vocabulary before it has, and the occurrences of its idioms. No token is
evidence for two languages, so that the scores together count each token that any vocabulary has
once, and the guess is the language that has more evidence than each of the others. -/

namespace Playground

open Source

/-! ## Evidence for a language -/

namespace Language

/-- The languages whose vocabularies are consulted before that of a language. -/
def earlier : Language → List Language
  | .python => []
  | .java => [.python]
  | .cpp => [.python, .java]

/-- Is a token with this text evidence for the language: does its vocabulary have it, and none
    before it? -/
def credits (l : Language) (token : List Char) : Bool :=
  l.vocabulary.knows token && l.earlier.all fun m => !m.vocabulary.knows token

/-- Does any vocabulary have the token? -/
def anyKnows (token : List Char) : Bool := all.any (·.vocabulary.knows token)

/-- How often the idioms of a language occur in a text. -/
def occurrences (l : Language) (text : List Char) : Nat :=
  l.vocabulary.idioms.foldl (fun n i => n + (i.spans text).length) 0

/-- All evidence for a language in a text whose literals and comments are gone. -/
def points (l : Language) (text : List Char) : Nat :=
  ((tokens text).countP fun t => l.credits t.text) + l.occurrences text

theorem coversSome_of_mem_idioms (l : Language) :
    ∀ i ∈ l.vocabulary.idioms, i.coversSome = true := by
  cases l <;> decide

theorem occurrences_eq_countIdioms (l : Language) (text : List Char) :
    l.occurrences text = l.vocabulary.countIdioms text := by
  simp only [occurrences, Vocabulary.countIdioms, Idiom.length_spans]

theorem owner?_eq_some_iff {token : List Char} {l : Language} :
    owner? token = some l ↔ l.credits token = true := by
  simp only [owner?, all, credits, List.find?_cons]
  cases hp : Language.python.vocabulary.knows token <;>
    cases hj : Language.java.vocabulary.knows token <;>
      cases hc : Language.cpp.vocabulary.knows token <;> cases l <;> simp [earlier, hp, hj, hc]

/-- A token is evidence for one language at most. -/
theorem credits_unique {token : List Char} {l m : Language} (hl : l.credits token = true)
    (hm : m.credits token = true) : l = m := by
  rw [← owner?_eq_some_iff] at hl hm
  exact Option.some.inj (hl.symm.trans hm)

theorem anyKnows_iff {token : List Char} :
    anyKnows token = true ↔ ∃ l : Language, l.credits token = true := by
  simp only [← owner?_eq_some_iff, ← Option.isSome_iff_exists, owner?, List.find?_isSome, anyKnows,
    List.any_eq_true]

end Language

namespace Source.Scores

/-! ## Counting the evidence -/

theorem get_creditToken (s : Scores) (t : Token) (l : Language) :
    (s.creditToken t).get l = s.get l + if l.credits t.text then 1 else 0 := by
  unfold creditToken
  cases ho : Language.owner? t.text with
  | none =>
      have hl : ¬ l.credits t.text = true := by
        rw [← Language.owner?_eq_some_iff, ho]
        simp
      rw [if_neg hl, Nat.add_zero]
  | some m =>
      have hm := Language.owner?_eq_some_iff.1 ho
      show (s.credit 1 m).get l = _
      rw [get_credit]
      by_cases h : m = l
      · subst h
        rw [if_pos rfl, if_pos hm]
      · have hl : ¬ l.credits t.text = true := fun hl => h (Language.credits_unique hm hl)
        rw [if_neg h, if_neg hl]

/-- The tokens of a text add one point each for the language that they are evidence for. -/
theorem get_foldl_creditToken (ts : List Token) (s : Scores) (l : Language) :
    (ts.foldl creditToken s).get l = s.get l + ts.countP fun t => l.credits t.text := by
  induction ts generalizing s with
  | nil => rfl
  | cons t ts ih =>
      rw [List.foldl_cons, ih, get_creditToken, List.countP_cons]
      omega

/-- Each language gets the occurrences of its own idioms. -/
theorem get_foldl_credit (s : Scores) (points : Language → Nat) (l : Language) :
    (Language.all.foldl (fun s l => s.credit (points l) l) s).get l = s.get l + points l := by
  cases l <;> rfl

theorem get_ofStripped (text : List Char) (l : Language) :
    (ofStripped text).get l = l.points text := by
  unfold ofStripped
  rw [get_foldl_credit, get_foldl_creditToken, Language.points, Language.occurrences_eq_countIdioms]
  cases l <;> simp [zero, get]

theorem sum_credits (token : List Char) :
    (if Language.python.credits token = true then 1 else 0) +
        (if Language.java.credits token = true then 1 else 0) +
        (if Language.cpp.credits token = true then 1 else 0) =
      if Language.anyKnows token = true then 1 else 0 := by
  by_cases h : Language.anyKnows token = true
  · obtain ⟨l, hl⟩ := Language.anyKnows_iff.1 h
    have hother : ∀ m, m.credits token = true ↔ m = l := by
      intro m
      refine ⟨fun hm => Language.credits_unique hm hl, ?_⟩
      rintro rfl
      exact hl
    simp only [hother, if_pos h]
    cases l <;> rfl
  · have hnone : ∀ m : Language, ¬ m.credits token = true :=
      fun m hm => h (Language.anyKnows_iff.2 ⟨m, hm⟩)
    simp only [hnone, if_neg h]
    rfl

/-- Each token that some vocabulary has is counted once in the three counts together. -/
theorem sum_countP_credits (ts : List Token) :
    (ts.countP fun t => Language.python.credits t.text) +
        (ts.countP fun t => Language.java.credits t.text) +
        (ts.countP fun t => Language.cpp.credits t.text) =
      ts.countP fun t => Language.anyKnows t.text := by
  induction ts with
  | nil => rfl
  | cons t ts ih =>
      have hhead := sum_credits t.text
      simp only [List.countP_cons]
      omega

/-! ## The language with the most points -/

theorem get_le_best (s : Scores) (l : Language) : s.get l ≤ s.best := by
  simp only [best, Language.all, List.map_cons, List.map_nil, List.foldl_cons, List.foldl_nil]
  cases l <;> omega

theorem exists_get_eq_best (s : Scores) : ∃ l, s.get l = s.best := by
  have hbest : s.best = max (max (max 0 s.python) s.java) s.cpp := rfl
  by_cases hp : s.python = s.best
  · exact ⟨.python, hp⟩
  · by_cases hj : s.java = s.best
    · exact ⟨.java, hj⟩
    · refine ⟨.cpp, ?_⟩
      show s.cpp = s.best
      omega

/-- The verdict is a language exactly if that language has more points than each of the others. -/
theorem verdict_eq_found_iff {s : Scores} {l : Language} :
    s.verdict = .found l ↔ ∀ m, m ≠ l → s.get m < s.get l := by
  unfold verdict
  constructor
  · intro h m hm
    split at h
    · cases h
    · split at h
      · next k hk =>
          cases h
          have hl : l ∈ Language.all.filter fun l => s.get l == s.best := by simp [hk]
          have hlbest : s.get l = s.best := by simpa using (List.mem_filter.1 hl).2
          have hmbest : s.get m ≠ s.best := by
            intro heq
            have hmem : m ∈ Language.all.filter fun l => s.get l == s.best :=
              List.mem_filter.2 ⟨Language.mem_all m, by simpa using heq⟩
            rw [hk, List.mem_singleton] at hmem
            exact hm hmem
          have hle := s.get_le_best m
          omega
      · cases h
  · intro h
    have hleader : ∀ k, s.get k = s.best ↔ k = l := by
      obtain ⟨k, hk⟩ := s.exists_get_eq_best
      have hkl : k = l := by
        by_contra hne
        have hlt := h k hne
        have hle := s.get_le_best l
        omega
      subst hkl
      intro m
      refine ⟨?_, by rintro rfl; exact hk⟩
      intro hm
      by_contra hne
      have hlt := h m hne
      omega
    have hpos : s.best ≠ 0 := by
      obtain ⟨m, -, hm⟩ : ∃ m ∈ Language.all, m ≠ l := by cases l <;> decide
      have hlt := h m hm
      have hle := s.get_le_best l
      omega
    have honly : (Language.all.filter fun k => s.get k == s.best) = [l] := by
      have hcongr : (fun k => s.get k == s.best) = fun k => k == l := by
        funext k
        rw [Bool.eq_iff_iff, beq_iff_eq, beq_iff_eq]
        exact hleader k
      rw [hcongr]
      cases l <;> rfl
    rw [if_neg hpos, honly]

/-- There is no verdict exactly if two languages share the highest score. -/
theorem verdict_eq_undetected_iff {s : Scores} :
    s.verdict = .undetected ↔ ∃ l m, l ≠ m ∧ s.get l = s.get m ∧ ∀ k, s.get k ≤ s.get l := by
  obtain ⟨l, hl⟩ := s.exists_get_eq_best
  constructor
  · intro h
    have hnot : ¬ ∀ m, m ≠ l → s.get m < s.get l := by
      rw [← verdict_eq_found_iff, h]
      simp
    push Not at hnot
    obtain ⟨m, hne, hle⟩ := hnot
    have hm := s.get_le_best m
    refine ⟨l, m, hne.symm, by omega, ?_⟩
    intro k
    rw [hl]
    exact s.get_le_best k
  · rintro ⟨l, m, hne, heq, hmax⟩
    cases hv : s.verdict with
    | undetected => rfl
    | found k =>
        -- The winner would be ahead of one of the two.
        rw [verdict_eq_found_iff] at hv
        have hk := hmax k
        by_cases hkl : l = k
        · subst hkl
          have := hv m hne.symm
          omega
        · have := hv l hkl
          omega

end Source.Scores

/-! ## Texts that count alike -/

namespace Source

theorem Vocabulary.countIdioms_congr {v : Vocabulary} {x y : List Char}
    (h : ∀ i ∈ v.idioms, i.count x = i.count y) : v.countIdioms x = v.countIdioms y := by
  unfold countIdioms
  exact List.foldl_ext _ _ 0 fun n i hi => by rw [h i hi]

theorem countIdioms_python (text : List Char) :
    Vocabulary.python.countIdioms text =
      Vocabulary.bareAssignment.count text + Vocabulary.blockHeader.count text := by
  simp [Vocabulary.python, Vocabulary.countIdioms]

/-- Of a text the tokens matter and how often each idiom occurs in it. -/
theorem Scores.ofStripped_congr {x y : List Char} (htokens : tokens x = tokens y)
    (hidioms : ∀ l : Language, ∀ i ∈ l.vocabulary.idioms, i.count x = i.count y) :
    Scores.ofStripped x = Scores.ofStripped y := by
  have hcount : ∀ l : Language, l.vocabulary.countIdioms x = l.vocabulary.countIdioms y :=
    fun l => Vocabulary.countIdioms_congr (hidioms l)
  unfold Scores.ofStripped
  simp only [htokens, hcount]

/-! ## The guess -/

/-- What the scores of a source and the guess have to be, in terms of the evidence that there is in
    the stripped text. -/
structure DecidedByCounts (source : String) (text : List Char) : Prop where
  /-- The text is the source without its comments and the contents of its literals. -/
  text_eq : text = stripped source.toList
  /-- The occurrences that are counted are the leftmost ones without overlap. -/
  leftmost : ∀ (l : Language), ∀ i ∈ l.vocabulary.idioms, ∀ spans,
    i.Leftmost text 0 spans ↔ spans = i.spans text
  scores : Scores.ofSource source.toList =
    ⟨Language.python.points text, Language.java.points text, Language.cpp.points text⟩
  /-- A language is guessed exactly if there is more evidence for it than for each other one. -/
  found_iff : ∀ l, detect source = .found l ↔ ∀ m, m ≠ l → m.points text < l.points text
  /-- None is exactly if two share the highest count, be it zero. -/
  undetected_iff : detect source = .undetected ↔
    ∃ l m : Language, l ≠ m ∧ l.points text = m.points text ∧
      ∀ k : Language, k.points text ≤ l.points text
  /-- Tokens are evidence for one language at most, and for one exactly if some vocabulary has
      them. -/
  credited_once : ∀ t ∈ tokens text,
    (∀ l m : Language, l.credits t.text = true → m.credits t.text = true → l = m) ∧
      ((∃ l : Language, l.credits t.text = true) ↔ ∃ l : Language, l.vocabulary.knows t.text = true)
  /-- The scores together count each such token once, and all occurrences of idioms. -/
  total : (Scores.ofSource source.toList).python + (Scores.ofSource source.toList).java +
      (Scores.ofSource source.toList).cpp =
    ((tokens text).countP fun t => Language.anyKnows t.text) +
      (Language.python.occurrences text + Language.java.occurrences text +
        Language.cpp.occurrences text)

/-- Every source is scored by counting the evidence in its stripped text, and the guess is the one
    language with the most of it. -/
theorem detect_decided_by_counts (source : String) :
    DecidedByCounts source (stripped source.toList) := by
  have hget : ∀ l, (Scores.ofSource source.toList).get l = l.points (stripped source.toList) :=
    Scores.get_ofStripped (stripped source.toList)
  refine ⟨rfl, ?_, ?_, ?_, ?_, ?_, ?_⟩
  · intro l i hi spans
    exact Idiom.leftmost_iff (l.coversSome_of_mem_idioms i hi)
  · rw [← hget, ← hget, ← hget]
    rfl
  · intro l
    unfold detect
    simp only [Scores.verdict_eq_found_iff, hget]
  · unfold detect
    simp only [Scores.verdict_eq_undetected_iff, hget]
  · intro t _
    refine ⟨fun l m hl hm => Language.credits_unique hl hm, ?_⟩
    rw [← Language.anyKnows_iff]
    simp [Language.anyKnows, Language.mem_all]
  · have htokens := Scores.sum_countP_credits (tokens (stripped source.toList))
    have hpython := hget .python
    have hjava := hget .java
    have hcpp := hget .cpp
    simp only [Scores.get, Language.points] at hpython hjava hcpp
    omega

end Source

end Playground
