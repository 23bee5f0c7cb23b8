import Mathlib.Algebra.Group.Nat.Defs
import Playground.Proofs.Source.Sizes

set_option autoImplicit false

/-! # Counting in 32 bits

Points are natural numbers, but they can be counted in 32 bits. A counter holds a number of 32 bits,
an addition that goes beyond them fails, and the counting with it (`Counters.ofStripped?`); a number
of occurrences that has more bits is replaced by the greatest that has not.

As points are only ever added, no counter is larger on the way than it is at the end: the counting
succeeds exactly if the final scores have 32 bits each, and then comes to the same scores
(`Counters.ofStripped?_eq_some_iff`). For sources of up to 2^27 characters they have
(`Counters.exists_ofSource?_eq`). -/

namespace Playground.Source

/-- Points per language in counters of 32 bits. -/
structure Counters where
  python : UInt32
  java : UInt32
  cpp : UInt32
  deriving DecidableEq, Repr

namespace Counters

def zero : Counters := ⟨0, 0, 0⟩

/-- The sum of two numbers of 32 bits, if it has no more bits. -/
def sum? (n m : UInt32) : Option UInt32 :=
  if n.toNat + m.toNat < UInt32.size then some (n + m) else none

/-- More points for one language, if its counter can hold them. -/
def credit? (s : Counters) (points : UInt32) : Language → Option Counters
  | .python => (sum? s.python points).map fun n => { s with python := n }
  | .java => (sum? s.java points).map fun n => { s with java := n }
  | .cpp => (sum? s.cpp points).map fun n => { s with cpp := n }

/-- One point for the language that a token counts for, if there is one. -/
def creditToken? (s : Counters) (t : Token) : Option Counters :=
  match Language.owner? t.text with
  | some l => s.credit? 1 l
  | none => some s

/-- A number in 32 bits. The greatest there is stands for those that have more bits. -/
def narrow (n : Nat) : UInt32 :=
  if n < UInt32.size then UInt32.ofNat n else UInt32.ofNat (UInt32.size - 1)

/-- The points of a text whose literals and comments are gone, if no counter ever has to hold more
    than it can. -/
def ofStripped? (text : List Char) : Option Counters := do
  let byToken ← (tokens text).foldlM creditToken? zero
  Language.all.foldlM (fun s l => s.credit? (narrow (l.vocabulary.countIdioms text)) l) byToken

def ofSource? (source : List Char) : Option Counters := ofStripped? (stripped source)

/-- What the counters hold. -/
def toScores (s : Counters) : Scores := ⟨s.python.toNat, s.java.toNat, s.cpp.toNat⟩

variable {s s' : Counters} {l : Language} {text : List Char}

/-! ## One addition -/

theorem sum?_eq_some_iff {n m k : UInt32} : sum? n m = some k ↔ k.toNat = n.toNat + m.toNat := by
  unfold sum?
  constructor
  · intro h
    split at h
    · next hlt =>
        obtain rfl := Option.some.inj h
        rw [UInt32.toNat_add, Nat.mod_eq_of_lt hlt]
    · cases h
  · intro h
    have hlt : n.toNat + m.toNat < UInt32.size := h ▸ k.toNat_lt_size
    have hsum : (n + m).toNat = k.toNat := by
      rw [UInt32.toNat_add, Nat.mod_eq_of_lt hlt, h]
    rw [if_pos hlt, UInt32.toNat_inj.1 hsum]

theorem get_toScores_lt (s : Counters) (l : Language) : s.toScores.get l < UInt32.size := by
  cases l <;> exact UInt32.toNat_lt_size _

/-- Scores of 32 bits each are those of some counters. -/
theorem exists_toScores_eq {scores : Scores} (h : ∀ l, scores.get l < UInt32.size) :
    ∃ s : Counters, s.toScores = scores := by
  obtain ⟨p, j, c⟩ := scores
  have hp : p < UInt32.size := h .python
  have hj : j < UInt32.size := h .java
  have hc : c < UInt32.size := h .cpp
  refine ⟨⟨.ofNat p, .ofNat j, .ofNat c⟩, ?_⟩
  simp only [toScores, UInt32.toNat_ofNat_of_lt' hp, UInt32.toNat_ofNat_of_lt' hj,
    UInt32.toNat_ofNat_of_lt' hc]

theorem toScores_inj : s.toScores = s'.toScores ↔ s = s' := by
  obtain ⟨p, j, c⟩ := s
  obtain ⟨p', j', c'⟩ := s'
  simp only [toScores, Scores.mk.injEq, UInt32.toNat_inj, mk.injEq]

/-- The points are added as they are to natural numbers, or not at all. -/
theorem credit?_eq_some_iff {points : UInt32} :
    s.credit? points l = some s' ↔ s'.toScores = s.toScores.credit points.toNat l := by
  obtain ⟨p, j, c⟩ := s
  obtain ⟨p', j', c'⟩ := s'
  cases l <;>
    simp only [credit?, toScores, Scores.credit, Option.map_eq_some_iff, sum?_eq_some_iff,
      mk.injEq, Scores.mk.injEq, UInt32.toNat_inj] <;>
    grind

theorem creditToken?_eq_some_iff {t : Token} :
    s.creditToken? t = some s' ↔ s'.toScores = s.toScores.creditToken t := by
  unfold creditToken? Scores.creditToken
  cases Language.owner? t.text with
  | none => rw [Option.some.injEq, toScores_inj, eq_comm]
  | some l => exact credit?_eq_some_iff

/-! ## Many additions -/

section Run

variable {α : Type} {add? : Counters → α → Option Counters} {add : Scores → α → Scores}

/-- If no addition takes points away, no sum on the way is larger than the last one. -/
theorem get_le_foldl (hmore : ∀ scores a l, Scores.get scores l ≤ (add scores a).get l)
    (as : List α) (scores : Scores) (l : Language) :
    scores.get l ≤ (as.foldl add scores).get l := by
  induction as generalizing scores with
  | nil => exact Nat.le_refl _
  | cons a as ih => exact Nat.le_trans (hmore scores a l) (ih _)

/-- What has no more than 32 bits once more is added has no more before it. -/
theorem exists_toScores_eq_of_foldl
    (hmore : ∀ scores a l, Scores.get scores l ≤ (add scores a).get l) {as : List α}
    {scores : Scores} (h : s.toScores = as.foldl add scores) :
    ∃ s : Counters, s.toScores = scores := by
  refine exists_toScores_eq fun l => Nat.lt_of_le_of_lt ?_ (s.get_toScores_lt l)
  rw [h]
  exact get_le_foldl hmore as scores l

/-- Additions that agree one by one with those of natural numbers agree with them in a row. -/
theorem foldlM_eq_some_iff
    (hadd : ∀ s a s', add? s a = some s' ↔ s'.toScores = add s.toScores a)
    (hmore : ∀ scores a l, Scores.get scores l ≤ (add scores a).get l) (as : List α) :
    as.foldlM add? s = some s' ↔ s'.toScores = as.foldl add s.toScores := by
  induction as generalizing s with
  | nil =>
      rw [List.foldlM_nil, List.foldl_nil, Option.pure_def, Option.some.injEq, toScores_inj,
        eq_comm]
  | cons a as ih =>
      rw [List.foldlM_cons, Option.bind_eq_bind, Option.bind_eq_some_iff, List.foldl_cons]
      constructor
      · rintro ⟨next, hnext, hrest⟩
        rw [← (hadd s a next).1 hnext]
        exact ih.1 hrest
      · intro h
        obtain ⟨next, hnext⟩ := exists_toScores_eq_of_foldl hmore h
        exact ⟨next, (hadd s a next).2 hnext, ih.2 (by rw [hnext, h])⟩

end Run

theorem get_le_credit (scores : Scores) (n : Nat) (l m : Language) :
    scores.get m ≤ (scores.credit n l).get m := by
  rw [Scores.get_credit]
  exact Nat.le_add_right _ _

theorem get_le_creditToken (scores : Scores) (t : Token) (l : Language) :
    scores.get l ≤ (scores.creditToken t).get l := by
  rw [Scores.get_creditToken]
  exact Nat.le_add_right _ _

theorem toNat_narrow {n : Nat} (h : n < UInt32.size) : (narrow n).toNat = n := by
  rw [narrow, if_pos h, UInt32.toNat_ofNat_of_lt' h]

/-- If no number of occurrences has to be replaced, the counters come to the scores, unless one of
    these has more than 32 bits. -/
theorem ofStripped?_eq_some_iff
    (h : ∀ l : Language, l.vocabulary.countIdioms text < UInt32.size) :
    ofStripped? text = some s ↔ s.toScores = Scores.ofStripped text := by
  have htokens : ∀ byToken : Counters, (tokens text).foldlM creditToken? zero = some byToken ↔
      byToken.toScores = (tokens text).foldl Scores.creditToken Scores.zero := fun byToken =>
    foldlM_eq_some_iff (fun _ _ _ => creditToken?_eq_some_iff) get_le_creditToken _
  have hidioms : ∀ byToken : Counters,
      Language.all.foldlM (fun s l => s.credit? (narrow (l.vocabulary.countIdioms text)) l)
          byToken = some s ↔
        s.toScores = Language.all.foldl (fun s l => s.credit (l.vocabulary.countIdioms text) l)
          byToken.toScores := fun byToken =>
    foldlM_eq_some_iff (fun _ l _ => by rw [credit?_eq_some_iff, toNat_narrow (h l)])
      (fun scores l m => get_le_credit scores _ l m) _
  rw [ofStripped?, Option.bind_eq_bind, Option.bind_eq_some_iff, Scores.ofStripped]
  simp only [htokens, hidioms]
  constructor
  · rintro ⟨byToken, hbyToken, hs⟩
    rwa [hbyToken] at hs
  · intro hs
    obtain ⟨byToken, hbyToken⟩ :=
      exists_toScores_eq_of_foldl (fun scores l m => get_le_credit scores _ l m) hs
    exact ⟨byToken, hbyToken, by rwa [hbyToken]⟩

/-- A source of up to 2^27 characters can be counted. -/
theorem exists_ofSource?_eq {source : List Char} (h : source.length ≤ 2 ^ 27) :
    (∀ l : Language, l.vocabulary.countIdioms (stripped source) < UInt32.size) ∧
      ∃ s, ofSource? source = some s ∧ s.toScores = Scores.ofSource source := by
  have hsize : UInt32.size = 2 ^ 32 := rfl
  have hstripped := length_stripped_le source
  have hidioms : ∀ l : Language, l.vocabulary.countIdioms (stripped source) < UInt32.size := by
    intro l
    have hcount := l.countIdioms_le (stripped source)
    omega
  obtain ⟨s, hs⟩ : ∃ s : Counters, s.toScores = Scores.ofSource source := by
    refine exists_toScores_eq fun l => ?_
    have hget := Scores.get_ofSource_le source l
    omega
  exact ⟨hidioms, s, (ofStripped?_eq_some_iff hidioms).2 hs, hs⟩

end Counters

end Playground.Source
