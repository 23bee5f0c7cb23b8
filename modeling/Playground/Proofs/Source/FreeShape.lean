import Playground.Proofs.Source.LineShape

set_option autoImplicit false

/-! # Shapes that do not look at lines

All idioms but the two of whole lines are words and signs with blanks between them. Their shapes
(`Idiom.isFree`) begin with a visible character and have nothing at their ends that blanks could be
taken for; so blanks before and after a text do not change how often they occur in it
(`Idiom.count_append_of_blank`, `Idiom.count_append_blanks`). Which blanks stand between the visible
characters makes no difference either, and a newline can be written as a space
(`Idiom.count_map_asSpace`). -/

namespace Playground.Source

open Playground.Text

variable {before : Option Char} {c : Char} {text rest front : List Char} {k : CharClass}
  {steps : List Step} {i : Idiom}

/-! ## What a shape has to do with blanks -/

/-- No character of the class is blank. -/
def CharClass.refusesBlanks : CharClass → Bool
  | .only c => !isBlank c
  | .anyOf cs => cs.all fun c => !isBlank c
  | .noneOf _ => false
  | .blank => false
  | .wordStart => true
  | .word => true
  | .headerPath => true

/-- Nothing is asked about lines, and either all blanks are covered or none. -/
def Step.isFree : Step → Bool
  | .one k => k.refusesBlanks || k == .blank
  | .many k => k.refusesBlanks || k == .blank
  | .wordEdge => true
  | .lineStart => false
  | .lineEnd => false

/-- The first character that is covered is not blank. -/
def beginsVisible : List Step → Bool
  | .one k :: _ => k.refusesBlanks
  | .wordEdge :: steps => beginsVisible steps
  | _ => false

/-- Where a blank can be covered, a visible character has to follow it. -/
def endsVisible : List Step → Bool
  | [] => true
  | .one k :: steps => (k.refusesBlanks || steps.any Step.isVisible) && endsVisible steps
  | .many k :: steps => (k.refusesBlanks || steps.any Step.isVisible) && endsVisible steps
  | .wordEdge :: steps => endsVisible steps
  | .lineStart :: steps => endsVisible steps
  | .lineEnd :: _ => false

def Idiom.isFree (i : Idiom) : Bool :=
  i.all fun shape => shape.all Step.isFree && beginsVisible shape && endsVisible shape

theorem isFree_of_mem_java : ∀ i ∈ Vocabulary.java.idioms, Idiom.isFree i = true := by decide

theorem isFree_of_mem_cpp : ∀ i ∈ Vocabulary.cpp.idioms, Idiom.isFree i = true := by decide

theorem Idiom.isFree_shape (hi : i.isFree = true) :
    ∀ shape ∈ i, shape.all Step.isFree = true ∧ beginsVisible shape = true ∧
      endsVisible shape = true := by
  intro shape hshape
  have h := List.all_eq_true.1 hi shape hshape
  rw [Bool.and_eq_true, Bool.and_eq_true] at h
  exact ⟨h.1.1, h.1.2, h.2⟩

theorem CharClass.has_of_isBlank (hk : k.refusesBlanks = true) (hc : isBlank c = true) :
    k.has c = false := by
  have hne : ∀ d, isBlank d = false → c ≠ d := by
    rintro d hd rfl
    rw [hc] at hd
    cases hd
  cases k with
  | only d => simpa [has] using hne d (by simpa [refusesBlanks] using hk)
  | anyOf cs =>
      have hcs : ∀ d ∈ cs, isBlank d = false := by simpa [refusesBlanks] using hk
      simpa [has] using fun hmem : c ∈ cs => hne c (hcs c hmem) rfl
  | noneOf cs => cases hk
  | blank => cases hk
  | wordStart =>
      rw [← Bool.not_eq_true]
      intro hstart
      exact hne c (isBlank_of_isWordStart hstart) rfl
  | word => exact isWord_of_isBlank hc
  | headerPath =>
      simp [has, isWord_of_isBlank hc, hne '.' (by decide), hne '/' (by decide)]

/-! ## Blanks after a text -/

theorem matchLength?_eq_none_of_blank (hvisible : steps.any Step.isVisible = true)
    (hrest : ∀ d ∈ rest, isBlank d = true) (before : Option Char) :
    matchLength? before rest steps = none := by
  rw [matchLength?_eq_none_iff]
  intro runs n hfits
  rw [hfits.not_isVisible (List.all_eq_true.2 hrest)] at hvisible
  cases hvisible

theorem matchLength?_append_blanks (h : endsVisible steps = true)
    (hrest : ∀ d ∈ rest, isBlank d = true) (before : Option Char) (text : List Char) :
    matchLength? before (text ++ rest) steps = matchLength? before text steps := by
  have hstops : ∀ {k : CharClass}, k.refusesBlanks = true → ∀ y ∈ rest.head?, k.has y = false :=
    fun hk y hy => CharClass.has_of_isBlank hk (hrest y (List.mem_of_mem_head? hy))
  -- Where a visible character is needed still, blanks are as little use as nothing.
  have hnone : ∀ {steps}, steps.any Step.isVisible = true → ∀ before,
      matchLength? before rest steps = matchLength? before [] steps := by
    intro steps hvisible before
    rw [matchLength?_eq_none_of_blank hvisible hrest,
      matchLength?_eq_none_of_blank hvisible (by simp)]
  induction steps generalizing before text with
  | nil => rw [matchLength?, matchLength?]
  | cons step steps ih =>
      cases step with
      | one k =>
          simp only [endsVisible, Bool.and_eq_true, Bool.or_eq_true] at h
          refine matchLength?_append_cons (ih h.2) ?_ before text
          rcases h.1 with hk | hvisible
          · intro before
            rw [matchLength?_one_of_stops (hstops hk), matchLength?]
          · exact hnone (by rw [List.any_cons, hvisible, Bool.or_true])
      | many k =>
          simp only [endsVisible, Bool.and_eq_true, Bool.or_eq_true] at h
          refine matchLength?_append_cons (ih h.2) ?_ before text
          rcases h.1 with hk | hvisible
          · intro before
            rw [matchLength?_many_of_stops (hstops hk), matchLength?]
            exact ih h.2 before []
          · exact hnone (by rw [List.any_cons, hvisible, Bool.or_true])
      | wordEdge =>
          refine matchLength?_append_cons (ih h) (fun before => ?_) before text
          have hedge := (BeginsBlank.of_all hrest).isWordEdge before
          rw [matchLength?, matchLength?, hedge, ← ih h before []]
          rfl
      | lineStart => rw [matchLength?, matchLength?, ih h]
      | lineEnd => cases h

namespace Idiom

theorem matchLength?_append_blanks (hi : i.isFree = true) (hrest : ∀ d ∈ rest, isBlank d = true)
    (before : Option Char) (text : List Char) :
    i.matchLength? before (text ++ rest) = i.matchLength? before text :=
  matchLength?_congr fun shape hshape =>
    Source.matchLength?_append_blanks (isFree_shape hi shape hshape).2.2 hrest before text

/-- By induction on the text; an occurrence that has been counted ends within it. -/
theorem countFrom_append_blanks (hi : i.isFree = true) (hvisible : i.isVisible = true)
    (hrest : ∀ d ∈ rest, isBlank d = true) (before : Option Char) {passed : Nat}
    (hpassed : passed ≤ text.length) :
    i.countFrom before passed (text ++ rest) = i.countFrom before passed text := by
  induction text generalizing before passed with
  | nil =>
      obtain rfl : passed = 0 := Nat.le_zero.1 hpassed
      exact countFrom_eq_zero hvisible (List.all_eq_true.2 hrest) before
  | cons c text ih =>
      rw [List.cons_append]
      cases passed with
      | succ passed => exact ih (some c) (Nat.le_of_succ_le_succ hpassed)
      | zero =>
          have hm := matchLength?_append_blanks hi hrest before (c :: text)
          rw [List.cons_append] at hm
          rw [countFrom, countFrom, hm]
          cases hmatch : i.matchLength? before (c :: text) with
          | none => exact ih (some c) (Nat.zero_le _)
          | some n =>
              -- What is passed now is a part of the text, as the induction hypothesis asks for.
              have hlen := (Idiom.matchLength?_eq_some_iff.1 hmatch).length_le
              rw [List.length_cons] at hlen
              exact congrArg (1 + ·) (ih (some c) (by omega))

/-! ## Blanks before a text -/

theorem matchLength?_cons_blank (hi : i.isFree = true) (hc : isBlank c = true)
    (before : Option Char) (text : List Char) : i.matchLength? before (c :: text) = none := by
  unfold Idiom.matchLength?
  rw [List.findSome?_eq_none_iff]
  intro shape hshape
  have hbegins := (isFree_shape hi shape hshape).2.1
  -- The first step that covers a character refuses the blank.
  clear hshape
  induction shape with
  | nil => cases hbegins
  | cons step steps ih =>
      cases step with
      | one k =>
          rw [matchLength?_one, CharClass.has_of_isBlank hbegins hc]
          rfl
      | wordEdge =>
          rw [Source.matchLength?, ih hbegins]
          exact ite_self none
      | many k => cases hbegins
      | lineStart => cases hbegins
      | lineEnd => cases hbegins

/-- Before a text, a blank is as good as nothing. -/
theorem countFrom_some_blank (hi : i.isFree = true) (hc : isBlank c = true) (text : List Char) :
    i.countFrom (some c) 0 text = i.countFrom none 0 text := by
  cases text with
  | nil => rfl
  | cons d text =>
      have hsame : i.matchLength? (some c) (d :: text) = i.matchLength? none (d :: text) := by
        refine matchLength?_congr fun shape hshape => matchLength?_before ?_ ?_ (d :: text)
        · exact isWord_of_isBlank hc
        · intro hmem
          have hfree := List.all_eq_true.1 (isFree_shape hi shape hshape).1 _ hmem
          cases hfree
      rw [countFrom, countFrom, hsame]

theorem count_append_of_blank (hi : i.isFree = true) (hfront : ∀ d ∈ front, isBlank d = true)
    (text : List Char) : i.count (front ++ text) = i.count text := by
  induction front with
  | nil => rfl
  | cons d front ih =>
      rw [List.forall_mem_cons] at hfront
      rw [count, List.cons_append, countFrom_of_none (matchLength?_cons_blank hi hfront.1 none _),
        countFrom_some_blank hi hfront.1]
      exact ih hfront.2

theorem count_append_blanks (hi : i.isFree = true) (hvisible : i.isVisible = true)
    (hrest : ∀ d ∈ rest, isBlank d = true) (text : List Char) :
    i.count (text ++ rest) = i.count text :=
  countFrom_append_blanks hi hvisible hrest none (Nat.zero_le _)

end Idiom

/-! ## One blank for another -/

/-- A space for each blank. -/
def asSpace (c : Char) : Char := if isBlank c then ' ' else c

theorem isWord_asSpace (c : Char) : isWord (asSpace c) = isWord c := by
  unfold asSpace
  split
  · next hc =>
      rw [isWord_of_isBlank hc]
      decide
  · rfl

theorem CharClass.has_asSpace (hk : (k.refusesBlanks || k == .blank) = true) (c : Char) :
    k.has (asSpace c) = k.has c := by
  unfold asSpace
  split
  · next hc =>
      rcases Bool.or_eq_true_iff.1 hk with hk | hk
      · rw [has_of_isBlank hk hc, has_of_isBlank hk (by decide)]
      · obtain rfl : k = .blank := eq_of_beq hk
        simp only [has, hc]
        decide
  · rfl

theorem any_isWord_asSpace (o : Option Char) : (o.map asSpace).any isWord = o.any isWord := by
  cases o with
  | none => rfl
  | some c => exact isWord_asSpace c

theorem matchLength?_map_asSpace (h : steps.all Step.isFree = true) (before : Option Char)
    (text : List Char) :
    matchLength? (before.map asSpace) (text.map asSpace) steps =
      matchLength? before text steps := by
  induction steps generalizing before text with
  | nil => rw [matchLength?, matchLength?]
  | cons step steps ih =>
      rw [List.all_cons, Bool.and_eq_true] at h
      cases step with
      | one k =>
          cases text with
          | nil => rw [List.map_nil, matchLength?, matchLength?]
          | cons c text =>
              rw [List.map_cons, matchLength?_one, matchLength?_one, CharClass.has_asSpace h.1,
                ← ih h.2 (some c) text]
              rfl
      | many k =>
          induction text generalizing before with
          | nil =>
              rw [List.map_nil, matchLength?, matchLength?, ← ih h.2 before []]
              rfl
          | cons c text ihtext =>
              rw [List.map_cons, matchLength?_many, matchLength?_many, CharClass.has_asSpace h.1,
                ← ihtext (some c), ← ih h.2 before (c :: text)]
              rfl
      | wordEdge =>
          rw [matchLength?, matchLength?, ih h.2, isWordEdge, isWordEdge, any_isWord_asSpace,
            List.head?_map, any_isWord_asSpace]
      | lineStart => cases h.1
      | lineEnd => cases h.1

namespace Idiom

theorem countFrom_map_asSpace (hi : i.isFree = true) (before : Option Char) (passed : Nat)
    (text : List Char) :
    i.countFrom (before.map asSpace) passed (text.map asSpace) =
      i.countFrom before passed text := by
  induction text generalizing before passed with
  | nil => rfl
  | cons c text ih =>
      have hm : i.matchLength? (before.map asSpace) ((c :: text).map asSpace) =
          i.matchLength? before (c :: text) :=
        matchLength?_congr fun shape hshape =>
          matchLength?_map_asSpace (isFree_shape hi shape hshape).1 before (c :: text)
      rw [List.map_cons] at hm ⊢
      cases passed with
      | succ passed => exact ih (some c) passed
      | zero =>
          rw [countFrom, countFrom, hm]
          cases i.matchLength? before (c :: text) with
          | none => exact ih (some c) 0
          | some n => exact congrArg (1 + ·) (ih (some c) (n - 1))

theorem count_map_asSpace (hi : i.isFree = true) (text : List Char) :
    i.count (text.map asSpace) = i.count text :=
  countFrom_map_asSpace hi none 0 text

end Idiom

end Playground.Source
