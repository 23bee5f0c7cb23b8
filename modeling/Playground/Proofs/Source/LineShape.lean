import Playground.Proofs.Source.Lines

set_option autoImplicit false

/-! # Shapes of whole lines

A bare assignment and the header of a block are whole lines. Their shapes begin where a line begins,
lead to its end and cover no newline (`isWholeLine`), so what they match depends on one line alone,
and on a line they match the whole of it or nothing. An idiom of such shapes is therefore counted
line by line (`Idiom.count_eq_countP`). -/

namespace Playground.Source

open Playground.Text

variable {before before' : Option Char} {c : Char} {after line rest : List Char} {k : CharClass}
  {steps : List Step} {n : Nat}

/-! ## Shapes that do not leave their line -/

/-- No newline is covered, and nothing is asked about the line. -/
def Step.staysInLine : Step → Bool
  | .one k => !k.has '\n'
  | .many k => !k.has '\n'
  | .wordEdge => true
  | .lineStart => false
  | .lineEnd => false

/-- The steps lead to the end of the line and no further. -/
def endsLine : List Step → Bool
  | [] => false
  | .lineEnd :: steps => steps.isEmpty
  | step :: steps => step.staysInLine && endsLine steps

def isWholeLine : List Step → Bool
  | .lineStart :: steps => endsLine steps
  | _ => false

theorem endsLine_one (h : endsLine (.one k :: steps) = true) :
    k.has '\n' = false ∧ endsLine steps = true := by
  simpa [endsLine, Step.staysInLine] using h

theorem endsLine_many (h : endsLine (.many k :: steps) = true) :
    k.has '\n' = false ∧ endsLine steps = true := by
  simpa [endsLine, Step.staysInLine] using h

theorem AtLineEnd.beginsBlank (h : AtLineEnd rest) : BeginsBlank rest := by
  intro y hy
  rw [h y hy]
  decide

theorem BeginsBlank.isWordEdge (h : BeginsBlank rest) (before : Option Char) :
    isWordEdge before rest.head? = isWordEdge before none := by
  cases rest with
  | nil => rfl
  | cons y rest => simp [Source.isWordEdge, isWord_of_isBlank (h y rfl)]

/-- What follows a text does not matter if it does not matter at the end of the text, and not to the
    steps after the first. -/
theorem matchLength?_append_cons {step : Step}
    (hsteps : ∀ before text,
      matchLength? before (text ++ rest) steps = matchLength? before text steps)
    (hend : ∀ before,
      matchLength? before rest (step :: steps) = matchLength? before [] (step :: steps))
    (before : Option Char) (text : List Char) :
    matchLength? before (text ++ rest) (step :: steps) =
      matchLength? before text (step :: steps) := by
  induction text generalizing before with
  | nil => exact hend before
  | cons c text ih =>
      cases step with
      | one k => rw [List.cons_append, matchLength?_one, matchLength?_one, hsteps]
      | many k =>
          rw [List.cons_append, matchLength?_many, matchLength?_many, ih, ← List.cons_append,
            hsteps]
      | wordEdge | lineEnd =>
          rw [matchLength?, matchLength?, hsteps]
          rfl
      | lineStart => rw [matchLength?, matchLength?, hsteps]

/-- A repetition that cannot cover what follows a text ends with it. -/
theorem matchLength?_many_of_stops (hstops : ∀ y ∈ rest.head?, k.has y = false)
    (before : Option Char) :
    matchLength? before rest (.many k :: steps) = matchLength? before rest steps := by
  cases rest with
  | nil => rw [matchLength?]
  | cons y rest =>
      rw [matchLength?_many, hstops y rfl]
      rfl

theorem matchLength?_one_of_stops (hstops : ∀ y ∈ rest.head?, k.has y = false)
    (before : Option Char) : matchLength? before rest (.one k :: steps) = none := by
  cases rest with
  | nil => rw [matchLength?]
  | cons y rest =>
      rw [matchLength?_one, hstops y rfl]
      rfl

/-- What comes after the line does not matter. -/
theorem matchLength?_line (h : endsLine steps = true) (hrest : AtLineEnd rest)
    (before : Option Char) (line : List Char) :
    matchLength? before (line ++ rest) steps = matchLength? before line steps := by
  induction steps generalizing before line with
  | nil => cases h
  | cons step steps ih =>
      cases step with
      | one k =>
          obtain ⟨hk, hsteps⟩ := endsLine_one h
          refine matchLength?_append_cons (ih hsteps) (fun before => ?_) before line
          rw [matchLength?_one_of_stops (fun y hy => hrest y hy ▸ hk), matchLength?]
      | many k =>
          obtain ⟨hk, hsteps⟩ := endsLine_many h
          refine matchLength?_append_cons (ih hsteps) (fun before => ?_) before line
          rw [matchLength?_many_of_stops (fun y hy => hrest y hy ▸ hk), matchLength?]
          exact ih hsteps before []
      | wordEdge =>
          refine matchLength?_append_cons (ih h) (fun before => ?_) before line
          rw [matchLength?, matchLength?, hrest.beginsBlank.isWordEdge, ← ih h before []]
          rfl
      | lineStart => cases h
      | lineEnd =>
          obtain rfl : steps = [] := List.isEmpty_iff.1 h
          have hnil : ∀ before text, matchLength? before (text ++ rest) [] =
              matchLength? before text [] := fun before text => by rw [matchLength?, matchLength?]
          refine matchLength?_append_cons hnil (fun before => ?_) before line
          cases rest with
          | nil => rfl
          | cons y rest => simp [matchLength?, hrest y rfl]

/-- The whole line is covered. -/
theorem eq_length_of_matchLength? (h : endsLine steps = true) (hline : '\n' ∉ line)
    (hm : matchLength? before line steps = some n) : n = line.length := by
  induction steps generalizing before line n with
  | nil => cases h
  | cons step steps ih =>
      cases step with
      | one k =>
          cases line with
          | nil => simp [matchLength?] at hm
          | cons c line =>
              rw [List.mem_cons, not_or] at hline
              rw [matchLength?_one] at hm
              split at hm
              · obtain ⟨m, hm', rfl⟩ := Option.map_eq_some_iff.1 hm
                rw [ih (endsLine_one h).2 hline.2 hm', List.length_cons]
              · cases hm
      | many k =>
          obtain ⟨-, hsteps⟩ := endsLine_many h
          induction line generalizing before n with
          | nil =>
              rw [matchLength?] at hm
              exact ih hsteps hline hm
          | cons c line ihline =>
              -- The repetition covers one more, or it ends and the rest of the steps go on.
              rw [matchLength?_many, Option.or_eq_some_iff] at hm
              rcases hm with hm | ⟨-, hm⟩
              · split at hm
                · obtain ⟨m, hm', rfl⟩ := Option.map_eq_some_iff.1 hm
                  rw [ihline (fun hmem => hline (List.mem_cons_of_mem c hmem)) hm',
                    List.length_cons]
                · cases hm
              · exact ih hsteps hline hm
      | wordEdge =>
          rw [matchLength?] at hm
          split at hm
          · exact ih h hline hm
          · cases hm
      | lineStart => cases h
      | lineEnd =>
          obtain rfl : steps = [] := List.isEmpty_iff.1 h
          cases line with
          | nil => simpa [matchLength?, eq_comm] using hm
          | cons c line =>
              have hc : c ≠ '\n' := fun hc => hline (by simp [hc])
              simp [matchLength?, hc] at hm

/-- Of the character before, it matters whether it continues a word, and whether a line begins after
    it if this is asked. -/
theorem matchLength?_before (hword : before.any isWord = before'.any isWord)
    (hline : Step.lineStart ∈ steps → before.all (· == '\n') = before'.all (· == '\n'))
    (after : List Char) : matchLength? before after steps = matchLength? before' after steps := by
  induction steps with
  | nil => rw [matchLength?, matchLength?]
  | cons step steps ih =>
      have ih := ih fun hmem => hline (List.mem_cons_of_mem step hmem)
      cases step with
      | one k => cases after <;> rw [matchLength?, matchLength?]
      | many k =>
          cases after with
          | nil => rw [matchLength?, matchLength?, ih]
          | cons c cs => rw [matchLength?_many, matchLength?_many, ih]
      | wordEdge => rw [matchLength?, matchLength?, isWordEdge, isWordEdge, hword, ih]
      | lineStart => rw [matchLength?, matchLength?, hline List.mem_cons_self, ih]
      | lineEnd => rw [matchLength?, matchLength?, ih]

theorem not_mem_of_endsLine (h : endsLine steps = true) : Step.lineStart ∉ steps := by
  induction steps with
  | nil => simp
  | cons step steps ih =>
      cases step with
      | one k => simpa using ih (endsLine_one h).2
      | many k => simpa using ih (endsLine_many h).2
      | wordEdge => simpa using ih h
      | lineStart => cases h
      | lineEnd => simp [List.isEmpty_iff.1 h]

/-! ## Idioms of whole lines -/

namespace Idiom

variable {i : Idiom}

def isWholeLine (i : Idiom) : Bool := i.all Source.isWholeLine

/-- The line has one of the shapes. -/
def isLine (i : Idiom) (line : List Char) : Bool := (i.matchLength? none line).isSome

theorem matchLength?_congr {after' : List Char}
    (h : ∀ shape ∈ i, Source.matchLength? before after shape =
      Source.matchLength? before' after' shape) :
    i.matchLength? before after = i.matchLength? before' after' := by
  unfold Idiom.matchLength?
  induction i with
  | nil => rfl
  | cons shape i ih =>
      rw [List.forall_mem_cons] at h
      rw [List.findSome?_cons, List.findSome?_cons, h.1, ih h.2]

theorem exists_of_isWholeLine (hi : i.isWholeLine = true) :
    ∀ shape ∈ i, ∃ steps, shape = .lineStart :: steps ∧ endsLine steps = true := by
  intro shape hshape
  have hwhole := List.all_eq_true.1 hi shape hshape
  match shape, hwhole with
  | .lineStart :: steps, hwhole => exact ⟨steps, rfl, hwhole⟩

theorem matchLength?_inside (hi : i.isWholeLine = true) (hc : c ≠ '\n') (after : List Char) :
    i.matchLength? (some c) after = none := by
  unfold Idiom.matchLength?
  rw [List.findSome?_eq_none_iff]
  intro shape hshape
  obtain ⟨steps, rfl, -⟩ := exists_of_isWholeLine hi shape hshape
  simp [Source.matchLength?, hc]

/-- At the beginning of a line the idiom matches the line, or nothing. -/
theorem matchLength?_line (hi : i.isWholeLine = true) (hbefore : before.all (· == '\n') = true)
    (hline : '\n' ∉ line) (hrest : AtLineEnd rest) :
    i.matchLength? before (line ++ rest) = if i.isLine line then some line.length else none := by
  have hword : before.any isWord = false := by
    cases before with
    | none => rfl
    | some c =>
        obtain rfl : c = '\n' := by simpa using hbefore
        rfl
  -- Neither what is before the line matters nor what comes after it.
  have hsame : i.matchLength? before (line ++ rest) = i.matchLength? none line := by
    refine matchLength?_congr fun shape hshape => ?_
    obtain ⟨steps, rfl, hends⟩ := exists_of_isWholeLine hi shape hshape
    have hbegin : (none : Option Char).all (· == '\n') = true := rfl
    rw [Source.matchLength?, Source.matchLength?, if_pos hbefore, if_pos hbegin,
      Source.matchLength?_line hends hrest]
    exact matchLength?_before hword (fun h => absurd h (not_mem_of_endsLine hends)) line
  rw [hsame, isLine]
  cases hm : i.matchLength? none line with
  | none => rfl
  | some n =>
      obtain ⟨shape, hshape, hn⟩ := List.exists_of_findSome?_eq_some hm
      obtain ⟨steps, rfl, hends⟩ := exists_of_isWholeLine hi shape hshape
      rw [Source.matchLength?] at hn
      split at hn
      · rw [eq_length_of_matchLength? hends hline hn]
        rfl
      · cases hn

/-- Within a line nothing begins. -/
theorem countFrom_inside (hi : i.isWholeLine = true) (hc : c ≠ '\n') (hline : '\n' ∉ line)
    (rest : List Char) :
    i.countFrom (some c) 0 (line ++ rest) = i.countFrom (line.getLast?.or (some c)) 0 rest := by
  induction line generalizing c with
  | nil => rfl
  | cons d line ih =>
      rw [List.mem_cons, not_or] at hline
      rw [List.cons_append, countFrom_of_none (matchLength?_inside hi hc _),
        ih (fun hd => hline.1 hd.symm) hline.2, getLast?_cons_or]

theorem countFrom_line (hi : i.isWholeLine = true) (hcovers : i.coversSome = true)
    (hbefore : before.all (· == '\n') = true) (hline : '\n' ∉ line) (hrest : AtLineEnd rest) :
    i.countFrom before 0 (line ++ rest) =
      (if i.isLine line then 1 else 0) + i.countFrom (line.getLast?.or before) 0 rest := by
  have hm := matchLength?_line hi hbefore hline hrest
  by_cases his : i.isLine line = true
  · rw [if_pos his] at hm ⊢
    exact countFrom_of_match hm hcovers
  · rw [if_neg his] at hm ⊢
    cases line with
    | nil => rw [List.nil_append, Nat.zero_add, List.getLast?_nil, Option.none_or]
    | cons c line =>
        rw [List.mem_cons, not_or] at hline
        rw [List.cons_append] at hm ⊢
        -- Nothing begins further on in the line.
        rw [countFrom_of_none hm, countFrom_inside hi (fun hc => hline.1 hc.symm) hline.2,
          Nat.zero_add, getLast?_cons_or]

/-- No line is empty that has one of the shapes, so none begins with a newline. -/
theorem isLine_nil (hi : i.isWholeLine = true) (hcovers : i.coversSome = true) :
    i.isLine [] = false := by
  have hm : i.matchLength? none ([] ++ []) = if i.isLine [] then some 0 else none :=
    matchLength?_line hi rfl (by simp) (by simp [AtLineEnd])
  cases his : i.isLine [] with
  | false => rfl
  | true =>
      rw [his, if_pos rfl] at hm
      have hpos := (Idiom.matchLength?_eq_some_iff.1 hm).length_pos hcovers
      cases hpos

theorem countFrom_newline (hi : i.isWholeLine = true) (hcovers : i.coversSome = true)
    (before : Option Char) (rest : List Char) :
    i.countFrom before 0 ('\n' :: rest) = i.countFrom (some '\n') 0 rest := by
  refine countFrom_of_none ?_
  by_cases hbefore : before.all (· == '\n') = true
  · have hm : i.matchLength? before ([] ++ '\n' :: rest) = if i.isLine [] then some 0 else none :=
      matchLength?_line hi hbefore (by simp) (by simp [AtLineEnd])
    rwa [isLine_nil hi hcovers] at hm
  · cases before with
    | none => exact absurd rfl hbefore
    | some c => exact matchLength?_inside hi (by simpa using hbefore) _

theorem countFrom_eq_countP (hi : i.isWholeLine = true) (hcovers : i.coversSome = true)
    (hbefore : before.all (· == '\n') = true) (text : List Char) :
    i.countFrom before 0 text = (lines text).countP i.isLine := by
  induction text using lines_induction generalizing before with
  | line line hline =>
      have hend : AtLineEnd [] := by simp [AtLineEnd]
      have hcount := countFrom_line hi hcovers hbefore hline hend
      rw [List.append_nil] at hcount
      rw [hcount, lines_of_not_mem hline, List.countP_singleton]
      rfl
  | more line rest hline ih =>
      rw [countFrom_line hi hcovers hbefore hline (by simp [AtLineEnd]),
        countFrom_newline hi hcovers, ih rfl, lines_append, lines_of_not_mem hline,
        List.countP_append, List.countP_singleton]

/-- An idiom of whole lines occurs once on each line that has one of its shapes. -/
theorem count_eq_countP (hi : i.isWholeLine = true) (hcovers : i.coversSome = true)
    (text : List Char) : i.count text = (lines text).countP i.isLine :=
  countFrom_eq_countP hi hcovers rfl text

end Idiom

theorem count_bareAssignment (text : List Char) :
    Vocabulary.bareAssignment.count text = (lines text).countP Vocabulary.bareAssignment.isLine :=
  Idiom.count_eq_countP (by decide) (by decide) text

theorem count_blockHeader (text : List Char) :
    Vocabulary.blockHeader.count text = (lines text).countP Vocabulary.blockHeader.isLine :=
  Idiom.count_eq_countP (by decide) (by decide) text

end Playground.Source
