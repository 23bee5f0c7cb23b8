import Playground.Proofs.Source.LineShape

set_option autoImplicit false

/-! # Assignments and headers

The two idioms of whole lines, said without their shapes: an assignment is a name, an equals sign
and a value (`IsAssignment`), a header is a word that opens a block and, with no brace or semicolon
on the way, a colon at its end (`IsHeader`). The lines that are matched are these
(`isLine_bareAssignment`, `isLine_blockHeader`).

Both can be indented. What may come after the last visible character is not the same for both: any
blank but a newline after a value, but only spaces and tabs after a header's colon. -/

namespace Playground.Source

open Playground.Text

variable {before : Option Char} {c : Char} {after line : List Char} {k : CharClass}
  {steps : List Step}

/-! ## Where steps can be laid -/

theorem isSome_one : (matchLength? before after (.one k :: steps)).isSome = true ↔
    ∃ c left, after = c :: left ∧ k.has c = true ∧
      (matchLength? (some c) left steps).isSome = true := by
  cases after with
  | nil => simp [matchLength?]
  | cons c cs =>
      rw [matchLength?_one]
      by_cases hc : k.has c = true
      · simp [hc]
      · simp [hc]

theorem isSome_many : (matchLength? before after (.many k :: steps)).isSome = true ↔
    ∃ run left, after = run ++ left ∧ (∀ c ∈ run, k.has c = true) ∧
      (matchLength? (run.getLast?.or before) left steps).isSome = true := by
  induction after generalizing before with
  | nil =>
      rw [matchLength?]
      constructor
      · exact fun h => ⟨[], [], rfl, by simp, h⟩
      · rintro ⟨run, left, heq, -, h⟩
        obtain ⟨rfl, rfl⟩ := List.append_eq_nil_iff.1 heq.symm
        exact h
  | cons c cs ih =>
      rw [matchLength?_many, Option.isSome_or, Bool.or_eq_true]
      constructor
      · rintro (h | h)
        · split at h
          · next hc =>
              rw [Option.isSome_map] at h
              obtain ⟨run, left, rfl, hrun, h⟩ := ih.1 h
              refine ⟨c :: run, left, rfl, List.forall_mem_cons.2 ⟨hc, hrun⟩, ?_⟩
              rwa [Idiom.getLast?_cons_or]
          · cases h
        · exact ⟨[], c :: cs, rfl, by simp, h⟩
      · rintro ⟨run, left, heq, hrun, h⟩
        cases run with
        | nil => exact .inr (by rwa [heq])
        | cons d run =>
            obtain ⟨rfl, rfl⟩ := List.cons.inj heq
            rw [List.forall_mem_cons] at hrun
            rw [Idiom.getLast?_cons_or] at h
            rw [if_pos hrun.1, Option.isSome_map]
            exact .inl (ih.2 ⟨run, left, rfl, hrun.2, h⟩)

theorem isSome_spelled (s : List Char) :
    (matchLength? before after (s.map (fun c => .one (.only c)) ++ steps)).isSome = true ↔
      ∃ left, after = s ++ left ∧
        (matchLength? (s.getLast?.or before) left steps).isSome = true := by
  induction s generalizing before after with
  | nil => simp
  | cons c s ih =>
      rw [List.map_cons, List.cons_append, isSome_one, Idiom.getLast?_cons_or]
      constructor
      · rintro ⟨d, left, rfl, hd, h⟩
        obtain rfl : d = c := by simpa [CharClass.has] using hd
        obtain ⟨rest, rfl, hrest⟩ := ih.1 h
        exact ⟨rest, rfl, hrest⟩
      · rintro ⟨left, rfl, h⟩
        refine ⟨c, s ++ left, rfl, by simp [CharClass.has], ?_⟩
        exact ih.2 ⟨left, rfl, h⟩

theorem isSome_wordEdge : (matchLength? before after (.wordEdge :: steps)).isSome = true ↔
    isWordEdge before after.head? = true ∧ (matchLength? before after steps).isSome = true := by
  rw [matchLength?]
  split <;> simp_all

theorem isSome_lineStart : (matchLength? none after (.lineStart :: steps)).isSome = true ↔
    (matchLength? none after steps).isSome = true := by
  have hbegin : (none : Option Char).all (· == '\n') = true := rfl
  rw [matchLength?, if_pos hbegin]

theorem isSome_lineEnd (hline : '\n' ∉ after) :
    (matchLength? before after [.lineEnd]).isSome = true ↔ after = [] := by
  rw [matchLength?, matchLength?]
  cases after with
  | nil => simp
  | cons c cs =>
      have hc : c ≠ '\n' := fun hc => hline (by simp [hc])
      simp [hc]

/-! ## What the lines are made of -/

/-- An identifier and an equals sign, perhaps indented, and a value with no other equals sign, no
    brace and no semicolon. -/
def IsAssignment (line : List Char) : Prop :=
  ∃ indent name gap value, line = indent ++ name ++ gap ++ '=' :: value ∧
    (∀ c ∈ indent, isSpaceOrTab c = true) ∧ IsIdentifier name ∧
    (∀ c ∈ gap, isSpaceOrTab c = true) ∧ ∀ c ∈ value, c ∉ ['=', ';', '\x7b', '\x7d', '\n']

/-- A word that opens a block, perhaps indented, and a colon after which there are only spaces and
    tabs, with no brace and no semicolon on the way to it. -/
def IsHeader (line : List Char) : Prop :=
  ∃ indent keyword rest tail, line = indent ++ String.toList keyword ++ rest ++ ':' :: tail ∧
    (∀ c ∈ indent, isSpaceOrTab c = true) ∧ keyword ∈ Vocabulary.headerKeywords ∧
    (∀ y ∈ (rest ++ [':']).head?, isWord y = false) ∧
    (∀ c ∈ rest, c ∉ ['\x7b', '\x7d', ';', '\n']) ∧ ∀ c ∈ tail, isSpaceOrTab c = true

theorem has_indentation (c : Char) : (CharClass.anyOf [' ', '\t']).has c = isSpaceOrTab c := by
  simp [CharClass.has, isSpaceOrTab, Bool.beq_eq_decide_eq]

theorem has_noneOf (cs : List Char) (c : Char) : (CharClass.noneOf cs).has c = true ↔ c ∉ cs := by
  simp [CharClass.has]

theorem isLine_bareAssignment (hline : '\n' ∉ line) :
    Vocabulary.bareAssignment.isLine line = true ↔ IsAssignment line := by
  have hsteps : Vocabulary.bareAssignment.isLine line = true ↔
      (matchLength? none line (.lineStart :: .many (.anyOf [' ', '\t']) :: .one .wordStart ::
        .many .word :: .many (.anyOf [' ', '\t']) :: .one (.only '=') ::
        .many (.noneOf ['=', ';', '\x7b', '\x7d', '\n']) :: [.lineEnd])).isSome = true := by
    simp [Idiom.isLine, Idiom.matchLength?, Vocabulary.bareAssignment, indentation]
  rw [hsteps, isSome_lineStart]
  constructor
  · intro h
    obtain ⟨indent, left, rfl, hindent, h⟩ := isSome_many.1 h
    obtain ⟨c, left, rfl, hc, h⟩ := isSome_one.1 h
    obtain ⟨name, left, rfl, hname, h⟩ := isSome_many.1 h
    obtain ⟨gap, left, rfl, hgap, h⟩ := isSome_many.1 h
    obtain ⟨e, left, rfl, he, h⟩ := isSome_one.1 h
    obtain ⟨value, left, rfl, hvalue, h⟩ := isSome_many.1 h
    obtain rfl := (isSome_lineEnd (by simp_all)).1 h
    obtain rfl : e = '=' := by simpa [CharClass.has] using he
    refine ⟨indent, c :: name, gap, value, by simp, ?_, ⟨hc, ?_⟩, ?_, ?_⟩
    · exact fun d hd => has_indentation d ▸ hindent d hd
    · exact hname
    · exact fun d hd => has_indentation d ▸ hgap d hd
    · exact fun d hd => (has_noneOf _ d).1 (hvalue d hd)
  · rintro ⟨indent, name, gap, value, rfl, hindent, hname, hgap, hvalue⟩
    cases name with
    | nil => exact hname.elim
    | cons c name =>
        refine isSome_many.2 ⟨indent, c :: (name ++ gap ++ '=' :: value), by simp, ?_, ?_⟩
        · exact fun d hd => has_indentation d ▸ hindent d hd
        refine isSome_one.2 ⟨c, name ++ gap ++ '=' :: value, rfl, hname.1, ?_⟩
        refine isSome_many.2 ⟨name, gap ++ '=' :: value, by simp, hname.2, ?_⟩
        refine isSome_many.2 ⟨gap, '=' :: value, rfl, ?_, ?_⟩
        · exact fun d hd => has_indentation d ▸ hgap d hd
        refine isSome_one.2 ⟨'=', value, rfl, rfl, ?_⟩
        refine isSome_many.2 ⟨value, [], by simp, ?_, ?_⟩
        · exact fun d hd => (has_noneOf _ d).2 (hvalue d hd)
        · exact (isSome_lineEnd (by simp)).2 rfl

/-- The words that open a block end in a letter. -/
theorem isWordEdge_headerKeyword {keyword : String} (h : keyword ∈ Vocabulary.headerKeywords)
    (before after : Option Char) :
    isWordEdge (keyword.toList.getLast?.or before) after = true ↔
      ∀ y ∈ after, isWord y = false := by
  have hletter : ∀ k ∈ Vocabulary.headerKeywords, k.toList.getLast?.any isWord = true := by
    decide
  obtain ⟨c, hc, hword⟩ := (Option.any_eq_true _ _).1 (hletter keyword h)
  rw [hc, Option.some_or, isWordEdge, Option.any_some, hword]
  cases after <;> simp

theorem isLine_blockHeader (hline : '\n' ∉ line) :
    Vocabulary.blockHeader.isLine line = true ↔ IsHeader line := by
  have hsteps : Vocabulary.blockHeader.isLine line = true ↔
      ∃ keyword ∈ Vocabulary.headerKeywords,
        (matchLength? none line (.lineStart :: .many (.anyOf [' ', '\t']) ::
          (keyword.toList.map (fun c => .one (.only c)) ++ .wordEdge ::
            .many (.noneOf ['\x7b', '\x7d', ';', '\n']) :: .one (.only ':') ::
              .many (.anyOf [' ', '\t']) :: [.lineEnd]))).isSome = true := by
    simp [Idiom.isLine, Idiom.matchLength?, Vocabulary.blockHeader, indentation, spelled,
      List.findSome?_isSome_iff]
  rw [hsteps]
  constructor
  · rintro ⟨keyword, hkeyword, h⟩
    obtain ⟨indent, left, rfl, hindent, h⟩ := isSome_many.1 (isSome_lineStart.1 h)
    obtain ⟨left, rfl, hspelled⟩ := (isSome_spelled _).1 h
    obtain ⟨hedge, h⟩ := isSome_wordEdge.1 hspelled
    obtain ⟨rest, left, rfl, hrest, h⟩ := isSome_many.1 h
    obtain ⟨colon, left, rfl, hcolon, h⟩ := isSome_one.1 h
    obtain ⟨tail, left, rfl, htail, h⟩ := isSome_many.1 h
    obtain rfl := (isSome_lineEnd (by simp_all)).1 h
    obtain rfl : colon = ':' := by simpa [CharClass.has] using hcolon
    have hnext := (isWordEdge_headerKeyword hkeyword _ _).1 hedge
    refine ⟨indent, keyword, rest, tail, by simp, ?_, hkeyword, ?_, ?_, ?_⟩
    · exact fun d hd => has_indentation d ▸ hindent d hd
    · cases rest <;> exact hnext
    · exact fun d hd => (has_noneOf _ d).1 (hrest d hd)
    · exact fun d hd => has_indentation d ▸ htail d hd
  · rintro ⟨indent, keyword, rest, tail, rfl, hindent, hkeyword, hnext, hrest, htail⟩
    refine ⟨keyword, hkeyword, isSome_lineStart.2 (isSome_many.2
      ⟨indent, keyword.toList ++ (rest ++ ':' :: tail), by simp, ?_, ?_⟩)⟩
    · exact fun d hd => has_indentation d ▸ hindent d hd
    refine (isSome_spelled _).2 ⟨rest ++ ':' :: tail, rfl, isSome_wordEdge.2 ⟨?_, ?_⟩⟩
    · rw [isWordEdge_headerKeyword hkeyword]
      cases rest <;> exact hnext
    refine isSome_many.2 ⟨rest, ':' :: tail, rfl, ?_, ?_⟩
    · exact fun d hd => (has_noneOf _ d).2 (hrest d hd)
    refine isSome_one.2 ⟨':', tail, rfl, rfl, ?_⟩
    refine isSome_many.2 ⟨tail, [], by simp, ?_, (isSome_lineEnd (by simp)).2 rfl⟩
    exact fun d hd => has_indentation d ▸ htail d hd

/-! ## Blanks around a line -/

theorem eq_or_eq_append_of_append_singleton {front tail : List Char} {d : Char}
    (h : line ++ [c] = front ++ d :: tail) :
    (line = front ∧ c = d ∧ tail = []) ∨
      ∃ tail', tail = tail' ++ [c] ∧ line = front ++ d :: tail' := by
  rcases List.eq_nil_or_concat' tail with rfl | ⟨tail', e, rfl⟩
  · obtain ⟨hline, hc⟩ := List.append_inj' h rfl
    exact .inl ⟨hline, List.singleton_inj.1 hc, rfl⟩
  · have h' : line ++ [c] = (front ++ d :: tail') ++ [e] := by simpa using h
    obtain ⟨hline, hc⟩ := List.append_inj' h' rfl
    obtain rfl := List.singleton_inj.1 hc
    exact .inr ⟨tail', rfl, hline⟩

/-- A value can have more blanks at its end, a carriage return for one. -/
theorem isAssignment_append_iff (hc : c ∉ ['=', ';', '\x7b', '\x7d', '\n']) :
    IsAssignment (line ++ [c]) ↔ IsAssignment line := by
  constructor
  · rintro ⟨indent, name, gap, value, heq, hindent, hname, hgap, hvalue⟩
    rcases eq_or_eq_append_of_append_singleton heq with ⟨-, rfl, -⟩ | ⟨value, rfl, rfl⟩
    · exact absurd List.mem_cons_self hc
    · exact ⟨indent, name, gap, value, rfl, hindent, hname, hgap,
        fun d hd => hvalue d (List.mem_append_left [c] hd)⟩
  · rintro ⟨indent, name, gap, value, rfl, hindent, hname, hgap, hvalue⟩
    refine ⟨indent, name, gap, value ++ [c], by simp, hindent, hname, hgap, ?_⟩
    exact List.forall_mem_append.2 ⟨hvalue, List.forall_mem_singleton.2 hc⟩

/-- A header can have more spaces and tabs at its end, and nothing else. -/
theorem isHeader_append_iff (hc : c ≠ ':') :
    IsHeader (line ++ [c]) ↔ IsHeader line ∧ isSpaceOrTab c = true := by
  constructor
  · rintro ⟨indent, keyword, rest, tail, heq, hindent, hkeyword, hnext, hrest, htail⟩
    rcases eq_or_eq_append_of_append_singleton heq with ⟨-, hcolon, -⟩ | ⟨tail, rfl, rfl⟩
    · exact absurd hcolon hc
    · obtain ⟨htail, hlast⟩ := List.forall_mem_append.1 htail
      exact ⟨⟨indent, keyword, rest, tail, rfl, hindent, hkeyword, hnext, hrest, htail⟩,
        hlast c List.mem_cons_self⟩
  · rintro ⟨⟨indent, keyword, rest, tail, rfl, hindent, hkeyword, hnext, hrest, htail⟩, hspace⟩
    refine ⟨indent, keyword, rest, tail ++ [c], by simp, hindent, hkeyword, hnext, hrest, ?_⟩
    exact List.forall_mem_append.2 ⟨htail, List.forall_mem_singleton.2 hspace⟩

theorem isWord_of_isSpaceOrTab (h : isSpaceOrTab c = true) : isWord c = false := by
  have hc : c = ' ' ∨ c = '\t' := by simpa [isSpaceOrTab] using h
  rcases hc with rfl | rfl <;> decide

theorem isAssignment_cons_iff (hc : isSpaceOrTab c = true) :
    IsAssignment (c :: line) ↔ IsAssignment line := by
  constructor
  · rintro ⟨indent, name, gap, value, heq, hindent, hname, hgap, hvalue⟩
    cases indent with
    | nil =>
        -- The identifier would begin with the blank.
        cases name with
        | nil => exact hname.elim
        | cons d name =>
            obtain ⟨rfl, -⟩ := List.cons.inj heq
            have hword := isWord_of_isWordStart hname.1
            rw [isWord_of_isSpaceOrTab hc] at hword
            cases hword
    | cons d indent =>
        obtain ⟨-, rfl⟩ := List.cons.inj heq
        exact ⟨indent, name, gap, value, rfl, (List.forall_mem_cons.1 hindent).2, hname, hgap,
          hvalue⟩
  · rintro ⟨indent, name, gap, value, rfl, hindent, hname, hgap, hvalue⟩
    exact ⟨c :: indent, name, gap, value, rfl, List.forall_mem_cons.2 ⟨hc, hindent⟩, hname, hgap,
      hvalue⟩

theorem isHeader_cons_iff (hc : isSpaceOrTab c = true) : IsHeader (c :: line) ↔ IsHeader line := by
  constructor
  · rintro ⟨indent, keyword, rest, tail, heq, hindent, hkeyword, hnext, hrest, htail⟩
    cases indent with
    | nil =>
        have hletter : ∀ k ∈ Vocabulary.headerKeywords, k.toList.head?.any isWord = true := by
          decide
        obtain ⟨d, hd, hword⟩ := (Option.any_eq_true _ _).1 (hletter keyword hkeyword)
        have hhead := congrArg List.head? heq
        rw [List.nil_append, List.append_assoc, List.head?_append, hd] at hhead
        obtain rfl : c = d := Option.some.inj hhead
        rw [isWord_of_isSpaceOrTab hc] at hword
        cases hword
    | cons d indent =>
        obtain ⟨-, rfl⟩ := List.cons.inj heq
        exact ⟨indent, keyword, rest, tail, rfl, (List.forall_mem_cons.1 hindent).2, hkeyword,
          hnext, hrest, htail⟩
  · rintro ⟨indent, keyword, rest, tail, rfl, hindent, hkeyword, hnext, hrest, htail⟩
    exact ⟨c :: indent, keyword, rest, tail, rfl, List.forall_mem_cons.2 ⟨hc, hindent⟩, hkeyword,
      hnext, hrest, htail⟩

end Playground.Source
