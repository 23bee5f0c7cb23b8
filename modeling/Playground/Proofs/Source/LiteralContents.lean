import Playground.Source.Score
import Playground.Proofs.Source.Prefix

set_option autoImplicit false

/-! # What is in a literal does not count

A complete literal is one region, whatever its body is, and that region is rendered as the
placeholder. What comes before it is read in the same way whatever the body is, since the opening
quote is as far as anything looks ahead; what comes after it is read from the same state. So two
sources that differ only in the bodies of a literal are the same once they are stripped, and get the
same scores. -/

namespace Playground.Source

open Playground.Text

/-! ## Complete literals -/

/-- A text is made of single characters of a kind and of pairs of a backslash and any character. -/
inductive Units (single : Char → Prop) : List Char → Prop where
  | nil : Units single []
  | char {c : Char} {cs : List Char} (h : single c) (rest : Units single cs) :
      Units single (c :: cs)
  | escape {d : Char} {cs : List Char} (rest : Units single cs) : Units single ('\\' :: d :: cs)

/-- What stands between two single quotes `q`. -/
structure PlainBody (q : Char) (body : List Char) : Prop where
  ne_nil : body ≠ []
  units : Units (fun c => c ≠ q ∧ c ≠ '\\' ∧ c ≠ '\n') body

/-- What stands between two triple quotes `q`: the first triple quote that is met outside of a pair
    is the one after the body. -/
structure TripleBody (q : Char) (body : List Char) : Prop where
  units : Units (· ≠ '\\') body
  closed_last : ∀ front rest, Units (· ≠ '\\') front →
    body ++ [q, q, q] = front ++ [q, q, q] ++ rest → front = body

/-- A literal with its quotes. -/
inductive Literal (q : Char) : List Char → Prop where
  | plain {body : List Char} (h : PlainBody q body) : Literal q (q :: (body ++ [q]))
  | triple {body : List Char} (h : TripleBody q body) :
      Literal q ([q, q, q] ++ body ++ [q, q, q])

variable {q : Char} {body s p : List Char}

theorem Units.of_all {single : Char → Prop} {cs : List Char} (h : ∀ c ∈ cs, single c) :
    Units single cs := by
  induction cs with
  | nil => exact .nil
  | cons c cs ih =>
      exact .char (h c List.mem_cons_self) (ih fun d hd => h d (List.mem_cons_of_mem c hd))

/-- A body without quotes and backslashes can stand between triple quotes. -/
theorem TripleBody.of_not_mem (hq : q ∉ body) (hb : '\\' ∉ body) : TripleBody q body := by
  refine ⟨.of_all fun c hc heq => hb (heq ▸ hc), ?_⟩
  intro front rest _ heq
  have hlen := congrArg List.length heq
  simp only [List.length_append, List.length_cons, List.length_nil] at hlen
  have hprefix : front <+: body :=
    List.prefix_of_prefix_length_le ⟨[q, q, q] ++ rest, by rw [heq, List.append_assoc]⟩
      (List.prefix_append body [q, q, q]) (by omega)
  obtain ⟨tail, rfl⟩ := hprefix
  cases tail with
  | nil => exact (List.append_nil front).symm
  | cons c tail =>
      -- The first quote would stand in the body.
      rw [List.append_assoc, List.append_assoc] at heq
      have hc : c = q := (List.cons.inj (List.append_cancel_left heq)).1
      exact absurd (by simp [hc]) hq

/-! ## A complete literal is one region -/

theorem splitPlain_body (hq : q ≠ '\\') (hn : q ≠ '\n')
    (h : Units (fun c => c ≠ q ∧ c ≠ '\\' ∧ c ≠ '\n') body) :
    splitPlain q (body ++ q :: s) = (body ++ [q], s) := by
  induction h with
  | nil => rw [List.nil_append, splitPlain_cons hq, if_neg hn, if_pos rfl, List.nil_append]
  | char hc _ ih =>
      obtain ⟨hcq, hcb, hcn⟩ := hc
      rw [List.cons_append, splitPlain_cons hcb, if_neg hcn, if_neg hcq, ih, List.cons_append]
  | escape _ ih => rw [List.cons_append, List.cons_append, splitPlain_escape, ih]; rfl

theorem splitTriple_body (hq : q ≠ '\\') (h : TripleBody q body) :
    splitTriple q (body ++ [q, q, q] ++ s) = (body ++ [q, q, q], s) := by
  obtain ⟨hunits, hlast⟩ := h
  induction hunits with
  | nil =>
      show splitTriple q (q :: ([q, q] ++ s)) = _
      rw [splitTriple_cons hq, if_pos ⟨s, rfl⟩]
      rfl
  | @char c body hc rest ih =>
      -- A triple quote that opens here would be met before the one after the body.
      have hopen : ¬ [q, q, q] <+: c :: (body ++ [q, q, q] ++ s) := by
        intro hclose
        have hin : [q, q, q] <+: c :: (body ++ [q, q, q]) ++ [] :=
          prefix_of_length_le (u := c :: (body ++ [q, q, q])) hclose (by simp)
        obtain ⟨after, hafter⟩ := hin
        rw [List.append_nil] at hafter
        exact List.cons_ne_nil c body (hlast [] after .nil hafter.symm).symm
      have hrest := ih fun front after hfront heq => by
        have h := hlast (c :: front) after (.char hc hfront) (congrArg (c :: ·) heq)
        exact List.cons_inj_right c |>.1 h
      show splitTriple q (c :: (body ++ [q, q, q] ++ s)) = _
      rw [splitTriple_cons hc, if_neg hopen, hrest]
      rfl
  | @escape d body rest ih =>
      have hrest := ih fun front after hfront heq => by
        have h := hlast ('\\' :: d :: front) after (.escape hfront)
          (congrArg ('\\' :: d :: ·) heq)
        simpa using h
      show splitTriple q ('\\' :: d :: (body ++ [q, q, q] ++ s)) = _
      rw [splitTriple_escape, hrest]
      rfl

/-- Where the literal opens, it is read to its last quote and no further. -/
theorem Literal.splitLiteral_eq (hq : q = '"' ∨ q = '\'') {literal : List Char}
    (h : Literal q literal) (s : List Char) :
    ∃ rest, literal = q :: rest ∧ splitLiteral q (rest ++ s) = (rest, s) := by
  have hb : q ≠ '\\' := by rcases hq with rfl | rfl <;> decide
  have hn : q ≠ '\n' := by rcases hq with rfl | rfl <;> decide
  cases h with
  | @plain body h =>
      refine ⟨body ++ [q], rfl, ?_⟩
      have hopen : ¬ [q, q] <+: body ++ [q] ++ s := by
        rintro ⟨after, hafter⟩
        obtain ⟨hne, hunits⟩ := h
        cases hunits with
        | nil => exact hne rfl
        | char hc _ => exact hc.1 (List.cons.inj hafter).1.symm
        | escape _ => exact hb (List.cons.inj hafter).1
      unfold splitLiteral
      rw [if_neg (fun hp => hopen (List.isPrefixOf_iff_prefix.1 hp)), List.append_assoc]
      exact splitPlain_body hb hn h.units
  | @triple body h =>
      refine ⟨q :: q :: (body ++ [q, q, q]), rfl, ?_⟩
      have hopen : [q, q].isPrefixOf (q :: q :: (body ++ [q, q, q]) ++ s) = true := by
        simp
      unfold splitLiteral
      rw [if_pos hopen]
      show (q :: q :: (splitTriple q (body ++ [q, q, q] ++ s)).1,
        (splitTriple q (body ++ [q, q, q] ++ s)).2) = _
      rw [splitTriple_body hb h]

theorem Literal.regionsFrom_append (hq : q = '"' ∨ q = '\'') {literal : List Char}
    (h : Literal q literal) (lineStart : Bool) (s : List Char) :
    regionsFrom lineStart (literal ++ s) = .literal literal :: regionsFrom false s := by
  obtain ⟨rest, rfl, hsplit⟩ := h.splitLiteral_eq hq s
  have hfirst : Region.first lineStart q (rest ++ s) = (.literal (q :: rest), s) := by
    unfold Region.first
    rw [if_pos hq, hsplit]
  rw [List.cons_append, regionsFrom_cons, hfirst]
  rfl

/-! ## The body does not count -/

theorem Replaceable.of_quote (hq : q = '"' ∨ q = '\'') : Replaceable q (q :: s) := by
  refine .of_head ?_ ?_
  · rcases hq with rfl | rfl <;> decide
  · rcases hq with rfl | rfl <;> decide

/-- The text before a literal and the text after it decide what is left of a source. -/
theorem exists_stripped_append_literal (hq : q = '"' ∨ q = '\'') {rest : List Char}
    (hp : Reaches (p ++ q :: rest) p) :
    ∃ front, ∀ literal, Literal q literal → ∀ s, stripped (p ++ literal ++ s) =
      front ++ placeholder ++ (regionsFrom false s).flatMap Region.rendered := by
  obtain ⟨before, after, hregions, hbefore⟩ := hp
  obtain ⟨lineStart, hstable⟩ := regionsFrom_stable hregions hbefore
  refine ⟨before.flatMap Region.rendered, ?_⟩
  intro literal h s
  have hreplace : Replaceable q (literal ++ s) := by
    obtain ⟨rest, rfl, -⟩ := h.splitLiteral_eq hq s
    exact .of_quote hq
  unfold stripped regions
  rw [List.append_assoc, hstable _ hreplace, h.regionsFrom_append hq, List.flatMap_append,
    List.flatMap_cons, ← List.append_assoc]
  rfl

/-- Two sources that differ only in a literal, with the same quotes in the same place, are the same
    once they are stripped; so they get the same scores and the same guess. -/
theorem literal_contents_do_not_count (hq : q = '"' ∨ q = '\'') {literal₁ literal₂ : List Char}
    (h₁ : Literal q literal₁) (h₂ : Literal q literal₂)
    (hp : Reaches (p ++ literal₁ ++ s) p) :
    stripped (p ++ literal₁ ++ s) = stripped (p ++ literal₂ ++ s) ∧
      Scores.ofSource (p ++ literal₁ ++ s) = Scores.ofSource (p ++ literal₂ ++ s) ∧
      detect (String.ofList (p ++ literal₁ ++ s)) =
        detect (String.ofList (p ++ literal₂ ++ s)) := by
  have hstripped : stripped (p ++ literal₁ ++ s) = stripped (p ++ literal₂ ++ s) := by
    obtain ⟨rest, rfl, -⟩ := h₁.splitLiteral_eq hq s
    rw [List.append_assoc, List.cons_append] at hp
    obtain ⟨front, hfront⟩ := exists_stripped_append_literal hq hp
    rw [hfront _ h₁ s, hfront _ h₂ s]
  have hscores : Scores.ofSource (p ++ literal₁ ++ s) = Scores.ofSource (p ++ literal₂ ++ s) :=
    congrArg Scores.ofStripped hstripped
  refine ⟨hstripped, hscores, ?_⟩
  unfold detect
  rw [String.toList_ofList, String.toList_ofList, hscores]

/-- A keyword between single quotes and a line with another quote between triple quotes make no
    difference. -/
theorem literal_contents_do_not_count_after_equals :
    detect (String.ofList (['x', '='] ++ '"' :: (['d', 'e', 'f'] ++ ['"']) ++ ['\n'])) =
      detect (String.ofList (['x', '='] ++
        (['"', '"', '"'] ++ ['\n', '\'', '@', '\n'] ++ ['"', '"', '"']) ++ ['\n'])) := by
  have hplain : PlainBody '"' ['d', 'e', 'f'] := ⟨by simp, .of_all (by simp)⟩
  have htriple : TripleBody '"' ['\n', '\'', '@', '\n'] := .of_not_mem (by simp) (by simp)
  refine (literal_contents_do_not_count (.inl rfl) (.plain hplain) (.triple htriple) ?_).2.2
  rw [List.append_assoc]
  exact .of_code (by simp) _

end Playground.Source
