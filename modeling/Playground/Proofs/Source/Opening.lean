import Playground.Proofs.Source.Separation
import Playground.Proofs.Source.Stable

set_option autoImplicit false

/-! # What a region is told by

Which kind of region a character opens is told by the text right after it: by one more slash or a
star, by two more quotes, and for a `#` by the first word on the line. Texts that open alike, up to
blanks and but for the word after a `#`, go on with regions of the same kind
(`OpensAlike.first_cases`). -/

namespace Playground.Source

open Playground.Text

variable {q c : Char} {cs ds w : List Char}

theorem OpensAlike.head?_eq_some_iff (h : OpensAlike cs ds) (hc : isBlank c = false) :
    ds.head? = some c ↔ cs.head? = some c := by
  have hone : ∀ text : List Char, text.head? = some c ↔ [c] <+: text := by
    intro text
    cases text <;> simp [List.cons_prefix_cons, eq_comm]
  rw [hone, hone, h [c] (by simpa using hc)]

theorem OpensAlike.first_cases (h : OpensAlike cs ds)
    (hdirective : opensDirective ds = opensDirective cs) (lineStart : Bool) (c : Char) :
    ((c = '"' ∨ c = '\'') ∧
        Region.first lineStart c cs =
          (.literal (c :: (splitLiteral c cs).1), (splitLiteral c cs).2) ∧
        Region.first lineStart c ds =
          (.literal (c :: (splitLiteral c ds).1), (splitLiteral c ds).2)) ∨
      (Region.first lineStart c cs = (.lineComment (c :: (splitLine cs).1), (splitLine cs).2) ∧
        Region.first lineStart c ds = (.lineComment (c :: (splitLine ds).1), (splitLine ds).2)) ∨
      ((cs.head? = some '*' ∧ ds.head? = some '*') ∧
        Region.first lineStart c cs =
          (.blockComment (c :: '*' :: (splitBlock (cs.drop 1)).1), (splitBlock (cs.drop 1)).2) ∧
        Region.first lineStart c ds =
          (.blockComment (c :: '*' :: (splitBlock (ds.drop 1)).1), (splitBlock (ds.drop 1)).2)) ∨
      (Region.first lineStart c cs = (.code c, cs) ∧
        Region.first lineStart c ds = (.code c, ds)) := by
  have hslash := h.head?_eq_some_iff (c := '/') (by decide)
  have hstar := h.head?_eq_some_iff (c := '*') (by decide)
  unfold Region.first
  by_cases hquote : c = '"' ∨ c = '\''
  · rw [if_pos hquote, if_pos hquote]
    exact .inl ⟨hquote, rfl, rfl⟩
  rw [if_neg hquote, if_neg hquote]
  by_cases hline : c = '/' ∧ cs.head? = some '/'
  · rw [if_pos hline, if_pos (hline.imp_right hslash.2)]
    exact .inr (.inl ⟨rfl, rfl⟩)
  rw [if_neg hline, if_neg (mt (And.imp_right hslash.1) hline)]
  by_cases hblock : c = '/' ∧ cs.head? = some '*'
  · rw [if_pos hblock, if_pos (hblock.imp_right hstar.2)]
    exact .inr (.inr (.inl ⟨⟨hblock.2, hstar.2 hblock.2⟩, rfl, rfl⟩))
  rw [if_neg hblock, if_neg (mt (And.imp_right hstar.1) hblock), hdirective]
  by_cases hhash : c = '#' ∧ ¬(lineStart ∧ opensDirective cs)
  · rw [if_pos hhash, if_pos hhash]
    exact .inr (.inl ⟨rfl, rfl⟩)
  · rw [if_neg hhash, if_neg hhash]
    exact .inr (.inr (.inr ⟨rfl, rfl⟩))

theorem OpensAlike.splitLiteral_cases (h : OpensAlike cs ds) (hq : isBlank q = false) :
    (([q, q] <+: cs ∧ [q, q] <+: ds) ∧
        splitLiteral q cs =
          (q :: q :: (splitTriple q (cs.drop 2)).1, (splitTriple q (cs.drop 2)).2) ∧
        splitLiteral q ds =
          (q :: q :: (splitTriple q (ds.drop 2)).1, (splitTriple q (ds.drop 2)).2)) ∨
      (¬ [q, q] <+: cs ∧ splitLiteral q cs = splitPlain q cs ∧
        splitLiteral q ds = splitPlain q ds) := by
  have htwo := h [q, q] (by simpa using hq)
  rw [← List.isPrefixOf_iff_prefix, ← List.isPrefixOf_iff_prefix] at htwo
  rw [← List.isPrefixOf_iff_prefix, ← List.isPrefixOf_iff_prefix]
  unfold splitLiteral
  by_cases hcs : [q, q].isPrefixOf cs = true
  · rw [if_pos hcs, if_pos (htwo.1 hcs)]
    exact .inl ⟨⟨hcs, htwo.1 hcs⟩, rfl, rfl⟩
  · rw [if_neg hcs, if_neg (mt htwo.2 hcs)]
    exact .inr ⟨hcs, rfl, rfl⟩

end Playground.Source
