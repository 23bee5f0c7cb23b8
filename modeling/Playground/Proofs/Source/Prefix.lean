import Playground.Source.Region
import Mathlib.Tactic.ByContra

set_option autoImplicit false

/-! # Reading a prefix

Where a region ends may depend on the text that follows it: a `/` opens a comment if another one or
a star comes next, two quotes open a longer literal if a third one does, a `#` depends on a whole
word. Such a look ahead never passes the first character `x` that follows, unless `x` is a letter, a
space or a tab. So a region that ends before `x` stays the same if the text from `x` on is replaced
by another one that begins with `x` too, or by nothing, or by the next line (`Region.first_stable`).

Hence the regions up to a place between two of them are the same for all texts that go on in one of
these ways (`regionsFrom_stable`). -/

namespace Playground.Source

open Playground.Text

/-! ## Texts in place of one another -/

/-- A text that begins with `x` can be replaced by `w` without a change to the regions before it. -/
structure Replaceable (x : Char) (w : List Char) : Prop where
  not_letter : x.isAlpha = false
  not_space : isSpaceOrTab x = false
  same_or_line_end : w.head? = some x ∨ ∀ y ∈ w.head?, y = '\n'

variable {x : Char} {u v w : List Char}

/-- A pattern that is found within `u` does not depend on what follows. -/
theorem prefix_of_length_le {pattern : List Char} (hp : pattern <+: u ++ v)
    (hle : pattern.length ≤ u.length) : pattern <+: u ++ w :=
  (List.prefix_of_prefix_length_le hp (List.prefix_append u v) hle).trans (List.prefix_append u w)

namespace Replaceable

theorem of_head (hletter : x.isAlpha = false) (hspace : isSpaceOrTab x = false) :
    Replaceable x (x :: w) :=
  ⟨hletter, hspace, .inl rfl⟩

/-- The replacement has no other character in front than `x` and a newline. -/
theorem eq_of_head? (h : Replaceable x w) {y : Char} (hy : w.head? = some y) (hne : y ≠ '\n') :
    y = x := by
  rcases h.same_or_line_end with hsame | hline
  · exact Option.some.inj (hy.symm.trans hsame)
  · exact absurd (hline y hy) hne

/-- Where the replacement is looked at, the text that it replaces would have looked the same. -/
theorem head?_of_head? (h : Replaceable x w) {y : Char} (hne : y ≠ '\n')
    (hy : (u ++ w).head? = some y) : (u ++ x :: v).head? = some y := by
  cases u with
  | nil => exact congrArg some (h.eq_of_head? hy hne).symm
  | cons c u => exact hy

/-- A pattern that is found in front of the replacement, and with no more than its first character,
    is found as well in front of the text that is replaced. -/
theorem prefix_of_prefix (h : Replaceable x w) {pattern : List Char} (hline : '\n' ∉ pattern)
    (hle : pattern.length ≤ u.length + 1) (hp : pattern <+: u ++ w) : pattern <+: u ++ x :: v := by
  by_cases hin : pattern.length ≤ u.length
  · exact prefix_of_length_le hp hin
  · cases w with
    | nil =>
        have hlen := hp.length_le
        rw [List.append_nil] at hlen
        exact absurd hlen hin
    | cons y w =>
        have hfront : u ++ [y] <+: u ++ y :: w := ⟨w, by simp⟩
        have heq : pattern = u ++ [y] := by
          refine List.IsPrefix.eq_of_length
            (List.prefix_of_prefix_length_le hp hfront (by simpa using hle)) ?_
          simp
          omega
        have hy : y ≠ '\n' := by
          rintro rfl
          exact hline (by simp [heq])
        rw [heq, h.eq_of_head? rfl hy]
        exact ⟨v, by simp⟩

theorem head?_line_end (h : Replaceable x w) (hx : x = '\n') : ∀ y ∈ w.head?, y = '\n' := by
  intro y hy
  by_cases hne : y = '\n'
  · exact hne
  · rw [h.eq_of_head? hy hne, hx]

end Replaceable

/-! ## Where a directive is looked for -/

theorem takeWhile_append_of_head? {p : Char → Bool} (h : ∀ y ∈ w.head?, p y = false) :
    (u ++ w).takeWhile p = u.takeWhile p := by
  induction u with
  | nil =>
      cases w with
      | nil => rfl
      | cons y w => exact List.takeWhile_cons_of_neg (by simp [h y rfl])
  | cons c u ih => simp only [List.cons_append, List.takeWhile_cons, ih]

theorem dropWhile_append_of_head? {p : Char → Bool} (h : ∀ y ∈ w.head?, p y = false) :
    (u ++ w).dropWhile p = u.dropWhile p ++ w := by
  induction u with
  | nil =>
      cases w with
      | nil => rfl
      | cons y w => exact List.dropWhile_cons_of_neg (by simp [h y rfl])
  | cons c u ih =>
      simp only [List.cons_append, List.dropWhile_cons, ih]
      split <;> rfl

/-- A text that does not begin with a letter, a space or a tab does not matter to a `#` before
    it. -/
theorem opensDirective_append (hletter : ∀ y ∈ w.head?, y.isAlpha = false)
    (hspace : ∀ y ∈ w.head?, isSpaceOrTab y = false) :
    opensDirective (u ++ w) = opensDirective u := by
  unfold opensDirective
  rw [dropWhile_append_of_head? hspace, takeWhile_append_of_head? hletter]

theorem Replaceable.opensDirective (h : Replaceable x w) :
    opensDirective (u ++ w) = opensDirective (u ++ x :: v) := by
  have hw : ∀ y ∈ w.head?, y.isAlpha = false ∧ isSpaceOrTab y = false := by
    intro y hy
    by_cases hne : y = '\n'
    · subst hne
      decide
    · rw [h.eq_of_head? hy hne]
      exact ⟨h.not_letter, h.not_space⟩
  rw [opensDirective_append (fun y hy => (hw y hy).1) (fun y hy => (hw y hy).2),
    opensDirective_append (by simpa using h.not_letter) (by simpa using h.not_space)]

/-! ## Where a literal ends -/

theorem splitPlain_escape (q d : Char) (cs : List Char) :
    splitPlain q ('\\' :: d :: cs) = ('\\' :: d :: (splitPlain q cs).1, (splitPlain q cs).2) := by
  simp [splitPlain]

theorem splitPlain_cons {q c : Char} (hc : c ≠ '\\') (cs : List Char) :
    splitPlain q (c :: cs) =
      if c = '\n' then ([], c :: cs)
      else if c = q then ([c], cs)
      else (c :: (splitPlain q cs).1, (splitPlain q cs).2) := by
  cases cs <;> simp [splitPlain, hc]

theorem splitTriple_escape (q d : Char) (cs : List Char) :
    splitTriple q ('\\' :: d :: cs) =
      ('\\' :: d :: (splitTriple q cs).1, (splitTriple q cs).2) := by
  simp [splitTriple]

theorem splitTriple_cons {q c : Char} (hc : c ≠ '\\') (cs : List Char) :
    splitTriple q (c :: cs) =
      if [q, q, q] <+: c :: cs then ([q, q, q], cs.drop 2)
      else (c :: (splitTriple q cs).1, (splitTriple q cs).2) := by
  cases cs with
  | nil => simp [splitTriple]
  | cons d cs => simp [splitTriple, hc, List.isPrefixOf_iff_prefix]

/-- Texts of a literal are read character by character, but what follows a backslash is read along
    with it. -/
@[elab_as_elim]
theorem unit_induction {motive : List Char → Prop} (nil : motive []) (backslash : motive ['\\'])
    (escape : ∀ c u, motive u → motive ('\\' :: c :: u))
    (char : ∀ c u, c ≠ '\\' → motive u → motive (c :: u)) : ∀ u, motive u
  | [] => nil
  | [c] => by
      by_cases hc : c = '\\'
      · subst hc
        exact backslash
      · exact char c [] hc nil
  | c :: d :: u => by
      by_cases hc : c = '\\'
      · subst hc
        exact escape d u (unit_induction nil backslash escape char u)
      · exact char c (d :: u) hc (unit_induction nil backslash escape char (d :: u))

theorem splitPlain_eq_nil {q : Char} {cs : List Char} :
    (splitPlain q cs).1 = [] ↔ ∀ y ∈ cs.head?, y = '\n' := by
  induction cs using unit_induction with
  | nil => simp [splitPlain]
  | backslash => simp [splitPlain]
  | escape d cs _ => simp [splitPlain_escape]
  | char c cs hc _ =>
      rw [splitPlain_cons hc]
      by_cases hn : c = '\n'
      · simp [hn]
      · rw [if_neg hn]
        split <;> simp [hn]

theorem splitTriple_ne_nil {q : Char} {cs : List Char} (h : cs ≠ []) :
    (splitTriple q cs).1 ≠ [] := by
  induction cs using unit_induction with
  | nil => exact absurd rfl h
  | backslash => simp [splitTriple]
  | escape d cs _ => simp [splitTriple_escape]
  | char c cs hc _ =>
      rw [splitTriple_cons hc]
      split <;> simp

/-! ## A region that ends before `x` -/

variable {q : Char}

theorem splitPlain_stable (hw : Replaceable x w)
    (hle : (splitPlain q (u ++ x :: v)).1.length ≤ u.length) :
    (splitPlain q (u ++ w)).1 = (splitPlain q (u ++ x :: v)).1 := by
  induction u using unit_induction with
  | nil =>
      have hnil : (splitPlain q (x :: v)).1 = [] := List.length_eq_zero_iff.1 (Nat.le_zero.1 hle)
      have hx : x = '\n' := splitPlain_eq_nil.1 hnil x rfl
      show (splitPlain q w).1 = (splitPlain q (x :: v)).1
      rw [hnil]
      exact splitPlain_eq_nil.2 (hw.head?_line_end hx)
  | backslash =>
      -- The backslash takes `x` with it.
      simp [splitPlain_escape] at hle
  | escape d u ih =>
      simp only [List.cons_append, splitPlain_escape, List.length_cons, Nat.add_le_add_iff_right]
        at hle ⊢
      rw [ih hle]
  | char c u hc ih =>
      simp only [List.cons_append, splitPlain_cons hc] at hle ⊢
      split
      · rfl
      · split
        · rfl
        · next hn hq =>
            rw [if_neg hn, if_neg hq] at hle
            exact congrArg (c :: ·) (ih (Nat.le_of_succ_le_succ hle))

theorem splitTriple_stable (hq : q ≠ '\n') (hw : Replaceable x w)
    (hle : (splitTriple q (u ++ x :: v)).1.length ≤ u.length) :
    (splitTriple q (u ++ w)).1 = (splitTriple q (u ++ x :: v)).1 := by
  induction u using unit_induction with
  | nil =>
      have hne : (splitTriple q (x :: v)).1 ≠ [] := splitTriple_ne_nil (by simp)
      exact absurd (List.length_eq_zero_iff.1 (Nat.le_zero.1 hle)) hne
  | backslash => simp [splitTriple_escape] at hle
  | escape d u ih =>
      simp only [List.cons_append, splitTriple_escape, List.length_cons, Nat.add_le_add_iff_right]
        at hle ⊢
      rw [ih hle]
  | char c u hc ih =>
      simp only [List.cons_append, splitTriple_cons hc] at hle ⊢
      by_cases hclose : [q, q, q] <+: c :: (u ++ x :: v)
      · rw [if_pos hclose] at hle ⊢
        have hclose' : [q, q, q] <+: c :: (u ++ w) := prefix_of_length_le (u := c :: u) hclose hle
        rw [if_pos hclose']
      · rw [if_neg hclose] at hle ⊢
        -- The rest covers something, so three quotes would reach `x` at most.
        have hrest := Nat.le_of_succ_le_succ hle
        have hne : (splitTriple q (u ++ x :: v)).1 ≠ [] := splitTriple_ne_nil (by simp)
        have hpos := List.length_pos_iff.2 hne
        have hopen : ¬ [q, q, q] <+: c :: (u ++ w) := by
          intro hclose'
          refine hclose (hw.prefix_of_prefix (u := c :: u) (by simpa using hq.symm) ?_ hclose')
          simp only [List.length_cons, List.length_nil]
          omega
        rw [if_neg hopen]
        exact congrArg (c :: ·) (ih hrest)

theorem splitLiteral_stable (hq : q ≠ '\n') (hw : Replaceable x w)
    (hle : (splitLiteral q (u ++ x :: v)).1.length ≤ u.length) :
    (splitLiteral q (u ++ w)).1 = (splitLiteral q (u ++ x :: v)).1 := by
  have hline : '\n' ∉ [q, q] := by simpa using hq.symm
  unfold splitLiteral at hle ⊢
  by_cases hlong : [q, q] <+: u ++ x :: v
  · rw [if_pos (List.isPrefixOf_iff_prefix.2 hlong)] at hle ⊢
    match u, hle with
    | d :: e :: u, hle =>
        have hlong' : [q, q] <+: d :: e :: u ++ w := prefix_of_length_le hlong (by simp)
        rw [if_pos (List.isPrefixOf_iff_prefix.2 hlong')]
        have hle' : (splitTriple q (u ++ x :: v)).1.length ≤ u.length := by simpa using hle
        exact congrArg (q :: q :: ·) (splitTriple_stable hq hw hle')
  · rw [if_neg (fun h => hlong (List.isPrefixOf_iff_prefix.1 h))] at hle ⊢
    have hshort : ¬ [q, q] <+: u ++ w := by
      intro hlong'
      by_cases hu : u = []
      · -- The literal would end before a newline, which is no quote.
        subst hu
        have hnil := List.length_eq_zero_iff.1 (Nat.le_zero.1 hle)
        have hx : x = '\n' := splitPlain_eq_nil.1 hnil x rfl
        obtain ⟨rest, rfl⟩ := hlong'
        exact hq ((hw.eq_of_head? rfl hq).trans hx)
      · refine hlong (hw.prefix_of_prefix hline ?_ hlong')
        have hpos := List.length_pos_iff.2 hu
        simp only [List.length_cons, List.length_nil]
        omega
    rw [if_neg (fun h => hshort (List.isPrefixOf_iff_prefix.1 h))]
    exact splitPlain_stable hw hle

theorem splitLine_stable (hw : Replaceable x w)
    (hle : (splitLine (u ++ x :: v)).1.length ≤ u.length) :
    (splitLine (u ++ w)).1 = (splitLine (u ++ x :: v)).1 := by
  unfold splitLine at hle ⊢
  induction u with
  | nil =>
      have hnil : (x :: v).takeWhile (· != '\n') = [] :=
        List.length_eq_zero_iff.1 (Nat.le_zero.1 hle)
      have hx : x = '\n' := by
        by_contra hne
        rw [List.takeWhile_cons_of_pos (by simpa using hne)] at hnil
        cases hnil
      have hline := hw.head?_line_end hx
      show w.takeWhile (· != '\n') = (x :: v).takeWhile (· != '\n')
      rw [hnil]
      cases w with
      | nil => rfl
      | cons y w => exact List.takeWhile_cons_of_neg (by simp [hline y rfl])
  | cons c u ih =>
      simp only [List.cons_append, List.takeWhile_cons] at hle ⊢
      by_cases hc : (c != '\n') = true
      · rw [if_pos hc] at hle ⊢
        rw [if_pos hc]
        exact congrArg (c :: ·) (ih (Nat.le_of_succ_le_succ hle))
      · rw [if_neg hc, if_neg hc]

theorem splitBlock_ne_nil {c : Char} {cs : List Char} : (splitBlock (c :: cs)).1 ≠ [] := by
  unfold splitBlock
  split <;> simp

theorem splitBlock_stable (hw : Replaceable x w)
    (hle : (splitBlock (u ++ x :: v)).1.length ≤ u.length) :
    (splitBlock (u ++ w)).1 = (splitBlock (u ++ x :: v)).1 := by
  induction u with
  | nil => exact absurd (List.length_eq_zero_iff.1 (Nat.le_zero.1 hle)) splitBlock_ne_nil
  | cons c u ih =>
      simp only [List.cons_append, splitBlock, List.isPrefixOf_iff_prefix] at hle ⊢
      by_cases hclose : ['*', '/'] <+: c :: (u ++ x :: v)
      · rw [if_pos hclose] at hle ⊢
        have hclose' : ['*', '/'] <+: c :: (u ++ w) := prefix_of_length_le (u := c :: u) hclose hle
        rw [if_pos hclose']
      · rw [if_neg hclose] at hle ⊢
        have hopen : ¬ ['*', '/'] <+: c :: (u ++ w) := fun hclose' =>
          hclose (hw.prefix_of_prefix (u := c :: u) (by decide) (by simp) hclose')
        rw [if_neg hopen]
        exact congrArg (c :: ·) (ih (Nat.le_of_succ_le_succ hle))

/-- A region that ends before `x` is the same with the replacement. -/
theorem Region.first_stable {lineStart : Bool} {c : Char} (hw : Replaceable x w)
    (hle : (Region.first lineStart c (u ++ x :: v)).1.text.length ≤ (c :: u).length) :
    (Region.first lineStart c (u ++ w)).1 = (Region.first lineStart c (u ++ x :: v)).1 := by
  unfold Region.first at hle ⊢
  by_cases hquote : c = '"' ∨ c = '\''
  · have hc : c ≠ '\n' := by rcases hquote with rfl | rfl <;> decide
    rw [if_pos hquote] at hle ⊢
    rw [if_pos hquote]
    exact congrArg (fun t => Region.literal (c :: t))
      (splitLiteral_stable hc hw (Nat.le_of_succ_le_succ hle))
  rw [if_neg hquote] at hle ⊢
  rw [if_neg hquote]
  by_cases hline : c = '/' ∧ (u ++ x :: v).head? = some '/'
  · rw [if_pos hline] at hle ⊢
    have hle' : (splitLine (u ++ x :: v)).1.length ≤ u.length := Nat.le_of_succ_le_succ hle
    cases u with
    | nil =>
        -- The comment would open with `x`, and so would cover it.
        have hx : x = '/' := Option.some.inj hline.2
        subst hx
        simp [splitLine] at hle'
    | cons d u =>
        have hline' : c = '/' ∧ (d :: u ++ w).head? = some '/' := hline
        rw [if_pos hline']
        exact congrArg (fun t => Region.lineComment (c :: t)) (splitLine_stable hw hle')
  rw [if_neg hline] at hle ⊢
  rw [if_neg (fun h => hline ⟨h.1, hw.head?_of_head? (by decide) h.2⟩)]
  by_cases hblock : c = '/' ∧ (u ++ x :: v).head? = some '*'
  · rw [if_pos hblock] at hle ⊢
    cases u with
    | nil => simp [Region.text] at hle
    | cons d u =>
        have hblock' : c = '/' ∧ (d :: u ++ w).head? = some '*' := hblock
        rw [if_pos hblock']
        have hle' : (splitBlock (u ++ x :: v)).1.length ≤ u.length := by
          simpa [Region.text] using hle
        exact congrArg (fun t => Region.blockComment (c :: '*' :: t)) (splitBlock_stable hw hle')
  rw [if_neg hblock] at hle ⊢
  rw [if_neg (fun h => hblock ⟨h.1, hw.head?_of_head? (by decide) h.2⟩)]
  rw [hw.opensDirective (u := u) (v := v)]
  by_cases hhash : c = '#' ∧ ¬(lineStart ∧ Source.opensDirective (u ++ x :: v))
  · rw [if_pos hhash] at hle ⊢
    rw [if_pos hhash]
    exact congrArg (fun t => Region.lineComment (c :: t))
      (splitLine_stable hw (Nat.le_of_succ_le_succ hle))
  · rw [if_neg hhash, if_neg hhash]

/-! ## Reading up to a place -/

/-- The text is cut into regions at the end of `p`: the reader is there at some time, outside of
    every literal and comment. -/
def Reaches (source p : List Char) : Prop :=
  ∃ before after, regions source = before ++ after ∧ before.flatMap Region.text = p

theorem Region.text_ne_nil {r : Region} {lineStart : Bool} {cs : List Char}
    (h : r ∈ regionsFrom lineStart cs) : r.text ≠ [] := by
  fun_induction regionsFrom lineStart cs with
  | case1 => cases h
  | case2 lineStart c cs first ih =>
      rcases List.mem_cons.1 h with rfl | h
      · exact Region.first_ne_nil lineStart c cs
      · exact ih h

/-- Characters that open no literal and no comment are code, whatever comes after them. -/
theorem exists_regionsFrom_append_code {p : List Char}
    (h : ∀ c ∈ p, c ∉ ['"', '\'', '/', '#']) (lineStart : Bool) (cs : List Char) :
    ∃ lineStart', regionsFrom lineStart (p ++ cs) =
      p.map Region.code ++ regionsFrom lineStart' cs := by
  induction p generalizing lineStart with
  | nil => exact ⟨lineStart, rfl⟩
  | cons c p ih =>
      have hc := h c List.mem_cons_self
      have hfirst : Region.first lineStart c (p ++ cs) = (.code c, p ++ cs) := by
        simp only [List.mem_cons, List.not_mem_nil, or_false, not_or] at hc
        obtain ⟨hdouble, hsingle, hslash, hhash⟩ := hc
        simp [Region.first, hdouble, hsingle, hslash, hhash]
      obtain ⟨lineStart', hrest⟩ := ih (fun d hd => h d (List.mem_cons_of_mem c hd))
        ((Region.code c).lineStart lineStart)
      refine ⟨lineStart', ?_⟩
      rw [List.cons_append, regionsFrom_cons, hfirst, hrest]
      rfl

theorem Reaches.of_code {p : List Char} (h : ∀ c ∈ p, c ∉ ['"', '\'', '/', '#'])
    (cs : List Char) : Reaches (p ++ cs) p := by
  obtain ⟨lineStart, hregions⟩ := exists_regionsFrom_append_code h true cs
  refine ⟨p.map Region.code, regionsFrom lineStart cs, hregions, ?_⟩
  simp [List.flatMap_map, Region.text]

/-- The regions up to a place between two of them, and what is known there of the line, do not
    depend on how the text goes on from there. -/
theorem regionsFrom_stable {before after : List Region} {p : List Char} {lineStart : Bool}
    (h : regionsFrom lineStart (p ++ x :: v) = before ++ after)
    (hp : before.flatMap Region.text = p) :
    ∃ lineStart', ∀ w, Replaceable x w →
      regionsFrom lineStart (p ++ w) = before ++ regionsFrom lineStart' w := by
  induction before generalizing lineStart p with
  | nil =>
      subst hp
      exact ⟨lineStart, fun w _ => rfl⟩
  | cons r before ih =>
      -- The first region ends before `x`, so it is the same for all `w`; the rest is by `ih`.
      rw [List.flatMap_cons] at hp
      cases p with
      | nil =>
          rw [List.nil_append, regionsFrom_cons, List.cons_append, List.cons.injEq] at h
          have hempty := (List.append_eq_nil_iff.1 hp).1
          rw [← h.1] at hempty
          exact absurd hempty (Region.first_ne_nil _ _ _)
      | cons c u =>
          rw [List.cons_append, regionsFrom_cons, List.cons_append, List.cons.injEq] at h
          obtain ⟨hr, hrest⟩ := h
          have hle : r.text.length ≤ (c :: u).length := by
            rw [← hp, List.length_append]
            exact Nat.le_add_right _ _
          have hsplit : ∀ w, (Region.first lineStart c (u ++ w)).1 = r →
              (Region.first lineStart c (u ++ w)).2 = before.flatMap Region.text ++ w := by
            intro w hw
            have happend := Region.first_append lineStart c (u ++ w)
            rw [hw, ← List.cons_append, ← hp, List.append_assoc] at happend
            exact List.append_cancel_left happend
          rw [hr, hsplit _ hr] at hrest
          obtain ⟨lineStart', hstable⟩ := ih hrest rfl
          refine ⟨lineStart', ?_⟩
          intro w hw
          have hsame : (Region.first lineStart c (u ++ w)).1 = r := by
            rw [← hr] at hle ⊢
            exact Region.first_stable hw hle
          rw [List.cons_append, regionsFrom_cons, hsame, hsplit w hsame, hstable w hw]
          rfl

end Playground.Source
