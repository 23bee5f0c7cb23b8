import Playground.Proofs.Source.Longest

set_option autoImplicit false

/-! # Blanks separate tokens

A token has no blank in it, and nothing looks past one to find out where a token ends. So what is
read before a blank does not depend on what comes after it (`opensAlike_append`), and the tokens of
two texts with blanks between them are those of the one and then those of the other.

On its own, a token is read as itself (`FirstToken.tokens_text`): the longest text of a kind is the
longest one still when nothing follows it. Hence the texts of tokens, with a space between each two
of them, are read as these tokens again. -/

namespace Playground.Source

open Playground.Text

variable {c : Char} {cs text rest front word : List Char} {t : Token} {ts us : List Token}

/-! ## Up to a blank -/

theorem opensAlike_append (h : BeginsBlank rest) (text : List Char) :
    OpensAlike text (text ++ rest) := by
  induction text with
  | nil =>
      have hnil : BeginsBlank [] := .of_all (by simp)
      exact hnil.opensAlike h
  | cons d text ih => exact ih.cons d

theorem Splits.append (h : Splits text ts) (hrest : BeginsBlank rest) (h' : Splits rest us) :
    Splits (text ++ rest) (ts ++ us) := by
  induction h with
  | nil => exact h'
  | blank hc _ ih => exact .blank hc ih
  | @token c cs left t ts hc ht hleft _ ih =>
      have hfirst : FirstToken c (cs ++ rest) t := (opensAlike_append hrest (c :: cs)).firstToken ht
      refine .token hc hfirst ?_ ih
      show (c :: cs) ++ rest = t.text ++ (left ++ rest)
      rw [hleft, List.append_assoc]

theorem tokens_append (h : BeginsBlank rest) (text : List Char) :
    tokens (text ++ rest) = tokens text ++ tokens rest :=
  ((splits_tokens text).append h (splits_tokens rest)).eq_tokens.symm

/-! ## Reading past blanks -/

theorem tokens_cons_of_blank (h : isBlank c = true) (cs : List Char) :
    tokens (c :: cs) = tokens cs := by
  rw [tokens, if_pos h]

theorem tokens_cons (h : isBlank c = false) (cs : List Char) :
    tokens (c :: cs) = (Token.first c cs).1 :: tokens (Token.first c cs).2 := by
  rw [tokens, if_neg (by simp [h])]

theorem tokens_append_of_blank (h : ∀ d ∈ front, isBlank d = true) (cs : List Char) :
    tokens (front ++ cs) = tokens cs := by
  induction front with
  | nil => rfl
  | cons d front ih =>
      rw [List.forall_mem_cons] at h
      rw [List.cons_append, tokens_cons_of_blank h.1, ih h.2]

/-- Blanks at the end of a text are not read at all. -/
theorem tokens_append_blanks (h : ∀ d ∈ rest, isBlank d = true) (text : List Char) :
    tokens (text ++ rest) = tokens text := by
  have hnone : tokens rest = [] := by simpa [tokens] using tokens_append_of_blank h []
  rw [tokens_append (.of_all h), hnone, List.append_nil]

/-! ## A token on its own -/

theorem IsLongest.self {Kind : List Char → Prop} (h : IsLongest Kind text word) :
    IsLongest Kind word word :=
  ⟨List.prefix_rfl, h.is, fun _ hother _ => hother.length_le⟩

/-- The first token opens with the first character. -/
theorem FirstToken.exists_cons (h : FirstToken c cs t) : ∃ ds, t.text = c :: ds := by
  have hopens : ∀ word, word ≠ [] → word <+: c :: cs → ∃ ds, word = c :: ds := by
    intro word hne hword
    obtain ⟨d, ds, rfl⟩ := List.exists_cons_of_ne_nil hne
    exact ⟨ds, by rw [(List.cons_prefix_cons.1 hword).1]⟩
  cases h with
  | word _ h =>
      obtain ⟨d, ds, heq, -, -⟩ := h.is.chainRest
      exact hopens _ (by simp [heq]) h.opens
  | number _ h =>
      refine hopens _ ?_ h.opens
      cases h.is with
      | whole hne _ => exact hne
      | point _ _ _ => simp
  | compound _ _ h =>
      exact hopens _ (List.ne_nil_of_length_pos (Nat.lt_of_succ_lt h.is.2.1)) h.opens
  | symbol => exact ⟨[], rfl⟩

theorem FirstToken.alone (h : FirstToken c cs t) : ∃ ds, t.text = c :: ds ∧ FirstToken c ds t := by
  obtain ⟨ds, hds⟩ := h.exists_cons
  refine ⟨ds, hds, ?_⟩
  cases h with
  | word hc h => exact .word hc (by simpa only [← hds] using h.self)
  | number hd h => exact .number hd (by simpa only [← hds] using h.self)
  | compound hc hd h => exact .compound hc hd (by simpa only [← hds] using h.self)
  | symbol hc hd _ =>
      -- A compound has two characters at least.
      obtain rfl : [] = ds := (List.cons.inj hds).2
      exact .symbol hc hd fun u hu hopens => absurd hopens.length_le (Nat.not_le_of_lt hu.2.1)

theorem FirstToken.tokens_text (h : FirstToken c cs t) (hc : isBlank c = false) :
    tokens t.text = [t] := by
  obtain ⟨ds, hds, halone⟩ := h.alone
  have hsplits : Splits (c :: ds) [t] := .token hc halone (by rw [hds, List.append_nil]) .nil
  rw [hds]
  exact hsplits.eq_tokens.symm

theorem Splits.tokens_text (h : Splits text ts) : ∀ t ∈ ts, tokens t.text = [t] := by
  induction h with
  | nil => simp
  | blank _ _ ih => exact ih
  | token hc ht _ _ ih => exact List.forall_mem_cons.2 ⟨ht.tokens_text hc, ih⟩

/-! ## Tokens with spaces between them -/

theorem tokens_intercalate (h : ∀ t ∈ ts, tokens t.text = [t]) :
    tokens ([' '].intercalate (ts.map Token.text)) = ts := by
  have hspace : ∀ rest, BeginsBlank (' ' :: rest) := by
    intro rest y hy
    rw [← Option.some.inj hy]
    decide
  induction ts with
  | nil => simp [tokens]
  | cons t ts ih =>
      rw [List.forall_mem_cons] at h
      cases ts with
      | nil => simpa using h.1
      | cons u ts =>
          rw [List.map_cons, List.map_cons, List.intercalate_cons_cons, List.append_assoc,
            List.singleton_append, tokens_append (hspace _), tokens_cons_of_blank (by decide), h.1,
            ← List.map_cons, ih h.2, List.singleton_append]

/-- Blanks between two texts keep their tokens apart, and do nothing else. Every list of tokens that
    has been read from a text is read again from the texts of these tokens with a space between each
    two of them. -/
theorem blanks_separate_tokens :
    (∀ text blanks rest, blanks ≠ [] → (∀ d ∈ blanks, isBlank d = true) →
      tokens (text ++ blanks ++ rest) = tokens text ++ tokens rest) ∧
    ∀ text, tokens ([' '].intercalate ((tokens text).map Token.text)) = tokens text := by
  refine ⟨?_, fun text => tokens_intercalate (splits_tokens text).tokens_text⟩
  intro text blanks rest hne hblanks
  have hbegins : BeginsBlank (blanks ++ rest) := by
    obtain ⟨d, blanks, rfl⟩ := List.exists_cons_of_ne_nil hne
    exact .cons (hblanks d List.mem_cons_self) _
  rw [List.append_assoc, tokens_append hbegins, tokens_append_of_blank hblanks]

/-- A minus and a greater sign are an arrow, but not with a blank between them. -/
theorem blanks_separate_tokens_of_arrow :
    tokens ['-', '>'] = [⟨.compound, ['-', '>']⟩] ∧
      tokens (['-'] ++ ['\t', '\u2003'] ++ ['>']) = [⟨.symbol, ['-']⟩, ⟨.symbol, ['>']⟩] := by
  refine ⟨by decide +kernel, ?_⟩
  rw [blanks_separate_tokens.1 ['-'] ['\t', '\u2003'] ['>'] (by simp) (by simp [isBlank])]
  decide +kernel

end Playground.Source
