import Playground.Source.Token

set_option autoImplicit false

/-! # Every token is the longest of its kind

What may be a token is said here without the splitter: chains of identifiers, numerals, the
compounds of the vocabularies, and single characters. The first character of what is left decides
between the kinds, and of a kind the longest spelling is taken that the text opens with. There is
one way at most to cut a text in this manner, and the splitter finds it.

Nothing but blanks is lost, since no token has a blank in it. -/

namespace Playground.Source

open Playground.Text

/-! ## The longest of a kind -/

/-- Of all the texts of a kind that `text` opens with, `front` is the longest. -/
structure IsLongest (Kind : List Char → Prop) (text front : List Char) : Prop where
  opens : front <+: text
  is : Kind front
  greatest : ∀ other, other <+: text → Kind other → other.length ≤ front.length

theorem IsLongest.unique {Kind : List Char → Prop} {text front other : List Char}
    (h : IsLongest Kind text front) (h' : IsLongest Kind text other) : front = other :=
  (List.prefix_of_prefix_length_le h.opens h'.opens (h'.greatest _ h.opens h.is)).eq_of_length_le
    (h.greatest _ h'.opens h'.is)

/-! ## What may be a token -/

/-- An ASCII letter or an underscore, and word characters. -/
def IsIdentifier : List Char → Prop
  | [] => False
  | c :: cs => isWordStart c = true ∧ ∀ d ∈ cs, isWord d = true

instance : DecidablePred IsIdentifier := fun cs =>
  match cs with
  | [] => isFalse id
  | c :: cs =>
      decidable_of_iff (isWordStart c = true ∧ cs.all isWord = true) (by simp [IsIdentifier])

/-- Identifiers joined by `::`. -/
inductive IsChain : List Char → Prop where
  | name {name : List Char} (h : IsIdentifier name) : IsChain name
  | join {name chain : List Char} (h : IsIdentifier name) (rest : IsChain chain) :
      IsChain (name ++ ':' :: ':' :: chain)

def AllDigits (cs : List Char) : Prop := ∀ d ∈ cs, isDigit d = true

/-- Digits, or digits and a point and possibly more digits. -/
inductive IsNumeral : List Char → Prop where
  | whole {digits : List Char} (hne : digits ≠ []) (h : AllDigits digits) : IsNumeral digits
  | point {digits fraction : List Char} (hne : digits ≠ []) (h : AllDigits digits)
      (hfraction : AllDigits fraction) : IsNumeral (digits ++ '.' :: fraction)

/-- An operator or symbol of several characters in some vocabulary, the shared one included, that is
    not spelled like a name. -/
def IsCompound (t : List Char) : Prop :=
  (∃ v ∈ Language.all.map (·.vocabulary) ++ [Vocabulary.shared], t ∈ v.operators ∨ t ∈ v.symbols) ∧
    1 < t.length ∧ ¬IsIdentifier t

/-- The token that is to be taken where `c` comes next and `cs` after it. -/
inductive FirstToken (c : Char) (cs : List Char) : Token → Prop where
  | word {t : List Char} (hc : isWordStart c = true) (h : IsLongest IsChain (c :: cs) t) :
      FirstToken c cs ⟨.word, t⟩
  | number {t : List Char} (hc : isDigit c = true) (h : IsLongest IsNumeral (c :: cs) t) :
      FirstToken c cs ⟨.number, t⟩
  | compound {t : List Char} (hc : isWordStart c = false) (hd : isDigit c = false)
      (h : IsLongest IsCompound (c :: cs) t) : FirstToken c cs ⟨.compound, t⟩
  | symbol (hc : isWordStart c = false) (hd : isDigit c = false)
      (h : ∀ t, IsCompound t → ¬ t <+: c :: cs) : FirstToken c cs ⟨.symbol, [c]⟩

/-- These tokens are cut from the text, one after the other, and the blanks are left out. -/
inductive Splits : List Char → List Token → Prop where
  | nil : Splits [] []
  | blank {c : Char} {cs : List Char} {ts : List Token} (h : isBlank c = true)
      (rest : Splits cs ts) : Splits (c :: cs) ts
  | token {c : Char} {cs left : List Char} {t : Token} {ts : List Token} (hc : isBlank c = false)
      (h : FirstToken c cs t) (hleft : c :: cs = t.text ++ left) (rest : Splits left ts) :
      Splits (c :: cs) (t :: ts)

variable {c : Char} {cs : List Char}

/-! ## Classes of characters -/

/-- The blanks, one by one. -/
def blankCodes : List Nat :=
  List.range' 9 5 ++ [0x20, 0x85, 0xA0, 0x1680] ++ List.range' 0x2000 11 ++
    [0x2028, 0x2029, 0x202F, 0x205F, 0x3000]

theorem toNat_mem_blankCodes (h : isBlank c = true) : c.toNat ∈ blankCodes := by
  simp only [isBlank, Bool.or_eq_true, Bool.and_eq_true, decide_eq_true_eq, beq_iff_eq] at h
  simp only [blankCodes, List.mem_append, List.mem_range'_1, List.mem_cons, List.not_mem_nil]
  omega

theorem inRanges_eq_false_of_mem_blankCodes :
    ∀ n ∈ blankCodes, inRanges digitRanges n = false ∧ inRanges wordRanges n = false := by
  decide +kernel

/-- What holds of each character of ASCII can be looked up. -/
theorem ascii_forall {P : Char → Prop} (h : ∀ n : Fin 0x80, P (Char.ofNat n))
    (hlt : c.toNat < 0x80) : P c := by
  have hc := h ⟨c.toNat, hlt⟩
  rwa [Char.ofNat_toNat] at hc

theorem ascii_of_isBlank (hlt : c.toNat < 0x80) :
    isBlank c = true → c.isDigit = false ∧ (c.isAlphanum || c == '_') = false := by
  refine ascii_forall (P := fun c => isBlank c = true →
    c.isDigit = false ∧ (c.isAlphanum || c == '_') = false) ?_ hlt
  decide +kernel

theorem isDigit_of_isBlank (h : isBlank c = true) : isDigit c = false := by
  unfold isDigit
  split
  · next hlt => exact (ascii_of_isBlank hlt h).1
  · exact (inRanges_eq_false_of_mem_blankCodes _ (toNat_mem_blankCodes h)).1

theorem isWord_of_isBlank (h : isBlank c = true) : isWord c = false := by
  unfold isWord
  split
  · next hlt => exact (ascii_of_isBlank hlt h).2
  · exact (inRanges_eq_false_of_mem_blankCodes _ (toNat_mem_blankCodes h)).2

theorem isBlank_of_isWord (h : isWord c = true) : isBlank c = false := by
  rw [← Bool.not_eq_true]
  intro hc
  rw [isWord_of_isBlank hc] at h
  cases h

theorem isBlank_of_isDigit (h : isDigit c = true) : isBlank c = false := by
  rw [← Bool.not_eq_true]
  intro hc
  rw [isDigit_of_isBlank hc] at h
  cases h

theorem isDigit_of_isWordStart (h : isWordStart c = true) : isDigit c = false := by
  refine ascii_forall (P := fun c => isWordStart c = true → isDigit c = false) ?_
    (toNat_lt_of_isWordStart h) h
  decide +kernel

/-! ## Chains of identifiers -/

/-- What can follow the first character of a chain. -/
inductive ChainRest : List Char → Prop where
  | nil : ChainRest []
  | char {c : Char} {cs : List Char} (h : isWord c = true) (rest : ChainRest cs) :
      ChainRest (c :: cs)
  | link {d : Char} {cs : List Char} (h : isWordStart d = true) (rest : ChainRest cs) :
      ChainRest (':' :: ':' :: d :: cs)

theorem ChainRest.append {name : List Char} (h : ∀ d ∈ name, isWord d = true)
    (rest : ChainRest cs) : ChainRest (name ++ cs) := by
  induction name with
  | nil => exact rest
  | cons d name ih =>
      exact .char (h d List.mem_cons_self) (ih fun e he => h e (List.mem_cons_of_mem d he))

theorem IsChain.chainRest {chain : List Char} (h : IsChain chain) :
    ∃ c cs, chain = c :: cs ∧ isWordStart c = true ∧ ChainRest cs := by
  induction h with
  | @name name h =>
      cases name with
      | nil => exact h.elim
      | cons c cs => exact ⟨c, cs, rfl, h.1, by simpa using ChainRest.append h.2 .nil⟩
  | @join name chain h rest ih =>
      obtain ⟨d, ds, rfl, hd, hds⟩ := ih
      cases name with
      | nil => exact h.elim
      | cons c cs => exact ⟨c, _, rfl, h.1, ChainRest.append h.2 (.link hd hds)⟩

/-- A character that continues a name can be put after the first character of a chain. -/
theorem IsChain.insert {d : Char} {chain : List Char} (h : IsChain chain) (hd : isWord d = true)
    (hchain : chain = c :: cs) : IsChain (c :: d :: cs) := by
  cases h with
  | name h =>
      subst hchain
      exact .name ⟨h.1, List.forall_mem_cons.2 ⟨hd, h.2⟩⟩
  | @join name chain h rest =>
      cases name with
      | nil => exact h.elim
      | cons e name =>
          obtain ⟨rfl, rfl⟩ := List.cons.inj hchain
          exact @IsChain.join (e :: d :: name) _ ⟨h.1, List.forall_mem_cons.2 ⟨hd, h.2⟩⟩ rest

theorem ChainRest.isChain (h : ChainRest cs) (hc : isWordStart c = true) : IsChain (c :: cs) := by
  induction h generalizing c with
  | nil => exact .name ⟨hc, by simp⟩
  | char hd rest ih => exact (ih hc).insert hd rfl
  | link hd rest ih => exact @IsChain.join [c] _ ⟨hc, by simp⟩ (ih hd)

theorem splitChain_cons (hc : isWord c = true) :
    splitChain (c :: cs) = (c :: (splitChain cs).1, (splitChain cs).2) := by
  rw [splitChain.eq_def]
  simp [hc]

theorem splitChain_link {d : Char} (hd : isWordStart d = true) :
    splitChain (':' :: ':' :: d :: cs) = (':' :: ':' :: d :: (splitChain cs).1, (splitChain cs).2) := by
  have hcolon : isWord ':' = false := by decide
  rw [splitChain.eq_def]
  simp [hcolon, hd]

theorem chainRest_splitChain (cs : List Char) : ChainRest (splitChain cs).1 := by
  fun_induction splitChain cs with
  | case1 => exact .nil
  | case2 c cs hc r ih => exact .char hc ih
  | case3 d rest hd r hc ih => exact .link hd ih
  | case4 => exact .nil
  | case5 => exact .nil

theorem ChainRest.length_le {rest : List Char} (h : ChainRest rest) (hle : rest <+: cs) :
    rest.length ≤ (splitChain cs).1.length := by
  -- The splitter goes on wherever any chain does, so the induction is on the other chain.
  induction h generalizing cs with
  | nil => exact Nat.zero_le _
  | @char c rest hc _ ih =>
      obtain ⟨after, rfl⟩ := hle
      rw [List.cons_append, splitChain_cons hc]
      exact Nat.succ_le_succ (ih (List.prefix_append rest after))
  | @link d rest hd _ ih =>
      obtain ⟨after, rfl⟩ := hle
      show _ ≤ (splitChain (':' :: ':' :: d :: (rest ++ after))).1.length
      rw [splitChain_link hd]
      exact Nat.add_le_add_right (ih (List.prefix_append rest after)) 3

theorem isLongest_splitChain (hc : isWordStart c = true) :
    IsLongest IsChain (c :: cs) (c :: (splitChain cs).1) where
  opens := ⟨(splitChain cs).2, congrArg (c :: ·) (splitChain_append cs)⟩
  is := (chainRest_splitChain cs).isChain hc
  greatest := by
    intro other hother hchain
    obtain ⟨d, ds, rfl, -, hds⟩ := hchain.chainRest
    exact Nat.succ_le_succ (hds.length_le (List.cons_prefix_cons.1 hother).2)

/-! ## Numerals -/

theorem AllDigits.takeWhile_append {digits : List Char} (h : AllDigits digits) (rest : List Char) :
    (digits ++ rest).takeWhile isDigit = digits ++ rest.takeWhile isDigit :=
  List.takeWhile_append_of_pos h

theorem AllDigits.dropWhile_append {digits : List Char} (h : AllDigits digits) (rest : List Char) :
    (digits ++ rest).dropWhile isDigit = rest.dropWhile isDigit :=
  List.dropWhile_append_of_pos h

theorem allDigits_takeWhile (cs : List Char) : AllDigits (cs.takeWhile isDigit) :=
  List.all_eq_true.1 List.all_takeWhile

theorem isNumeral_splitNumber (hc : isDigit c = true) :
    IsNumeral (splitNumber (c :: cs)).1 := by
  have hne : (c :: cs).takeWhile isDigit ≠ [] := by simp [hc]
  unfold splitNumber
  split
  · exact .point hne (allDigits_takeWhile _) (allDigits_takeWhile _)
  · exact .whole hne (allDigits_takeWhile _)

theorem splitNumber_digits {digits : List Char} (h : AllDigits digits) (rest : List Char) :
    (splitNumber (digits ++ rest)).1 = digits ++ (splitNumber rest).1 := by
  unfold splitNumber
  rw [h.takeWhile_append, h.dropWhile_append]
  split <;> simp

theorem splitNumber_point {digits : List Char} (h : AllDigits digits) (rest : List Char) :
    (splitNumber (digits ++ '.' :: rest)).1 = digits ++ '.' :: rest.takeWhile isDigit := by
  have hpoint : isDigit '.' = false := by decide
  rw [splitNumber_digits h]
  simp [splitNumber, hpoint]

theorem IsNumeral.length_le {numeral : List Char} (h : IsNumeral numeral) (hle : numeral <+: cs) :
    numeral.length ≤ (splitNumber cs).1.length := by
  obtain ⟨after, rfl⟩ := hle
  cases h with
  | whole _ h =>
      rw [splitNumber_digits h, List.length_append]
      omega
  | point _ h hfraction =>
      rw [List.append_assoc, List.cons_append, splitNumber_point h, hfraction.takeWhile_append]
      simp only [List.length_append, List.length_cons]
      omega

theorem isLongest_splitNumber (hc : isDigit c = true) :
    IsLongest IsNumeral (c :: cs) (c :: (splitNumber cs).1) := by
  have hdigit : AllDigits [c] := by simpa [AllDigits] using hc
  have hsplit : (splitNumber (c :: cs)).1 = c :: (splitNumber cs).1 := splitNumber_digits hdigit cs
  rw [← hsplit]
  exact ⟨⟨_, splitNumber_append _⟩, isNumeral_splitNumber hc, fun _ hle h => h.length_le hle⟩

/-! ## Compounds -/

theorem mem_compounds_iff {t : List Char} : t ∈ compounds ↔ IsCompound t := by
  -- In the tables at hand, what opens like a name or a number is spelled like a name.
  have htables : ∀ v ∈ Language.all.map (·.vocabulary) ++ [Vocabulary.shared],
      ∀ t ∈ v.operators ++ v.symbols,
        ((decide (t.length > 1) && !t.head?.any fun c => c.isAlphanum || c == '_') = true ↔
          1 < t.length ∧ ¬IsIdentifier t) := by
    decide +kernel
  unfold compounds IsCompound
  simp only [List.mem_flatMap, List.mem_filter]
  constructor
  · rintro ⟨v, hv, ht, hkept⟩
    exact ⟨⟨v, hv, List.mem_append.1 ht⟩, (htables v hv t ht).1 hkept⟩
  · rintro ⟨⟨v, hv, ht⟩, hspelled⟩
    have ht := List.mem_append.2 ht
    exact ⟨v, hv, ht, (htables v hv t ht).2 hspelled⟩

theorem IsCompound.no_blank {t : List Char} (h : IsCompound t) : ∀ d ∈ t, isBlank d = false := by
  have htable : (compounds.all fun t => t.all fun d => !isBlank d) = true := by decide +kernel
  intro d hd
  have hall := List.all_eq_true.1 htable t (mem_compounds_iff.2 h)
  simpa using List.all_eq_true.1 hall d hd

/-- Compounds, none of which is longer than one before it. -/
def LongerFirst (ts : List (List Char)) : Prop := ts.Pairwise fun s t => t.length ≤ s.length

theorem mem_insertInTurn {t u : List Char} {ts : List (List Char)} :
    u ∈ insertInTurn t ts ↔ u = t ∨ u ∈ ts := by
  induction ts with
  | nil => simp [insertInTurn]
  | cons v ts ih =>
      unfold insertInTurn
      split
      · simp
      · split
        · next heq =>
            obtain rfl := eq_of_beq heq
            simp
        · simp [ih, or_left_comm]

theorem length_le_of_isTriedBefore {s t : List Char} (h : isTriedBefore s t = true) :
    t.length ≤ s.length := by
  simp only [isTriedBefore, Bool.or_eq_true, Bool.and_eq_true, decide_eq_true_eq, beq_iff_eq] at h
  omega

theorem length_le_of_not_isTriedBefore {s t : List Char} (h : ¬isTriedBefore s t = true) :
    s.length ≤ t.length := by
  simp only [isTriedBefore, Bool.or_eq_true, decide_eq_true_eq] at h
  omega

theorem LongerFirst.insertInTurn {t : List Char} {ts : List (List Char)} (h : LongerFirst ts) :
    LongerFirst (insertInTurn t ts) := by
  induction ts with
  | nil => exact List.pairwise_singleton _ _
  | cons u ts ih =>
      obtain ⟨hu, hts⟩ := List.pairwise_cons.1 h
      unfold Source.insertInTurn
      split
      · next hbefore =>
          have hle := length_le_of_isTriedBefore hbefore
          exact List.pairwise_cons.2
            ⟨List.forall_mem_cons.2 ⟨hle, fun v hv => Nat.le_trans (hu v hv) hle⟩, h⟩
      · next hbefore =>
          split
          · exact h
          · refine List.pairwise_cons.2 ⟨fun v hv => ?_, ih hts⟩
            rcases mem_insertInTurn.1 hv with rfl | hv
            · exact length_le_of_not_isTriedBefore hbefore
            · exact hu v hv

theorem mem_triedCompounds_iff {t : List Char} : t ∈ triedCompounds ↔ IsCompound t := by
  have hmem (ts : List (List Char)) : t ∈ ts.foldr insertInTurn [] ↔ t ∈ ts := by
    induction ts with
    | nil => rfl
    | cons u ts ih => rw [List.foldr_cons, mem_insertInTurn, ih, List.mem_cons]
  rw [triedCompounds, hmem, mem_compounds_iff]

theorem longerFirst_triedCompounds : LongerFirst triedCompounds := by
  unfold triedCompounds
  induction compounds with
  | nil => exact .nil
  | cons t ts ih => exact ih.insertInTurn

/-- The first compound that fits is the longest, for no later one is longer. -/
theorem longestCompound?_spec (text : List Char) :
    match longestCompound? text with
    | some t => IsLongest IsCompound text t
    | none => ∀ t, IsCompound t → ¬ t <+: text := by
  unfold longestCompound?
  cases hfind : triedCompounds.find? (·.isPrefixOf text) with
  | none =>
      intro t ht hle
      exact List.find?_eq_none.1 hfind t (mem_triedCompounds_iff.2 ht)
        (List.isPrefixOf_iff_prefix.2 hle)
  | some t =>
      obtain ⟨hfits, tried, left, hcompounds, hmissed⟩ := List.find?_eq_some_iff_append.1 hfind
      have hsorted := longerFirst_triedCompounds
      rw [hcompounds] at hsorted
      have hleft := (List.pairwise_append.1 hsorted).2.1
      have ht : t ∈ triedCompounds := List.mem_of_find?_eq_some hfind
      refine ⟨List.isPrefixOf_iff_prefix.1 hfits, mem_triedCompounds_iff.1 ht,
        fun other hother his => ?_⟩
      have hm := mem_triedCompounds_iff.2 his
      rw [hcompounds] at hm
      rcases List.mem_append.1 hm with hm | hm
      · have hmiss := hmissed other hm
        rw [List.isPrefixOf_iff_prefix.2 hother] at hmiss
        cases hmiss
      · rcases List.mem_cons.1 hm with rfl | hm
        · exact Nat.le_refl _
        · exact (List.pairwise_cons.1 hleft).1 other hm

/-! ## The first token -/

theorem firstToken_first (c : Char) (cs : List Char) : FirstToken c cs (Token.first c cs).1 := by
  unfold Token.first
  split
  · next hc => exact .word hc (isLongest_splitChain hc)
  · next hc =>
      rw [Bool.not_eq_true] at hc
      split
      · next hd => exact .number hd (isLongest_splitNumber hd)
      · next hd =>
          rw [Bool.not_eq_true] at hd
          have hspec := longestCompound?_spec (c :: cs)
          split
          · next t ht =>
              rw [ht] at hspec
              exact .compound hc hd hspec
          · next hnone =>
              rw [hnone] at hspec
              exact .symbol hc hd hspec

theorem Token.first_append (c : Char) (cs : List Char) :
    (Token.first c cs).1.text ++ (Token.first c cs).2 = c :: cs := by
  unfold Token.first
  split
  · exact congrArg (c :: ·) (splitChain_append cs)
  · split
    · exact congrArg (c :: ·) (splitNumber_append cs)
    · have hspec := longestCompound?_spec (c :: cs)
      split
      · next t ht =>
          rw [ht] at hspec
          obtain ⟨after, hafter⟩ := hspec.opens
          have hlen : 1 < t.length := hspec.is.2.1
          cases t with
          | nil => simp at hlen
          | cons d t =>
              obtain ⟨rfl, rfl⟩ := List.cons.inj hafter
              simp
      · rfl

theorem FirstToken.unique {t u : Token} (ht : FirstToken c cs t) (hu : FirstToken c cs u) :
    t = u := by
  have hexclusive : isWordStart c = true → isDigit c = true → False := by
    intro hc hd
    rw [isDigit_of_isWordStart hc] at hd
    cases hd
  -- The first character tells the kind, and of a kind there is one longest text.
  cases ht with
  | word hc ht =>
      cases hu with
      | word _ hu => rw [ht.unique hu]
      | number hd _ => exact (hexclusive hc hd).elim
      | compound hc' _ _ | symbol hc' _ _ => simp [hc] at hc'
  | number hd ht =>
      cases hu with
      | word hc _ => exact (hexclusive hc hd).elim
      | number _ hu => rw [ht.unique hu]
      | compound _ hd' _ | symbol _ hd' _ => simp [hd] at hd'
  | compound hc hd ht =>
      cases hu with
      | word hc' _ => simp [hc] at hc'
      | number hd' _ => simp [hd] at hd'
      | compound _ _ hu => rw [ht.unique hu]
      | symbol _ _ hnone => exact absurd ht.opens (hnone _ ht.is)
  | symbol hc hd hnone =>
      cases hu with
      | word hc' _ => simp [hc] at hc'
      | number hd' _ => simp [hd] at hd'
      | compound _ _ hu => exact absurd hu.opens (hnone _ hu.is)
      | symbol => rfl

theorem ChainRest.no_blank (h : ChainRest cs) : ∀ d ∈ cs, isBlank d = false := by
  induction h with
  | nil => simp
  | char hc rest ih => exact List.forall_mem_cons.2 ⟨isBlank_of_isWord hc, ih⟩
  | link hd rest ih =>
      have hcolon : isBlank ':' = false := by decide
      refine List.forall_mem_cons.2 ⟨hcolon, List.forall_mem_cons.2 ⟨hcolon, ?_⟩⟩
      exact List.forall_mem_cons.2 ⟨isBlank_of_isWord (isWord_of_isWordStart hd), ih⟩

theorem IsChain.no_blank {chain : List Char} (h : IsChain chain) :
    ∀ d ∈ chain, isBlank d = false := by
  obtain ⟨c, cs, rfl, hc, hcs⟩ := h.chainRest
  exact List.forall_mem_cons.2 ⟨isBlank_of_isWord (isWord_of_isWordStart hc), hcs.no_blank⟩

theorem IsNumeral.no_blank {numeral : List Char} (h : IsNumeral numeral) :
    ∀ d ∈ numeral, isBlank d = false := by
  have hpoint : isBlank '.' = false := by decide
  cases h with
  | whole _ h => exact fun d hd => isBlank_of_isDigit (h d hd)
  | point _ h hfraction =>
      intro d hd
      rcases List.mem_append.1 hd with hd | hd
      · exact isBlank_of_isDigit (h d hd)
      · rcases List.mem_cons.1 hd with rfl | hd
        · exact hpoint
        · exact isBlank_of_isDigit (hfraction d hd)

theorem FirstToken.no_blank {t : Token} (h : FirstToken c cs t) (hc : isBlank c = false) :
    ∀ d ∈ t.text, isBlank d = false := by
  cases h with
  | word _ h => exact h.is.no_blank
  | number _ h => exact h.is.no_blank
  | compound _ _ h => exact h.is.no_blank
  | symbol => simpa using hc

/-- What has no blank in it is read at the beginning of both texts or of none. -/
def OpensAlike (x y : List Char) : Prop :=
  ∀ word, (∀ d ∈ word, isBlank d = false) → (word <+: x ↔ word <+: y)

/-- Nothing follows, or a blank does. -/
def BeginsBlank (rest : List Char) : Prop := ∀ y ∈ rest.head?, isBlank y = true

theorem BeginsBlank.of_all {rest : List Char} (h : ∀ d ∈ rest, isBlank d = true) :
    BeginsBlank rest :=
  fun y hy => h y (List.mem_of_mem_head? hy)

theorem BeginsBlank.cons (hc : isBlank c = true) (cs : List Char) : BeginsBlank (c :: cs) := by
  intro y hy
  rwa [← Option.some.inj hy]

/-- Only the empty word is read before a blank. -/
theorem BeginsBlank.prefix_iff {rest word : List Char} (h : BeginsBlank rest)
    (hword : ∀ d ∈ word, isBlank d = false) : word <+: rest ↔ word = [] := by
  refine ⟨fun hopens => ?_, fun hnil => hnil ▸ List.nil_prefix⟩
  cases word with
  | nil => rfl
  | cons d word =>
      obtain ⟨left, rfl⟩ := hopens
      have hd := h d rfl
      rw [hword d List.mem_cons_self] at hd
      cases hd

theorem BeginsBlank.opensAlike {x y : List Char} (hx : BeginsBlank x) (hy : BeginsBlank y) :
    OpensAlike x y :=
  fun _ hword => (hx.prefix_iff hword).trans (hy.prefix_iff hword).symm

theorem OpensAlike.cons {x y : List Char} (h : OpensAlike x y) (c : Char) :
    OpensAlike (c :: x) (c :: y) := by
  intro word hword
  cases word with
  | nil => exact iff_of_true List.nil_prefix List.nil_prefix
  | cons d word =>
      rw [List.forall_mem_cons] at hword
      rw [List.cons_prefix_cons, List.cons_prefix_cons, h word hword.2]

theorem OpensAlike.isLongest {Kind : List Char → Prop} {x y word : List Char}
    (h : OpensAlike x y) (hkind : ∀ t, Kind t → ∀ d ∈ t, isBlank d = false)
    (hx : IsLongest Kind x word) : IsLongest Kind y word where
  opens := (h word (hkind _ hx.is)).1 hx.opens
  is := hx.is
  greatest := fun other hother his =>
    hx.greatest other ((h other (hkind _ his)).2 hother) his

/-- As no token has a blank in it, the first one is the same. -/
theorem OpensAlike.firstToken {ds : List Char} {t : Token} (h : OpensAlike (c :: cs) (c :: ds))
    (ht : FirstToken c cs t) : FirstToken c ds t := by
  cases ht with
  | word hc ht => exact .word hc (h.isLongest (fun _ h => h.no_blank) ht)
  | number hc ht => exact .number hc (h.isLongest (fun _ h => h.no_blank) ht)
  | compound hc hd ht => exact .compound hc hd (h.isLongest (fun _ h => h.no_blank) ht)
  | symbol hc hd hnone =>
      exact .symbol hc hd fun t ht hopens => hnone t ht ((h t ht.no_blank).2 hopens)

theorem FirstToken.filter_text {t : Token} (h : FirstToken c cs t) (hc : isBlank c = false) :
    (t.text.filter fun d => !isBlank d) = t.text := by
  rw [List.filter_eq_self]
  intro d hd
  rw [h.no_blank hc d hd]
  rfl

/-! ## The whole text -/

theorem splits_tokens (text : List Char) : Splits text (tokens text) := by
  fun_induction tokens text with
  | case1 => exact .nil
  | case2 c cs hc ih => exact .blank hc ih
  | case3 c cs hc r ih =>
      exact .token (Bool.not_eq_true _ ▸ hc) (firstToken_first c cs) (Token.first_append c cs).symm ih

theorem Splits.eq_tokens {text : List Char} {ts : List Token} (h : Splits text ts) :
    ts = tokens text := by
  induction h with
  | nil => simp [tokens]
  | blank h rest ih => rw [tokens, if_pos h, ih]
  | @token c cs left t ts hc h hleft rest ih =>
      -- The first token is the splitter's, and so is what it leaves.
      have ht := h.unique (firstToken_first c cs)
      have hleft' : left = (Token.first c cs).2 := by
        have happend := Token.first_append c cs
        rw [hleft, ← ht] at happend
        exact (List.append_cancel_left happend).symm
      rw [tokens, if_neg (by simp [hc]), ih, ht, hleft']

/-- Cutting a text loses its blanks and nothing else. -/
theorem Splits.flatMap_text {text : List Char} {ts : List Token} (h : Splits text ts) :
    ts.flatMap Token.text = text.filter fun c => !isBlank c := by
  induction h with
  | nil => rfl
  | blank h rest ih => rw [ih, List.filter_cons_of_neg (by simp [h])]
  | token hc h hleft rest ih =>
      rw [hleft, List.filter_append, h.filter_text hc, List.flatMap_cons, ih]

/-- A token stands at the place that the tokens before it lead to. -/
theorem Splits.stands {text : List Char} {before after : List Token} {t : Token}
    (h : Splits text (before ++ t :: after)) :
    ∃ front c cs, text = front ++ c :: cs ∧
      before.flatMap Token.text = (front.filter fun c => !isBlank c) ∧ FirstToken c cs t := by
  generalize hts : before ++ t :: after = ts at h
  induction h generalizing before with
  | nil => simp at hts
  | @blank c cs ts hc rest ih =>
      obtain ⟨front, d, ds, rfl, hfront, hd⟩ := ih hts
      exact ⟨c :: front, d, ds, rfl, by rw [hfront, List.filter_cons_of_neg (by simp [hc])], hd⟩
  | @token c cs left u ts hc h hleft rest ih =>
      cases before with
      | nil =>
          obtain ⟨rfl, -⟩ := List.cons.inj hts
          exact ⟨[], c, cs, rfl, rfl, h⟩
      | cons v before =>
          obtain ⟨rfl, hrest⟩ := List.cons.inj hts
          obtain ⟨front, d, ds, rfl, hfront, hd⟩ := ih hrest
          refine ⟨v.text ++ front, d, ds, by rw [hleft, List.append_assoc], ?_, hd⟩
          rw [List.flatMap_cons, hfront, List.filter_append, h.filter_text hc]

/-- The tokens of a text are its characters without the blanks. Each is the longest of its kind at
    the place where it stands, and no other tokens can be cut from the text in this way. -/
theorem tokens_take_the_longest (text : List Char) :
    (tokens text).flatMap Token.text = (text.filter fun c => !isBlank c) ∧
      (∀ before t after, tokens text = before ++ t :: after →
        ∃ front c cs, text = front ++ c :: cs ∧
          before.flatMap Token.text = (front.filter fun c => !isBlank c) ∧ FirstToken c cs t) ∧
      ∀ ts, Splits text ts ↔ ts = tokens text := by
  have hsplits := splits_tokens text
  refine ⟨hsplits.flatMap_text, ?_, fun ts => ⟨Splits.eq_tokens, ?_⟩⟩
  · intro before t after heq
    rw [heq] at hsplits
    exact hsplits.stands
  · rintro rfl
    exact hsplits

end Playground.Source
