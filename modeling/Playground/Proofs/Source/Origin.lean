import Playground.Proofs.Source.Separation
import Playground.Proofs.Source.Stable

set_option autoImplicit false

/-! # Where the tokens come from

The tokens of a stripped text are read off the source as well: each of them stands there in one
stretch of code, character for character, and only the two quotes of a placeholder do not, which
stand for a literal. Read from left to right, these places follow each other in the source.

A `Piece` is such a place with what is read there. That a token lies in one stretch rests on what
is left of a literal or a comment: a blank, or the end of the line (`exists_of_renderedFrom`). As no
token has a blank in it, none reaches beyond its stretch, whatever stands on the other side. -/

namespace Playground.Source

open Playground.Text

/-- The token of which a placeholder has two. -/
def quote : Token := ⟨.symbol, ['"']⟩

/-- A part of a source that tokens are read from. -/
inductive Piece where
  /-- A token of the code. -/
  | code (token : Token) (start : Nat)
  | literal (text : List Char) (start : Nat)
  deriving DecidableEq, Repr

namespace Piece

/-- The tokens that are read from a piece. -/
def tokens : Piece → List Token
  | .code t _ => [t]
  | .literal _ _ => [quote, quote]

/-- The regions that a piece is made of. There is nothing between the characters of a token. -/
def regions : Piece → List Region
  | .code t _ => t.text.map Region.code
  | .literal text _ => [.literal text]

def text (p : Piece) : List Char := p.regions.flatMap Region.text

def start : Piece → Nat
  | .code _ start => start
  | .literal _ start => start

def stop (p : Piece) : Nat := p.start + p.text.length

/-- The piece is part of a source, at its place. -/
def IsIn (p : Piece) (source : List Char) : Prop :=
  ∃ before after, Source.regions source = before ++ p.regions ++ after ∧
    (before.flatMap Region.text).length = p.start

@[simp] theorem text_code (t : Token) (start : Nat) : (Piece.code t start).text = t.text := by
  simp [text, regions, List.flatMap_map, Region.text]

@[simp] theorem text_literal (text : List Char) (start : Nat) :
    (Piece.literal text start).text = text := by
  simp [Piece.text, regions, Region.text]

/-- A piece is a contiguous part of the source. -/
theorem IsIn.take_drop {p : Piece} {source : List Char} (h : p.IsIn source) :
    (source.drop p.start).take p.text.length = p.text := by
  obtain ⟨before, after, hregions, hstart⟩ := h
  have hsource : source =
      before.flatMap Region.text ++ (p.text ++ after.flatMap Region.text) := by
    rw [← flatMap_text_regionsFrom true source, ← Source.regions, hregions]
    simp [text]
  rw [hsource, List.drop_left' hstart, List.take_left]

end Piece

variable {c : Char} {cs front left : List Char} {lineStart : Bool} {n : Nat}

/-! ## Pieces one after the other -/

/-- The pieces are found in the regions from left to right, the first region beginning at `n`. -/
inductive Lie : Nat → List Region → List Piece → Prop where
  | nil {n : Nat} : Lie n [] []
  | skip {n : Nat} {r : Region} {rs : List Region} {ps : List Piece}
      (rest : Lie (n + r.text.length) rs ps) : Lie n (r :: rs) ps
  | piece {p : Piece} {rs : List Region} {ps : List Piece} (rest : Lie p.stop rs ps) :
      Lie p.start (p.regions ++ rs) (p :: ps)

namespace Lie

variable {rs : List Region} {ps : List Piece}

theorem le_start (h : Lie n rs ps) : ∀ p ∈ ps, n ≤ p.start := by
  induction h with
  | nil => simp
  | skip rest ih => exact fun p hp => Nat.le_trans (Nat.le_add_right _ _) (ih p hp)
  | @piece p rs ps rest ih =>
      refine List.forall_mem_cons.2 ⟨Nat.le_refl _, fun q hq => ?_⟩
      exact Nat.le_trans (Nat.le_add_right _ _) (ih q hq)

theorem pairwise (h : Lie n rs ps) : ps.Pairwise fun p q => p.stop ≤ q.start := by
  induction h with
  | nil => exact .nil
  | skip rest ih => exact ih
  | piece rest ih => exact .cons rest.le_start ih

/-- Each piece is where it is said to be. -/
theorem exists_append (h : Lie n rs ps) :
    ∀ p ∈ ps, ∃ before after, rs = before ++ p.regions ++ after ∧
      n + (before.flatMap Region.text).length = p.start := by
  induction h with
  | nil => simp
  | @skip n r rs ps rest ih =>
      intro p hp
      obtain ⟨before, after, rfl, hstart⟩ := ih p hp
      refine ⟨r :: before, after, by simp, ?_⟩
      rw [← hstart, List.flatMap_cons, List.length_append, Nat.add_assoc]
  | @piece q rs ps rest ih =>
      intro p hp
      rcases List.mem_cons.1 hp with rfl | hp
      · exact ⟨[], rs, rfl, rfl⟩
      · obtain ⟨before, after, rfl, hstart⟩ := ih p hp
        refine ⟨q.regions ++ before, after, by simp, ?_⟩
        rw [← hstart, List.flatMap_append, List.length_append, ← Nat.add_assoc]
        rfl

end Lie

/-! ## Cutting a stripped text -/

/-- No compound begins with a quote. -/
theorem first_quote (cs : List Char) : Token.first '"' cs = (quote, cs) := by
  have htable : (compounds.all fun t => t.head? != some '"') = true := by decide +kernel
  have hnone : ∀ t, IsCompound t → ¬ t <+: '"' :: cs := by
    rintro t ht ⟨left, heq⟩
    have hhead := List.all_eq_true.1 htable t (mem_compounds_iff.2 ht)
    cases t with
    | nil => exact absurd ht.2.1 (by simp)
    | cons d t => simp [(List.cons.inj heq).1] at hhead
  have hfirst : (Token.first '"' cs).1 = quote :=
    (firstToken_first '"' cs).unique (.symbol (by decide) (by decide) hnone)
  have happend := Token.first_append '"' cs
  rw [hfirst] at happend
  exact Prod.ext hfirst (List.cons.inj happend).2

theorem tokens_placeholder (cs : List Char) :
    tokens (placeholder ++ cs) = quote :: quote :: tokens cs := by
  have hspace : isBlank ' ' = true := by decide
  have hquote : isBlank '"' = false := by decide
  simp only [placeholder, List.cons_append, List.nil_append]
  rw [tokens_cons_of_blank hspace, tokens_cons hquote, first_quote, tokens_cons hquote, first_quote,
    tokens_cons_of_blank hspace]

/-- What is left of a block comment is blank. -/
theorem isBlank_of_mem_blockComment {t : List Char} :
    ∀ d ∈ (Region.blockComment t).rendered, isBlank d = true := by
  obtain ⟨hspace, -⟩ | ⟨⟨k, hnewlines⟩, -⟩ := rendered_blockComment t
  · rw [hspace]
    exact List.forall_mem_singleton.2 (by decide)
  · rw [hnewlines]
    intro d hd
    rw [List.eq_of_mem_replicate hd]
    decide

/-- What is in front of a stripped text and has no blank in it is code, and all of it is in one
    stretch. -/
theorem exists_of_renderedFrom (hfront : ∀ d ∈ front, isBlank d = false)
    (h : renderedFrom lineStart cs = front ++ left) :
    ∃ lineStart' cs', cs = front ++ cs' ∧
      regionsFrom lineStart cs = front.map Region.code ++ regionsFrom lineStart' cs' ∧
      renderedFrom lineStart' cs' = left := by
  induction front generalizing lineStart cs with
  | nil => exact ⟨lineStart, cs, rfl, rfl, h⟩
  | cons d front ih =>
      rw [List.forall_mem_cons] at hfront
      cases cs with
      | nil => simp [renderedFrom] at h
      | cons c cs =>
          rw [renderedFrom_cons] at h
          obtain ⟨t, rest, hfirst⟩ | ⟨t, hfirst⟩ | ⟨t, rest, hfirst⟩ | hfirst :=
            Region.first_cases lineStart c cs
          · rw [hfirst] at h
            obtain rfl : ' ' = d := (List.cons.inj h).1
            exact absurd hfront.1 (by decide)
          · -- After a line comment comes the end of the line.
            rw [hfirst] at h
            obtain rfl : d = '\n' := atLineEnd_renderedFrom_splitLine _ cs d (by
              rw [show renderedFrom _ (splitLine cs).2 = _ from h]
              rfl)
            exact absurd hfront.1 (by decide)
          · rw [hfirst] at h
            have hmem : d ∈ (Region.blockComment t).rendered := by
              obtain ⟨hspace, -⟩ | ⟨⟨k, hnewlines⟩, -⟩ := rendered_blockComment t
              · rw [hspace] at h ⊢
                exact List.mem_singleton.2 (List.cons.inj h).1.symm
              · rw [hnewlines] at h ⊢
                exact List.mem_replicate.2 ⟨by simp, (List.cons.inj h).1.symm⟩
            exact absurd (isBlank_of_mem_blockComment d hmem) (by simp [hfront.1])
          · rw [hfirst] at h
            obtain ⟨rfl, hrest⟩ := List.cons.inj h
            obtain ⟨lineStart', cs', rfl, hregions, hleft⟩ :=
              ih hfront.2 hrest
            refine ⟨lineStart', cs', rfl, ?_, hleft⟩
            rw [regionsFrom_cons, hfirst, hregions]
            rfl

/-- A token that begins in code takes as many regions with it as it has characters. -/
theorem exists_token (hfirst : Region.first lineStart c cs = (.code c, cs))
    (hc : isBlank c = false) :
    ∃ t lineStart' cs', cs'.length < (c :: cs).length ∧
      regionsFrom lineStart (c :: cs) = t.text.map Region.code ++ regionsFrom lineStart' cs' ∧
      tokens (renderedFrom lineStart (c :: cs)) = t :: tokens (renderedFrom lineStart' cs') := by
  have hrendered : renderedFrom lineStart (c :: cs) =
      c :: renderedFrom ((Region.code c).lineStart lineStart) cs := by
    rw [renderedFrom_cons, hfirst]
    rfl
  generalize renderedFrom ((Region.code c).lineStart lineStart) cs = rest at hrendered
  have happend := Token.first_append c rest
  obtain ⟨lineStart', cs', hcs, hregions, hleft⟩ :=
    exists_of_renderedFrom ((firstToken_first c rest).no_blank hc) (hrendered.trans happend.symm)
  refine ⟨(Token.first c rest).1, lineStart', cs', ?_, hregions, ?_⟩
  · have hle := Token.first_length c rest
    have hwhole := congrArg List.length happend
    have hsource := congrArg List.length hcs
    rw [List.length_append] at hwhole hsource
    rw [List.length_cons] at hwhole
    omega
  · rw [hrendered, tokens_cons hc, hleft]

/-- The tokens of a stripped text are those of pieces of its source. -/
theorem exists_lie (lineStart : Bool) (cs : List Char) (n : Nat) :
    ∃ ps, Lie n (regionsFrom lineStart cs) ps ∧
      ps.flatMap Piece.tokens = tokens (renderedFrom lineStart cs) := by
  induction hlen : cs.length using Nat.strongRecOn generalizing lineStart cs n with
  | _ len ih =>
  subst hlen
  cases cs with
  | nil => exact ⟨[], by simpa using .nil, by simp [renderedFrom, tokens]⟩
  | cons c cs =>
      have hshorter := Region.first_length lineStart c cs
      have hregions := regionsFrom_cons lineStart c cs
      have hrendered := renderedFrom_cons lineStart c cs
      obtain ⟨t, rest, hfirst⟩ | ⟨t, hfirst⟩ | ⟨t, rest, hfirst⟩ | hfirst :=
        Region.first_cases lineStart c cs
      · rw [hfirst] at hshorter hregions hrendered
        obtain ⟨ps, hlie, htokens⟩ := ih _ hshorter _ rest (n + t.length) rfl
        refine ⟨.literal t n :: ps, ?_, ?_⟩
        · rw [hregions]
          exact .piece (p := .literal t n) (by simpa [Piece.stop, Piece.start] using hlie)
        · rw [hrendered, List.flatMap_cons, htokens]
          exact (tokens_placeholder _).symm
      · rw [hfirst] at hshorter hregions hrendered
        obtain ⟨ps, hlie, htokens⟩ := ih _ hshorter _ (splitLine cs).2 (n + t.length) rfl
        exact ⟨ps, hregions ▸ .skip hlie, hrendered ▸ htokens⟩
      · rw [hfirst] at hshorter hregions hrendered
        obtain ⟨ps, hlie, htokens⟩ := ih _ hshorter _ rest (n + t.length) rfl
        refine ⟨ps, hregions ▸ .skip hlie, ?_⟩
        rw [hrendered, htokens, tokens_append_of_blank isBlank_of_mem_blockComment]
      · by_cases hc : isBlank c = true
        · rw [hfirst] at hshorter hregions hrendered
          obtain ⟨ps, hlie, htokens⟩ := ih _ hshorter _ cs (n + 1) rfl
          refine ⟨ps, hregions ▸ .skip hlie, ?_⟩
          rw [hrendered, htokens]
          exact (tokens_cons_of_blank hc _).symm
        · obtain ⟨t, lineStart', cs', hlt, hregions, htokens⟩ :=
            exists_token hfirst (Bool.not_eq_true _ ▸ hc)
          obtain ⟨ps, hlie, hps⟩ := ih _ hlt lineStart' cs' (n + t.text.length) rfl
          refine ⟨.code t n :: ps, ?_, ?_⟩
          · rw [hregions]
            exact .piece (p := .code t n) (by simpa [Piece.stop, Piece.start] using hlie)
          · rw [htokens, ← hps]
            rfl

/-! ## The tokens of a source -/

/-- A quote is never code. -/
theorem ne_quote_of_code_mem (h : Region.code c ∈ regionsFrom lineStart cs) : c ≠ '"' := by
  fun_induction regionsFrom lineStart cs with
  | case1 => cases h
  | case2 lineStart d cs r ih =>
      rcases List.mem_cons.1 h with h | h
      · rcases Region.first_cases lineStart d cs with
          ⟨t, rest, hfirst⟩ | ⟨t, hfirst⟩ | ⟨t, rest, hfirst⟩ | hfirst
        · simp [r, hfirst] at h
        · simp [r, hfirst] at h
        · simp [r, hfirst] at h
        · obtain rfl : c = d := by simpa [r, hfirst] using h
          rintro rfl
          exact (Region.first_eq_code_iff.1 hfirst).1 (.inl rfl)
      · exact ih h

/-- The tokens of a stripped text, but for the two quotes of each placeholder, are contiguous parts
    of the source, each within one stretch of code, and they follow each other in the source. So no
    token is made of what stands on both sides of a literal or a comment. -/
theorem tokens_lie_in_the_source (source : List Char) :
    ∃ pieces : List Piece,
      pieces.flatMap Piece.tokens = tokens (stripped source) ∧
      (∀ p ∈ pieces, p.IsIn source ∧ (source.drop p.start).take p.text.length = p.text) ∧
      (∀ t start, Piece.code t start ∈ pieces → '"' ∉ t.text) ∧
      pieces.Pairwise fun p q => p.stop ≤ q.start := by
  obtain ⟨pieces, hlie, htokens⟩ := exists_lie true source 0
  have hin : ∀ p ∈ pieces, p.IsIn source := by
    intro p hp
    obtain ⟨before, after, hregions, hstart⟩ := hlie.exists_append p hp
    exact ⟨before, after, hregions, by rw [← hstart, Nat.zero_add]⟩
  refine ⟨pieces, htokens, fun p hp => ⟨hin p hp, (hin p hp).take_drop⟩, ?_, hlie.pairwise⟩
  intro t start hp hquote
  obtain ⟨before, after, hregions, -⟩ := hin _ hp
  have hmem : Region.code '"' ∈ regions source := by
    rw [hregions]
    exact List.mem_append_left _ (List.mem_append_right _ (List.mem_map.2 ⟨'"', hquote, rfl⟩))
  exact ne_quote_of_code_mem hmem rfl

end Playground.Source
