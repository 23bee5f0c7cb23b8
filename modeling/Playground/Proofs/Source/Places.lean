import Mathlib.Data.List.Induction
import Playground.Proofs.Source.Comments

set_option autoImplicit false

/-! # Reading by places

The regions of a source are cut off its front one after the other, so that nothing can be read twice
or beyond the end. A reader that keeps the whole text and a place in it has to see to that itself:
it looks at characters by their places, jumps behind what belongs to a literal or a comment, and
takes what is between two places. Looking at a place outside of the text fails here, as does taking
what is between places that are not in order or not in the text (`slice?`), and with it fails the
whole reader.

It never does (`Cursor.step?_eq`): each round goes on to the end of the next region, at least one
character further and never beyond the end of the text, whatever opens there and whether it is
closed or not. So there are no more rounds than characters, and what has been handed on after the
last is the stripped text (`reading_by_places_advances`). -/

namespace Playground.Source

open Playground.Text

/-! ## The reader -/

/-- The characters from one place up to another. -/
def slice? (text : List Char) (start stop : Nat) : Option (List Char) :=
  if start ≤ stop ∧ stop ≤ text.length then some ((text.take stop).drop start) else none

/-- The place behind a literal in single quotes `q`, looked for from a place within it. A backslash
    is passed together with what comes next, be it beyond the end of the text. -/
def behindPlain? (text : List Char) (q : Char) (place : Nat) : Option Nat :=
  if h : place < text.length then do
    let c ← text[place]?
    if c = '\\' then behindPlain? text q (place + 2)
    else if c = '\n' then return place
    else if c = q then return place + 1
    else behindPlain? text q (place + 1)
  else return text.length
termination_by text.length - place

/-- The place behind a literal in three quotes `q`, looked for from a place within it. -/
def behindTriple? (text : List Char) (q : Char) (place : Nat) : Option Nat :=
  if h : place < text.length then do
    let c ← text[place]?
    if c = '\\' then behindTriple? text q (place + 2)
    else if c = q ∧ text[place + 1]? = some q ∧ text[place + 2]? = some q then return place + 3
    else behindTriple? text q (place + 1)
  else return text.length
termination_by text.length - place

/-- The place behind the literal that opens at a place. -/
def behindLiteral? (text : List Char) (start : Nat) : Option Nat := do
  let q ← text[start]?
  if text[start + 1]? = some q ∧ text[start + 2]? = some q then behindTriple? text q (start + 3)
  else behindPlain? text q (start + 1)

/-- The place of the newline that ends the line, or the end of the text. -/
def lineEnd? (text : List Char) (start : Nat) : Option Nat := do
  let rest ← slice? text start text.length
  return match rest.findIdx? (· == '\n') with
    | some offset => start + offset
    | none => text.length

/-- The place behind a star and a slash, looked for from a place within the comment. -/
def behindBlockFrom? (text : List Char) (place : Nat) : Option Nat :=
  if h : place + 1 < text.length then do
    let c ← text[place]?
    let d ← text[place + 1]?
    if c = '*' ∧ d = '/' then return place + 2
    else behindBlockFrom? text (place + 1)
  else return text.length
termination_by text.length - place

/-- The place behind the block comment that opens at a place. -/
def behindBlock? (text : List Char) (start : Nat) : Option Nat := behindBlockFrom? text (start + 2)

/-- Does a directive's name follow from a place on, which may be the end of the text? -/
def directiveAt? (text : List Char) (place : Nat) : Option Bool :=
  (slice? text (min place text.length) text.length).map opensDirective

/-- Where the reader is, whether only blanks have been seen since the line began, and what has been
    handed on. -/
structure Cursor where
  place : Nat
  lineStart : Bool
  out : List Char
  deriving DecidableEq, Repr

namespace Cursor

def start : Cursor := ⟨0, true, []⟩

/-- Hands on the character at this place. -/
def keep (s : Cursor) (c : Char) : Cursor :=
  ⟨s.place + 1, c == '\n' || (s.lineStart && isBlank c), s.out ++ [c]⟩

/-- One round. -/
def step? (text : List Char) (s : Cursor) : Option Cursor := do
  let c ← text[s.place]?
  let next := text[s.place + 1]?
  if c = '"' ∨ c = '\'' then
    let stop ← behindLiteral? text s.place
    return ⟨stop, false, s.out ++ placeholder⟩
  else if c = '/' ∧ next = some '/' then
    let stop ← lineEnd? text s.place
    return { s with place := stop }
  else if c = '/' ∧ next = some '*' then
    let stop ← behindBlock? text s.place
    let comment ← slice? text s.place stop
    if 0 < comment.count '\n' then
      return ⟨stop, true, s.out ++ List.replicate (comment.count '\n') '\n'⟩
    else return ⟨stop, s.lineStart, s.out ++ [' ']⟩
  else if c = '#' then
    let isDirective ← directiveAt? text (s.place + 1)
    if s.lineStart ∧ isDirective then return s.keep c
    else
      let stop ← lineEnd? text s.place
      return { s with place := stop }
  else return s.keep c

end Cursor

/-- What the reader has come to after so many rounds. It goes on as long as its place is in the
    text. -/
inductive ComesTo (text : List Char) : Nat → Cursor → Prop where
  | start : ComesTo text 0 .start
  | next {n : Nat} {s s' : Cursor} (earlier : ComesTo text n s) (inside : s.place < text.length)
      (step : s.step? text = some s') : ComesTo text (n + 1) s'

variable {front cs rest text : List Char} {q c : Char} {n : Nat} {s : Cursor}

/-! ## Looking at places -/

theorem getElem?_front (front : List Char) (c : Char) (cs : List Char) :
    (front ++ c :: cs)[front.length]? = some c := by
  simp

theorem slice?_append (front middle rest : List Char) :
    slice? (front ++ middle ++ rest) front.length (front.length + middle.length) = some middle := by
  have hstop : (front ++ middle ++ rest).take (front.length + middle.length) = front ++ middle :=
    List.take_left' (List.length_append)
  unfold slice?
  rw [if_pos (by simp), hstop, List.drop_left]

theorem slice?_left (front rest : List Char) :
    slice? (front ++ rest) front.length (front ++ rest).length = some rest := by
  have h := slice?_append front rest []
  rwa [List.append_nil, ← List.length_append] at h

/-! ## Jumps -/

theorem behindPlain?_end (q : Char) {place : Nat} (h : text.length ≤ place) :
    behindPlain? text q place = some text.length := by
  rw [behindPlain?, dif_neg (by omega)]
  rfl

theorem behindPlain?_cons (q : Char) (front : List Char) (c : Char) (cs : List Char) :
    behindPlain? (front ++ c :: cs) q front.length =
      if c = '\\' then behindPlain? (front ++ c :: cs) q (front.length + 2)
      else if c = '\n' then some front.length
      else if c = q then some (front.length + 1)
      else behindPlain? (front ++ c :: cs) q (front.length + 1) := by
  rw [behindPlain?, dif_pos (by simp), getElem?_front]
  rfl

theorem behindPlain?_eq (q : Char) (front cs : List Char) :
    behindPlain? (front ++ cs) q front.length =
      some (front.length + (splitPlain q cs).1.length) := by
  induction cs using unit_induction generalizing front with
  | nil => simp [behindPlain?_end, splitPlain]
  | backslash =>
      rw [behindPlain?_cons, if_pos rfl, behindPlain?_end q (by simp)]
      simp [splitPlain]
  | escape d cs ih =>
      have hrest := ih (front ++ ['\\', d])
      rw [behindPlain?_cons, if_pos rfl, splitPlain_escape]
      simpa [Nat.add_assoc, Nat.add_comm 2] using hrest
  | char c cs hc ih =>
      have hrest := ih (front ++ [c])
      rw [behindPlain?_cons, if_neg hc, splitPlain_cons hc]
      split
      · rfl
      · split
        · rfl
        · simpa [Nat.add_assoc, Nat.add_comm 1] using hrest

theorem behindTriple?_end (q : Char) {place : Nat} (h : text.length ≤ place) :
    behindTriple? text q place = some text.length := by
  rw [behindTriple?, dif_neg (by omega)]
  rfl

/-- Two characters in a row are told by their places. -/
theorem twice_behind_iff (front : List Char) (c q : Char) (cs : List Char) :
    (front ++ c :: cs)[front.length + 1]? = some q ∧
        (front ++ c :: cs)[front.length + 2]? = some q ↔
      [q, q] <+: cs := by
  rcases cs with _ | ⟨d, _ | ⟨e, cs⟩⟩ <;>
    simp [List.cons_prefix_cons, eq_comm (a := q)]

theorem behindTriple?_cons (q : Char) (front : List Char) (c : Char) (cs : List Char) :
    behindTriple? (front ++ c :: cs) q front.length =
      if c = '\\' then behindTriple? (front ++ c :: cs) q (front.length + 2)
      else if [q, q, q] <+: c :: cs then some (front.length + 3)
      else behindTriple? (front ++ c :: cs) q (front.length + 1) := by
  rw [behindTriple?, dif_pos (by simp), getElem?_front]
  simp only [twice_behind_iff, List.cons_prefix_cons, eq_comm (a := q)]
  rfl

theorem behindTriple?_eq (q : Char) (front cs : List Char) :
    behindTriple? (front ++ cs) q front.length =
      some (front.length + (splitTriple q cs).1.length) := by
  induction cs using unit_induction generalizing front with
  | nil => simp [behindTriple?_end, splitTriple]
  | backslash =>
      rw [behindTriple?_cons, if_pos rfl, behindTriple?_end q (by simp)]
      simp [splitTriple]
  | escape d cs ih =>
      have hrest := ih (front ++ ['\\', d])
      rw [behindTriple?_cons, if_pos rfl, splitTriple_escape]
      simpa [Nat.add_assoc, Nat.add_comm 2] using hrest
  | char c cs hc ih =>
      have hrest := ih (front ++ [c])
      rw [behindTriple?_cons, if_neg hc, splitTriple_cons hc]
      split
      · rfl
      · simpa [Nat.add_assoc, Nat.add_comm 1] using hrest

theorem behindLiteral?_eq (front : List Char) (q : Char) (cs : List Char) :
    behindLiteral? (front ++ q :: cs) front.length =
      some (front.length + (q :: (splitLiteral q cs).1).length) := by
  have hopens : behindLiteral? (front ++ q :: cs) front.length =
      if [q, q] <+: cs then behindTriple? (front ++ q :: cs) q (front.length + 3)
      else behindPlain? (front ++ q :: cs) q (front.length + 1) := by
    rw [behindLiteral?, getElem?_front]
    simp only [Option.bind_eq_bind, Option.bind_some, twice_behind_iff]
  rw [hopens, splitLiteral]
  by_cases h : [q, q] <+: cs
  · obtain ⟨rest, rfl⟩ := h
    have hrest := behindTriple?_eq q (front ++ [q, q, q]) rest
    simpa [Nat.add_assoc, Nat.add_comm 3] using hrest
  · have hrest := behindPlain?_eq q (front ++ [q]) cs
    rw [if_neg h, if_neg (by rwa [List.isPrefixOf_iff_prefix])]
    simpa [Nat.add_assoc, Nat.add_comm 1] using hrest

theorem length_splitLine (cs : List Char) :
    (splitLine cs).1.length = (cs.findIdx? (· == '\n')).getD cs.length := by
  have hnot : (fun c : Char => !(c != '\n')) = (· == '\n') := by
    funext c
    simp [bne]
  rw [splitLine, List.takeWhile_eq_take_findIdx_not, hnot,
    List.length_take_of_le List.findIdx_le_length, List.findIdx_eq_getD_findIdx?]

theorem lineEnd?_eq (front cs : List Char) :
    lineEnd? (front ++ cs) front.length = some (front.length + (splitLine cs).1.length) := by
  rw [lineEnd?, slice?_left, length_splitLine]
  simp only [Option.bind_eq_bind, Option.bind_some]
  cases cs.findIdx? (· == '\n') with
  | none => exact congrArg some List.length_append
  | some offset => rfl

theorem lineEnd?_cons (hc : c ≠ '\n') (front cs : List Char) :
    lineEnd? (front ++ c :: cs) front.length =
      some (front.length + (c :: (splitLine cs).1).length) := by
  have hcons : (splitLine (c :: cs)).1 = c :: (splitLine cs).1 := by
    simp [splitLine, hc]
  rw [lineEnd?_eq, hcons]

theorem behindBlockFrom?_end {place : Nat} (h : text.length ≤ place + 1) :
    behindBlockFrom? text place = some text.length := by
  rw [behindBlockFrom?, dif_neg (by omega)]
  rfl

theorem behindBlockFrom?_cons (front : List Char) (c : Char) (cs : List Char) :
    behindBlockFrom? (front ++ c :: cs) front.length =
      if ['*', '/'] <+: c :: cs then some (front.length + 2)
      else behindBlockFrom? (front ++ c :: cs) (front.length + 1) := by
  cases cs with
  | nil =>
      -- There is no room left for both characters.
      rw [if_neg (by simp [List.cons_prefix_cons]), behindBlockFrom?_end (by simp),
        behindBlockFrom?_end (by simp)]
  | cons d cs =>
      have hnext : (front ++ c :: d :: cs)[front.length + 1]? = some d := by simp
      have hopens : ['*', '/'] <+: c :: d :: cs ↔ c = '*' ∧ d = '/' := by
        simp [List.cons_prefix_cons, eq_comm (a := '*'), eq_comm (a := '/')]
      rw [behindBlockFrom?, dif_pos (by simp), getElem?_front, hnext]
      simp only [Option.bind_eq_bind, Option.bind_some, hopens]
      rfl

theorem behindBlockFrom?_eq (front cs : List Char) :
    behindBlockFrom? (front ++ cs) front.length =
      some (front.length + (splitBlock cs).1.length) := by
  induction cs generalizing front with
  | nil =>
      rw [behindBlockFrom?_end (by simp)]
      simp [splitBlock]
  | cons c cs ih =>
      have hrest := ih (front ++ [c])
      rw [behindBlockFrom?_cons, splitBlock]
      by_cases h : ['*', '/'] <+: c :: cs
      · rw [if_pos h, if_pos (List.isPrefixOf_iff_prefix.2 h)]
        rfl
      · rw [if_neg h, if_neg (by rwa [List.isPrefixOf_iff_prefix])]
        simpa [Nat.add_assoc, Nat.add_comm 1] using hrest

theorem behindBlock?_eq (front cs : List Char) :
    behindBlock? (front ++ '/' :: '*' :: cs) front.length =
      some (front.length + ('/' :: '*' :: (splitBlock cs).1).length) := by
  have hrest := behindBlockFrom?_eq (front ++ ['/', '*']) cs
  rw [behindBlock?]
  simpa [Nat.add_assoc, Nat.add_comm 2] using hrest

theorem directiveAt?_eq (front cs : List Char) (c : Char) :
    directiveAt? (front ++ c :: cs) (front.length + 1) = some (opensDirective cs) := by
  have hslice := slice?_left (front ++ [c]) cs
  rw [directiveAt?, Nat.min_eq_left (by simp)]
  simpa using congrArg (Option.map opensDirective) hslice

/-! ## Rounds -/

/-- What the reader has come to when these regions are read. -/
def Cursor.behind (rs : List Region) : Cursor :=
  ⟨(rs.flatMap Region.text).length, lineStartAfter true rs, rs.flatMap Region.rendered⟩

/-- The reader behind one more region. -/
def Cursor.pass (s : Cursor) (r : Region) : Cursor :=
  ⟨s.place + r.text.length, r.lineStart s.lineStart, s.out ++ r.rendered⟩

/-- A block comment hands on its newlines, and the next character is the first of its line if there
    are any. -/
theorem Cursor.pass_blockComment (s : Cursor) (t : List Char) :
    s.pass (.blockComment t) =
      if 0 < t.count '\n' then
        ⟨s.place + t.length, true, s.out ++ List.replicate (t.count '\n') '\n'⟩
      else ⟨s.place + t.length, s.lineStart, s.out ++ [' ']⟩ := by
  by_cases h : '\n' ∈ t
  · simp [pass, Region.text, Region.lineStart, Region.rendered, h, List.count_pos_iff]
  · simp [pass, Region.text, Region.lineStart, Region.rendered, h, List.count_pos_iff]

/-- One round reads the region that opens here. -/
theorem Cursor.step?_eq (h : s.place = front.length) (c : Char) (cs : List Char) :
    s.step? (front ++ c :: cs) = some (s.pass (Region.first s.lineStart c cs).1) := by
  obtain ⟨place, lineStart, out⟩ := s
  obtain rfl : place = front.length := h
  have hnext : (front ++ c :: cs)[front.length + 1]? = cs.head? := by
    cases cs <;> simp
  rw [Cursor.step?, getElem?_front]
  simp only [Option.bind_eq_bind, Option.bind_some, hnext]
  unfold Region.first
  by_cases hquote : c = '"' ∨ c = '\''
  · rw [if_pos hquote, if_pos hquote, behindLiteral?_eq]
    rfl
  rw [if_neg hquote, if_neg hquote]
  by_cases hslashes : c = '/' ∧ cs.head? = some '/'
  · rw [if_pos hslashes, if_pos hslashes, lineEnd?_cons (by simp [hslashes.1])]
    simp [pass, Region.text, Region.lineStart, Region.rendered]
  rw [if_neg hslashes, if_neg hslashes]
  by_cases hblock : c = '/' ∧ cs.head? = some '*'
  · rw [if_pos hblock, if_pos hblock]
    obtain ⟨rfl, hstar⟩ := hblock
    obtain ⟨rest, rfl⟩ : ∃ rest, cs = '*' :: rest := by
      cases cs with
      | nil => cases hstar
      | cons d rest => exact ⟨rest, by rw [Option.some.inj hstar]⟩
    have hslice := slice?_append front ('/' :: '*' :: (splitBlock rest).1) (splitBlock rest).2
    rw [List.append_assoc, List.cons_append, List.cons_append, splitBlock_append] at hslice
    rw [behindBlock?_eq, Option.bind_some, hslice, List.drop_one, List.tail_cons,
      pass_blockComment]
    rw [Option.bind_some]
    split <;> rfl
  rw [if_neg hblock, if_neg hblock]
  by_cases hhash : c = '#'
  · rw [if_pos hhash, directiveAt?_eq, lineEnd?_cons (by simp [hhash]), Option.bind_some]
    by_cases hdirective : lineStart = true ∧ opensDirective cs = true
    · rw [if_pos hdirective, if_neg (by simp [hdirective])]
      rfl
    · rw [if_neg hdirective, if_pos ⟨hhash, hdirective⟩]
      simp [pass, Region.text, Region.lineStart, Region.rendered]
  · rw [if_neg hhash, if_neg (by simp [hhash])]
    rfl

/-! ## A whole run -/

namespace Cursor

variable {r : Region} {before after : List Region}

theorem behind_concat (rs : List Region) (r : Region) :
    behind (rs ++ [r]) = (behind rs).pass r := by
  simp [behind, pass, lineStartAfter]

theorem place_add (h : regions text = before ++ after) :
    (behind before).place + (after.flatMap Region.text).length = text.length := by
  rw [← flatMap_text_regionsFrom true text, ← regions, h, List.flatMap_append, List.length_append]
  rfl

theorem place_lt (h : regions text = before ++ r :: after) :
    (behind before).place < (behind (before ++ [r])).place ∧
      (behind (before ++ [r])).place ≤ text.length := by
  have hr : r ∈ regionsFrom true text := by
    rw [← regions, h]
    simp
  have hpos := List.length_pos_iff.2 (Region.text_ne_nil hr)
  have hall := place_add h
  rw [List.flatMap_cons, List.length_append] at hall
  rw [behind_concat]
  show (behind before).place < (behind before).place + r.text.length ∧
    (behind before).place + r.text.length ≤ text.length
  omega

theorem length_le_place (h : regions text = before ++ after) :
    before.length ≤ (behind before).place := by
  induction before using List.reverseRecOn generalizing after with
  | nil => exact Nat.zero_le _
  | append_singleton before r ih =>
      rw [List.append_assoc, List.singleton_append] at h
      have hlt := (place_lt h).1
      have hle := ih h
      rw [List.length_append, List.length_singleton]
      omega

/-- Where a region begins, the next round passes it. -/
theorem step?_behind (h : regions text = before ++ r :: after) :
    (behind before).step? text = some (behind (before ++ [r])) := by
  obtain ⟨w, rfl⟩ : ∃ w, text = before.flatMap Region.text ++ w := by
    refine ⟨(r :: after).flatMap Region.text, ?_⟩
    rw [← List.flatMap_append, ← h]
    exact (flatMap_text_regionsFrom true text).symm
  have hafter := regionsFrom_after h rfl
  cases w with
  | nil => simp at hafter
  | cons c cs =>
      rw [regionsFrom_cons] at hafter
      obtain ⟨rfl, -⟩ := List.cons.inj hafter
      rw [step?_eq rfl, behind_concat]
      rfl

end Cursor

/-- Each round passes one region more, so after `n` rounds the first `n` regions are passed. -/
theorem comesTo_iff : ComesTo text n s ↔
    ∃ before after, regions text = before ++ after ∧ before.length = n ∧ s = .behind before := by
  constructor
  · intro h
    induction h with
    | start => exact ⟨[], regions text, rfl, rfl, rfl⟩
    | next earlier inside step ih =>
        obtain ⟨before, after, hregions, rfl, rfl⟩ := ih
        cases after with
        | nil =>
            have hall := Cursor.place_add hregions
            rw [List.flatMap_nil, List.length_nil] at hall
            omega
        | cons r after =>
            rw [Cursor.step?_behind hregions] at step
            exact ⟨before ++ [r], after, by simp [hregions], by simp, (Option.some.inj step).symm⟩
  · rintro ⟨before, after, hregions, rfl, rfl⟩
    induction before using List.reverseRecOn generalizing after with
    | nil => exact .start
    | append_singleton before r ih =>
        rw [List.append_assoc, List.singleton_append] at hregions
        have hlt := Cursor.place_lt hregions
        rw [List.length_append]
        exact .next (ih _ hregions) (by omega) (Cursor.step?_behind hregions)

/-- What it means that a text is read by places without going astray. -/
structure ReadsInRange (text : List Char) : Prop where
  /-- The places that are come to are those between the regions of the text. -/
  comesTo_iff : ∀ n s, ComesTo text n s ↔
    ∃ before after, regions text = before ++ after ∧ before.length = n ∧ s = .behind before
  /-- From each of them a round goes on, and not beyond the end of the text. Nothing that is looked
      at or taken is outside of the text, or there would be no next place. -/
  advances : ∀ n s, ComesTo text n s → n ≤ s.place ∧ s.place ≤ text.length ∧
    (s.place < text.length →
      ∃ s', s.step? text = some s' ∧ s.place < s'.place ∧ s'.place ≤ text.length)
  /-- So does each jump, closed or not what opens there. -/
  literal : ∀ start, start < text.length →
    ∃ stop, behindLiteral? text start = some stop ∧ start < stop ∧ stop ≤ text.length
  line : ∀ start c, text[start]? = some c → c ≠ '\n' →
    ∃ stop, lineEnd? text start = some stop ∧ start < stop ∧ stop ≤ text.length
  block : ∀ start, text[start]? = some '/' → text[start + 1]? = some '*' →
    ∃ stop, behindBlock? text start = some stop ∧ start < stop ∧ stop ≤ text.length
  /-- After at most as many rounds as there are characters the text has been read to its end. -/
  ends : ∃ n s, n ≤ text.length ∧ ComesTo text n s ∧ s.place = text.length ∧ s.out = stripped text

theorem exists_front {start : Nat} (h : text[start]? = some c) :
    ∃ front cs, text = front ++ c :: cs ∧ front.length = start := by
  obtain ⟨hlt, rfl⟩ := List.getElem?_eq_some_iff.1 h
  exact ⟨text.take start, text.drop (start + 1), by simp, List.length_take_of_le (by omega)⟩

/-- A jump behind a part of what stands here goes on, and not beyond the end. -/
theorem exists_stop {jump : Option Nat} {body : List Char}
    (h : jump = some (front.length + (c :: body).length)) (hcut : body ++ rest = cs) :
    ∃ stop, jump = some stop ∧ front.length < stop ∧ stop ≤ (front ++ c :: cs).length := by
  refine ⟨_, h, ?_, ?_⟩
  · rw [List.length_cons]
    omega
  · simp only [← hcut, List.length_append, List.length_cons]
    omega

/-- Whatever the text, a reader by places always goes on and never beyond the end, so it ends, and
    with it the stripped text has been handed on. -/
theorem reading_by_places_advances (text : List Char) : ReadsInRange text := by
  refine ⟨fun n s => comesTo_iff, fun n s h => ?_, fun start h => ?_, fun start c h hc => ?_,
    fun start h hstar => ?_, ?_⟩
  · obtain ⟨before, after, hregions, rfl, rfl⟩ := comesTo_iff.1 h
    have hall := Cursor.place_add hregions
    refine ⟨Cursor.length_le_place hregions, by omega, fun hlt => ?_⟩
    cases after with
    | nil =>
        rw [List.flatMap_nil, List.length_nil] at hall
        omega
    | cons r after => exact ⟨_, Cursor.step?_behind hregions, Cursor.place_lt hregions⟩
  · obtain ⟨q, hq⟩ : ∃ q, text[start]? = some q := ⟨_, List.getElem?_eq_getElem h⟩
    obtain ⟨front, cs, rfl, rfl⟩ := exists_front hq
    exact exists_stop (behindLiteral?_eq front q cs) (splitLiteral_append q cs)
  · obtain ⟨front, cs, rfl, rfl⟩ := exists_front h
    exact exists_stop (lineEnd?_cons hc front cs) (splitLine_append cs)
  · obtain ⟨front, cs, rfl, rfl⟩ := exists_front h
    obtain ⟨cs, rfl⟩ : ∃ rest, cs = '*' :: rest := by
      cases cs with
      | nil => simp at hstar
      | cons d cs => exact ⟨cs, by simpa using hstar⟩
    exact exists_stop (behindBlock?_eq front cs) (congrArg ('*' :: ·) (splitBlock_append cs))
  · have hregions : regions text = regions text ++ [] := (List.append_nil _).symm
    have hall := Cursor.place_add hregions
    rw [List.flatMap_nil, List.length_nil, Nat.add_zero] at hall
    refine ⟨_, _, ?_, comesTo_iff.2 ⟨_, _, hregions, rfl, rfl⟩, hall, rfl⟩
    exact hall ▸ Cursor.length_le_place hregions

-- The place that a last backslash leads to is beyond the end, but the literal ends at the end.
example : behindLiteral? ['"', '\\'] 0 = some 2 := by cbv

-- The slash that opens a comment does not close it.
example : behindBlock? ['/', '*', '/'] 0 = some 3 := by cbv

end Playground.Source
