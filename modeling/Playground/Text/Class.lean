import Playground.Text.Ranges

set_option autoImplicit false

/-! # Character classes

Four classes drive everything that looks at source text: blanks separate tokens, digits open
numbers, word characters continue identifiers, and ASCII letters with `_` open them. All but the
last are the full Unicode classes, so that a non-ASCII letter inside an identifier does not split
it. Each is an ASCII test with a table behind it. -/

namespace Playground.Text

/-! ## Blanks -/

/-- White space in the sense of the Unicode property of that name: the ASCII controls from tab to
    carriage return, the space, and twelve entries beyond ASCII. -/
def isBlank (c : Char) : Bool :=
  let n := c.toNat
  (9 ≤ n && n ≤ 13) || n == 32 || n == 0x85 || n == 0xA0 || n == 0x1680 ||
    (0x2000 ≤ n && n ≤ 0x200A) || n == 0x2028 || n == 0x2029 || n == 0x202F || n == 0x205F ||
    n == 0x3000

/-- A space or a tab: the blanks that can stand inside a line of source. -/
def isSpaceOrTab (c : Char) : Bool := c == ' ' || c == '\t'

/-- Blank from end to end; the empty text is. -/
def allBlank (cs : List Char) : Bool := cs.all isBlank

/-- Without the blanks at both ends. -/
def trim (cs : List Char) : List Char :=
  (((cs.dropWhile isBlank).reverse).dropWhile isBlank).reverse

/-! ## Digits, letters and identifiers -/

/-- A decimal digit of any script. -/
def isDigit (c : Char) : Bool :=
  if c.toNat < 0x80 then c.isDigit else inRanges digitRanges c.toNat

/-- A character that can continue an identifier. -/
def isWord (c : Char) : Bool :=
  if c.toNat < 0x80 then c.isAlphanum || c == '_' else inRanges wordRanges c.toNat

/-- A character that can open an identifier: ASCII letters and the underscore only. -/
def isWordStart (c : Char) : Bool := c.isAlpha || c == '_'

theorem toNat_lt_of_isWordStart {c : Char} (h : isWordStart c = true) : c.toNat < 0x80 := by
  have h' : (decide (c.val ≥ 'A'.val ∧ c.val ≤ 'Z'.val) ||
      (c.val ≥ 'a'.val && c.val ≤ 'z'.val) || c == '_') = true := h
  simp only [Bool.or_eq_true, Bool.and_eq_true, decide_eq_true_eq, beq_iff_eq] at h'
  rcases h' with (⟨-, h⟩ | ⟨-, h⟩) | h
  · exact Nat.lt_of_le_of_lt (UInt32.le_iff_toNat_le.1 h) (by decide)
  · exact Nat.lt_of_le_of_lt (UInt32.le_iff_toNat_le.1 h) (by decide)
  · subst h; decide

theorem isWord_of_isWordStart {c : Char} (h : isWordStart c = true) : isWord c = true := by
  have hlt := toNat_lt_of_isWordStart h
  simp only [isWord, if_pos hlt]
  simp only [isWordStart, Bool.or_eq_true] at h
  rcases h with h | h
  · simp [Char.isAlphanum, h]
  · simp [h]

/-! ## ASCII case -/

/-- ASCII capitals in lower case, all else unchanged. -/
def lower (cs : List Char) : List Char := cs.map Char.toLower

end Playground.Text
