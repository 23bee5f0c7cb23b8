import Playground.Text.Utf8

set_option autoImplicit false

/-! # Texts come back from their octets

A text is written with one to four octets for each character. Read again, each first octet says how
many are owed and between which bounds the next one lies, and these bounds admit what was written
(`foldl_step_encodeChar`); so nothing of a text is lost (`decode_encode`). -/

namespace Playground.Text.Utf8

variable {n b : Nat} {p : Pending} {symbols : List Symbol}

/-! ## First octets -/

theorem toNat_ofNat_of_lt (h : n < 256) : (UInt8.ofNat n).toNat = n := by
  rw [UInt8.toNat_ofNat', Nat.mod_eq_of_lt (by omega)]

theorem lead_one (h : n < 0x80) : lead (UInt8.ofNat n) = .whole (Char.ofNat n) := by
  simp only [lead, toNat_ofNat_of_lt (show n < 256 by omega)]
  rw [if_pos h]

theorem lead_two (h : 0xC2 ≤ n) (h' : n < 0xE0) :
    lead (UInt8.ofNat n) = .begins ⟨1, 0x80, 0xBF, n - 0xC0⟩ := by
  simp only [lead, toNat_ofNat_of_lt (show n < 256 by omega)]
  rw [if_neg (by omega), if_neg (by omega), if_pos h']

/-- The bounds exclude overlong forms and surrogates, and nothing else. -/
theorem lead_three (h : 0x800 ≤ n) (h' : n ≤ 0xFFFF) (hn : n.isValidChar) :
    ∃ low high, lead (UInt8.ofNat (n / 4096 % 16 + 0xE0)) = .begins ⟨2, low, high, n / 4096⟩ ∧
      low ≤ n / 64 % 64 + 0x80 ∧ n / 64 % 64 + 0x80 ≤ high := by
  simp only [lead, toNat_ofNat_of_lt (show n / 4096 % 16 + 0xE0 < 256 by omega)]
  rw [if_neg (by omega), if_neg (by omega), if_neg (by omega)]
  have hbits : n / 4096 % 16 + 0xE0 - 0xE0 = n / 4096 := by omega
  rcases hn with hn | hn
  · split
    · exact ⟨_, _, by rw [hbits], by omega, by omega⟩
    · split
      · exact ⟨_, _, by rw [hbits], by omega, by omega⟩
      · rw [if_pos (by omega)]
        exact ⟨_, _, by rw [hbits], by omega, by omega⟩
  · rw [if_neg (by omega), if_neg (by omega), if_pos (by omega)]
    exact ⟨_, _, by rw [hbits], by omega, by omega⟩

/-- The bounds exclude overlong forms and what is beyond the last character. -/
theorem lead_four (h : 0x10000 ≤ n) (hn : n < 0x110000) :
    ∃ low high, lead (UInt8.ofNat (n / 262144 % 8 + 0xF0)) = .begins ⟨3, low, high, n / 262144⟩ ∧
      low ≤ n / 4096 % 64 + 0x80 ∧ n / 4096 % 64 + 0x80 ≤ high := by
  simp only [lead, toNat_ofNat_of_lt (show n / 262144 % 8 + 0xF0 < 256 by omega)]
  rw [if_neg (by omega), if_neg (by omega), if_neg (by omega), if_neg (by omega),
    if_neg (by omega), if_neg (by omega)]
  have hbits : n / 262144 % 8 + 0xF0 - 0xF0 = n / 262144 := by omega
  split
  · exact ⟨_, _, by rw [hbits], by omega, by omega⟩
  · split
    · exact ⟨_, _, by rw [hbits], by omega, by omega⟩
    · rw [if_pos (by omega)]
      exact ⟨_, _, by rw [hbits], by omega, by omega⟩

/-! ## The octets after it -/

namespace Decoder

theorem step_first {lead' : Pending} (h : lead (UInt8.ofNat b) = .begins lead') :
    step ⟨none, symbols⟩ (UInt8.ofNat b) = ⟨some lead', symbols⟩ := by
  simp only [step, takeLead, h]

theorem step_between (hlow : p.low ≤ b) (hhigh : b ≤ p.high) (hb : b < 256) (howed : 1 < p.owed) :
    step ⟨some p, symbols⟩ (UInt8.ofNat b) =
      ⟨some ⟨p.owed - 1, 0x80, 0xBF, p.bits * 64 + b % 64⟩, symbols⟩ := by
  simp only [step, toNat_ofNat_of_lt hb]
  rw [if_pos ⟨hlow, hhigh⟩, if_neg (by omega)]

theorem step_last (hlow : p.low ≤ b) (hhigh : b ≤ p.high) (hb : b < 256) (howed : p.owed ≤ 1) :
    step ⟨some p, symbols⟩ (UInt8.ofNat b) =
      ⟨none, some (Char.ofNat (p.bits * 64 + b % 64)) :: symbols⟩ := by
  simp only [step, toNat_ofNat_of_lt hb]
  rw [if_pos ⟨hlow, hhigh⟩, if_pos howed]

/-- The octets of a character are read as that character. -/
theorem foldl_step_encodeChar (c : Char) (symbols : List Symbol) :
    (String.utf8EncodeChar c).foldl step ⟨none, symbols⟩ = ⟨none, some c :: symbols⟩ := by
  have hvalid : c.val.toNat.isValidChar := c.valid
  have hlt : c.val.toNat < 0x110000 := by rcases hvalid with h | h <;> omega
  have hchar {bits : Nat} (h : bits = c.val.toNat) : Char.ofNat bits = c :=
    (congrArg Char.ofNat h).trans (Char.ofNat_toNat c)
  rw [String.utf8EncodeChar.eq_1]
  generalize c.val.toNat = n at *
  -- the number of octets is decided by the size of the number
  split
  · next h1 =>
      simp only [List.foldl_cons, List.foldl_nil, step, takeLead, lead_one (show n < 0x80 by omega)]
      rw [hchar rfl]
  · split
    · next h2 =>
        simp only [List.foldl_cons, List.foldl_nil]
        rw [step_first (lead_two (by omega) (by omega)),
          step_last (by dsimp only; omega) (by dsimp only; omega) (by omega) (by dsimp only; omega)]
        rw [hchar (by dsimp only; omega)]
    · split
      · next h3 =>
          obtain ⟨low, high, hlead, hlow, hhigh⟩ := lead_three (by omega) h3 hvalid
          simp only [List.foldl_cons, List.foldl_nil]
          rw [step_first hlead, step_between hlow hhigh (by omega) (by dsimp only; omega),
            step_last (by dsimp only; omega) (by dsimp only; omega) (by omega)
              (by dsimp only; omega)]
          rw [hchar (by dsimp only; omega)]
      · next h4 =>
          obtain ⟨low, high, hlead, hlow, hhigh⟩ := lead_four (by omega) hlt
          simp only [List.foldl_cons, List.foldl_nil]
          rw [step_first hlead, step_between hlow hhigh (by omega) (by dsimp only; omega),
            step_between (by dsimp only; omega) (by dsimp only; omega) (by omega)
              (by dsimp only; omega),
            step_last (by dsimp only; omega) (by dsimp only; omega) (by omega)
              (by dsimp only; omega)]
          rw [hchar (by dsimp only; omega)]

theorem foldl_step_encode (cs : List Char) (symbols : List Symbol) :
    (encode cs).foldl step ⟨none, symbols⟩ = ⟨none, (cs.map some).reverse ++ symbols⟩ := by
  induction cs generalizing symbols with
  | nil => rfl
  | cons c cs ih =>
      rw [encode, List.flatMap_cons, List.foldl_append, foldl_step_encodeChar]
      exact (ih _).trans (by simp)

end Decoder

theorem decode_encode (cs : List Char) : decode (encode cs) = cs.map some := by
  rw [decode, Decoder.start, Decoder.foldl_step_encode]
  simp [Decoder.finish]

end Playground.Text.Utf8
