import Mathlib.Data.List.Basic
import Playground.Toml.Scalar
import Playground.Toml.Write

set_option autoImplicit false

/-! # Numbers and texts are read as they were written

A number is written in decimal, a text in one of four forms: as it is or with escapes, on one line
or on several. Read, each is what it was, whatever it holds (`takeScalar_number`,
`takeScalar_text`). A value is followed by a newline, and that is all that matters of what comes
after it: the digits of a number end there, and no quote follows those of a text. -/

namespace Playground.Toml

variable {c : Char} {cs ds acc rest : List Char} {n : Nat}

/-! ## Numbers -/

theorem exists_digit (hne : ds ≠ []) (h : ∀ c ∈ ds, c.isDigit = true) :
    ∃ d tail, ds = d :: tail ∧ d.isDigit = true := by
  cases ds with
  | nil => exact absurd rfl hne
  | cons d tail => exact ⟨d, tail, rfl, h d List.mem_cons_self⟩

/-- A digit is none of the characters that other values begin with. -/
theorem ne_of_isDigit (h : c.isDigit = true) {d : Char} (hd : d.isDigit = false) : c ≠ d := by
  rintro rfl
  rw [h] at hd
  cases hd

theorem isDigit_toDigits : ∀ c ∈ Nat.toDigits 10 n, c.isDigit = true :=
  fun _ hc => Nat.isDigit_of_mem_toDigits (by decide) (by decide) hc

/-- A zero stands at the beginning of no number but zero. -/
theorem toDigits_of_zero (h : (Nat.toDigits 10 n).head? = some '0') :
    Nat.toDigits 10 n = ['0'] := by
  have hdigit : ∀ d < 10, d.digitChar = '0' → d = 0 := by decide
  suffices hn : n = 0 by
    subst hn
    exact Nat.toDigits_zero 10
  induction n using Nat.strongRecOn with
  | _ n ih =>
      rw [Nat.toDigits_eq_if (by decide)] at h
      split at h
      · next hlt => exact hdigit n hlt (Option.some.inj h)
      · next hle =>
          rw [List.head?_append_of_ne_nil _ Nat.toDigits_ne_nil] at h
          have hzero := ih (n / 10) (by omega) h
          omega

theorem ofDigits_toDigits (n : Nat) : ofDigits 10 (Nat.toDigits 10 n) = n := by
  have hvalue : ∀ ds : List Char, (∀ c ∈ ds, c.isDigit = true) → ∀ m,
      ds.foldl (fun n d => n * 10 + digitValue d) m = Nat.ofDigitChars 10 ds m := by
    intro ds
    induction ds with
    | nil => exact fun _ _ => rfl
    | cons d ds ih =>
        intro h m
        have hd : digitValue d = d.toNat - '0'.toNat := if_pos (h d List.mem_cons_self)
        rw [List.foldl_cons, ih (fun c hc => h c (List.mem_cons_of_mem _ hc)), hd, Nat.mul_comm m 10]
        rfl
  rw [ofDigits, hvalue _ isDigit_toDigits, Nat.ofDigitChars_ten_toDigits]

/-- No word with some other character stands where digits and a newline do. -/
theorem after?_of_digits {word : String} (hword : word.toList.all Char.isDigit = false)
    (hnewline : '\n' ∉ word.toList) (h : ∀ c ∈ ds, c.isDigit = true) :
    after? word (ds ++ '\n' :: rest) = none := by
  refine if_neg fun hprefix => ?_
  rw [List.isPrefixOf_iff_prefix] at hprefix
  obtain ⟨left, hleft⟩ | ⟨left, hleft⟩ :=
    List.prefix_or_prefix_of_prefix hprefix (List.prefix_append ds ('\n' :: rest))
  · rw [← Bool.not_eq_true, List.all_eq_true] at hword
    exact hword fun c hc => h c (hleft ▸ List.mem_append_left _ hc)
  · rw [← hleft, List.prefix_append_right_inj] at hprefix
    cases left with
    | nil =>
        rw [← Bool.not_eq_true, List.all_eq_true] at hword
        exact hword fun c hc => h c (by rwa [← hleft, List.append_nil] at hc)
    | cons d left =>
        obtain ⟨rfl, -⟩ := List.cons_prefix_cons.1 hprefix
        exact hnewline (hleft ▸ List.mem_append_right _ List.mem_cons_self)

theorem takeDigits_digits (hne : ds ≠ []) (h : ∀ c ∈ ds, c.isDigit = true) :
    takeDigits Char.isDigit (ds ++ '\n' :: rest) = some (ds, '\n' :: rest) := by
  have hunderscore : ∀ c ∈ ds, (c != '_') = true := fun c hc =>
    bne_iff_ne.2 (ne_of_isDigit (h c hc) (by decide))
  have hrun : (ds ++ '\n' :: rest).takeWhile (fun c => c.isDigit || c == '_') = ds := by
    rw [List.takeWhile_append_of_pos fun c hc => by simp [h c hc]]
    simp
  have hhead : ds.head?.any Char.isDigit = true := by
    rw [List.head?_eq_some_head hne]
    exact h _ (List.head_mem hne)
  have hlast : ds.getLast?.any Char.isDigit = true := by
    rw [List.getLast?_eq_some_getLast hne]
    exact h _ (List.getLast_mem hne)
  have hpairs : (ds.zip (ds.drop 1)).all (fun p => !(p.1 == '_' && p.2 == '_')) = true := by
    refine List.all_eq_true.2 fun p hp => ?_
    have hp := bne_iff_ne.1 (hunderscore p.1 (List.of_mem_zip hp).1)
    simp [hp]
  unfold takeDigits
  simp only [hrun, hhead, hlast, hpairs, Bool.and_self, if_true, List.drop_left,
    List.filter_eq_self.2 hunderscore]

theorem takeSign_digits (hne : ds ≠ []) (h : ∀ c ∈ ds, c.isDigit = true) :
    takeSign (ds ++ rest) = (false, ds ++ rest) := by
  obtain ⟨d, tail, rfl, hd⟩ := exists_digit hne h
  have hminus := ne_of_isDigit hd (d := '-') (by decide)
  have hplus := ne_of_isDigit hd (d := '+') (by decide)
  simp [takeSign, hminus, hplus]

theorem takeWhole_number (n : Nat) (rest : List Char) :
    takeWhole (Nat.toDigits 10 n ++ '\n' :: rest) =
      some ((false, Nat.toDigits 10 n), '\n' :: rest) := by
  unfold takeWhole
  rw [takeSign_digits Nat.toDigits_ne_nil isDigit_toDigits]
  dsimp only
  split
  · next tail htail =>
      have hzero : (Nat.toDigits 10 n).head? = some '0' := by
        rw [← List.head?_append_of_ne_nil _ Nat.toDigits_ne_nil, htail]
        rfl
      rw [toDigits_of_zero hzero] at htail ⊢
      rw [← (List.cons.inj htail).2]
      rfl
  · rw [takeDigits_digits Nat.toDigits_ne_nil isDigit_toDigits]
    rfl

theorem takeInteger_number (h : n < 1 <<< 63) :
    takeInteger (Nat.toDigits 10 n ++ '\n' :: rest) = some (.integer n, '\n' :: rest) := by
  have hnone (word : String) (hword : word.toList.all Char.isDigit = false)
      (hnewline : '\n' ∉ word.toList) :
      after? word (Nat.toDigits 10 n ++ '\n' :: rest) = none :=
    after?_of_digits hword hnewline isDigit_toDigits
  have hrange : inRange (n : Int) = true := by
    unfold inRange
    generalize (1 <<< 63 : Nat) = bound at h ⊢
    simp only [Bool.and_eq_true, decide_eq_true_eq]
    omega
  unfold takeInteger
  rw [hnone "0x" (by decide) (by decide), hnone "0o" (by decide) (by decide),
    hnone "0b" (by decide) (by decide)]
  dsimp only
  rw [takeWhole_number, Option.bind_some]
  dsimp only
  rw [ofDigits_toDigits]
  exact if_pos hrange

/-- There is no point after a number that is written, and no exponent. -/
theorem takeFloat_number (n : Nat) (rest : List Char) :
    takeFloat (Nat.toDigits 10 n ++ '\n' :: rest) = none := by
  have hdecimal : takeDecimal (Nat.toDigits 10 n ++ '\n' :: rest) = none := by
    unfold takeDecimal
    rw [takeWhole_number]
    rfl
  have hspecial : takeSpecial (Nat.toDigits 10 n ++ '\n' :: rest) = none := by
    unfold takeSpecial
    rw [takeSign_digits Nat.toDigits_ne_nil isDigit_toDigits]
    dsimp only
    have hinf : after? "inf" (Nat.toDigits 10 n ++ '\n' :: rest) = none :=
      after?_of_digits (by decide) (by decide) isDigit_toDigits
    have hnan : after? "nan" (Nat.toDigits 10 n ++ '\n' :: rest) = none :=
      after?_of_digits (by decide) (by decide) isDigit_toDigits
    rw [hinf, hnan]
    rfl
  rw [takeFloat, hdecimal, hspecial, Option.or_none]

/-- After some of the digits come the others. -/
theorem digits_after_takeFixed {digits low high : Nat} {left : List Char}
    (h : ∀ c ∈ ds, c.isDigit = true)
    (hfixed : takeFixed digits low high (ds ++ '\n' :: rest) = some (n, left)) :
    ∃ ds', (∀ c ∈ ds', c.isDigit = true) ∧ left = ds' ++ '\n' :: rest := by
  unfold takeFixed at hfixed
  dsimp only at hfixed
  split at hfixed
  · next hall =>
      obtain ⟨hlength, hall⟩ := hall
      have hle : digits ≤ ds.length := by
        refine Nat.le_of_not_lt fun hlt => ?_
        -- The newline would be one of the digits.
        obtain ⟨k, hk⟩ : ∃ k, digits - ds.length = k + 1 := ⟨digits - ds.length - 1, by omega⟩
        rw [List.take_append, hk, List.take_succ_cons, List.all_append, List.all_cons] at hall
        simp at hall
      split at hfixed
      · obtain ⟨-, rfl⟩ := Prod.mk.inj (Option.some.inj hfixed)
        rw [List.drop_append_of_le_length hle]
        exact ⟨ds.drop digits, fun c hc => h c (List.mem_of_mem_drop hc), rfl⟩
      · cases hfixed
  · cases hfixed

theorem takeDatetime_number (n : Nat) (rest : List Char) :
    takeDatetime (Nat.toDigits 10 n ++ '\n' :: rest) = none := by
  have hdate : takeDate (Nat.toDigits 10 n ++ '\n' :: rest) = none := by
    unfold takeDate
    cases hyear : takeFixed 4 0 9999 (Nat.toDigits 10 n ++ '\n' :: rest) with
    | none => rfl
    | some year =>
        obtain ⟨year, left⟩ := year
        obtain ⟨ds, hds, rfl⟩ := digits_after_takeFixed isDigit_toDigits hyear
        rw [Option.bind_eq_bind, Option.bind_some]
        dsimp only
        rw [after?_of_digits (by decide) (by decide) hds]
        rfl
  have htime : takeTime (Nat.toDigits 10 n ++ '\n' :: rest) = none := by
    unfold takeTime
    cases hhour : takeFixed 2 0 23 (Nat.toDigits 10 n ++ '\n' :: rest) with
    | none => rfl
    | some hour =>
        obtain ⟨hour, left⟩ := hour
        obtain ⟨ds, hds, rfl⟩ := digits_after_takeFixed isDigit_toDigits hhour
        rw [Option.bind_eq_bind, Option.bind_some]
        dsimp only
        rw [after?_of_digits (by decide) (by decide) hds]
        rfl
  rw [takeDatetime, hdate]
  dsimp only
  rw [htime]
  rfl

theorem takeScalar_number (h : n < 1 <<< 63) :
    takeScalar (Nat.toDigits 10 n ++ '\n' :: rest) = some (.integer n, '\n' :: rest) := by
  have hor : (takeDatetime (Nat.toDigits 10 n ++ '\n' :: rest)).or
      ((takeFloat (Nat.toDigits 10 n ++ '\n' :: rest)).or
        (takeInteger (Nat.toDigits 10 n ++ '\n' :: rest))) = some (.integer n, '\n' :: rest) := by
    rw [takeDatetime_number, takeFloat_number, takeInteger_number h]
    rfl
  obtain ⟨d, tail, hds, hd⟩ := exists_digit Nat.toDigits_ne_nil (isDigit_toDigits (n := n))
  have hquote := ne_of_isDigit hd (d := '"') (by decide)
  have hapostrophe := ne_of_isDigit hd (d := '\'') (by decide)
  have htrue := ne_of_isDigit hd (d := 't') (by decide)
  have hfalse := ne_of_isDigit hd (d := 'f') (by decide)
  rw [hds] at hor ⊢
  simpa only [takeScalar, List.cons_append, hquote, hapostrophe, htrue, hfalse, or_self,
    if_false] using hor

/-! ## Escapes -/

/-- A letter that may stand after a backslash is none of the characters of a line ending. -/
def IsEscape (c letter : Char) (more : List Char) : Prop :=
  letter ∉ [' ', '\t', '\n', '\r'] ∧
    ∀ rest, takeEscape (letter :: (more ++ rest)) = some (c, rest)

/-- The four digits of each character that has no letter are read as its number. -/
theorem codeOf_spec : ∀ n < 0x80, let code := codeOf (Char.ofNat n)
    code.length = 4 ∧ code.all isHexDigit ∧
      code.foldl (fun n d => n * 16 + digitValue d) 0 = n := by
  decide

theorem isEscape_codeOf (h : isUnreadable c = true) : IsEscape c 'u' (codeOf c) := by
  have hlt : c.toNat < 0x80 := by
    simp only [isUnreadable, Bool.or_eq_true, Bool.and_eq_true, decide_eq_true_eq,
      beq_iff_eq] at h
    omega
  obtain ⟨hlength, hhex, hvalue⟩ := codeOf_spec c.toNat hlt
  rw [Char.ofNat_toNat] at hlength hhex hvalue
  refine ⟨by decide, fun rest => ?_⟩
  show takeCodePoint 4 (codeOf c ++ rest) = _
  have htake : (codeOf c ++ rest).take 4 = codeOf c := by
    rw [← hlength]
    exact List.take_left
  have hdrop : (codeOf c ++ rest).drop 4 = rest := by
    rw [← hlength]
    exact List.drop_left
  have hvalid : c.toNat.isValidChar := .inl (by omega)
  simp only [takeCodePoint, htake, hdrop, hlength, hhex, hvalue, hvalid, and_self, if_true,
    Char.ofNat_toNat]

theorem isEscape_of_letter {letter : Char} (h : escapeLetter? letter = some c) :
    IsEscape c letter [] := by
  unfold escapeLetter? at h
  split at h <;> cases h <;> exact ⟨by decide, fun _ => rfl⟩

theorem isPlain_or_newline (h : isUnreadable c = false) : isPlain c = true ∨ c = '\n' := by
  simp only [isUnreadable, Bool.or_eq_false_iff, Bool.and_eq_false_iff, decide_eq_false_iff_not,
    bne_eq_false_iff_eq, beq_eq_false_iff_ne] at h
  simp only [isPlain, Bool.or_eq_true, Bool.and_eq_true, decide_eq_true_eq, beq_iff_eq,
    bne_iff_ne]
  obtain ⟨(hle | htab) | hnewline, hdelete⟩ := h
  · exact .inl (.inr ⟨Nat.le_of_not_lt hle, hdelete⟩)
  · exact .inl (.inl htab)
  · exact .inr hnewline

/-- A character is written as an escape, or as it is; then it ends no text and begins no escape, and
    is a newline only where there may be several lines. -/
theorem writeChar_cases (severalLines : Bool) (c : Char) :
    (∃ letter more, IsEscape c letter more ∧ writeChar severalLines c = '\\' :: letter :: more) ∨
    (writeChar severalLines c = [c] ∧ c ≠ '"' ∧ c ≠ '\\' ∧ c ≠ '\r' ∧
      (isPlain c = true ∨ severalLines = true ∧ c = '\n')) := by
  unfold writeChar
  split
  · exact .inl ⟨'b', [], isEscape_of_letter rfl, rfl⟩
  · exact .inl ⟨'t', [], isEscape_of_letter rfl, rfl⟩
  · split
    · next h => exact .inr ⟨rfl, by decide, by decide, by decide, .inr ⟨h, rfl⟩⟩
    · exact .inl ⟨'n', [], isEscape_of_letter rfl, rfl⟩
  · exact .inl ⟨'f', [], isEscape_of_letter rfl, rfl⟩
  · exact .inl ⟨'r', [], isEscape_of_letter rfl, rfl⟩
  · exact .inl ⟨'"', [], isEscape_of_letter rfl, rfl⟩
  · exact .inl ⟨'\\', [], isEscape_of_letter rfl, rfl⟩
  · next hbell htab hnewline hfeed hreturn hquote hbackslash =>
      split
      · next h => exact .inl ⟨'u', codeOf c, isEscape_codeOf h, rfl⟩
      · next h =>
          rcases isPlain_or_newline (Bool.eq_false_iff.2 h) with hplain | hline
          · exact .inr ⟨rfl, hquote, hbackslash, hreturn, .inl hplain⟩
          · exact absurd hline hnewline

theorem afterNewline?_eq_none (hnewline : c ≠ '\n') (hreturn : c ≠ '\r') :
    afterNewline? (c :: rest) = none := by
  unfold afterNewline?
  split
  · next h => exact absurd (List.cons.inj h).1 hnewline
  · next h => exact absurd (List.cons.inj h).1 hreturn
  · rfl

theorem afterLineEnding?_of_isEscape {letter : Char} {more : List Char}
    (h : IsEscape c letter more) : afterLineEnding? (letter :: rest) = none := by
  obtain ⟨hblank, -⟩ := h
  simp only [List.mem_cons, List.not_mem_nil, or_false, not_or] at hblank
  obtain ⟨hspace, htab, hnewline, hreturn⟩ := hblank
  have hnot : isSpace letter = false := by simp [isSpace, hspace, htab]
  rw [afterLineEnding?, List.dropWhile_cons_of_neg (by simp [hnot]),
    afterNewline?_eq_none hnewline hreturn]
  rfl

/-! ## Texts with escapes -/

theorem takeBasic_escape {letter : Char} {more : List Char} (h : IsEscape c letter more) :
    takeBasic acc ('\\' :: letter :: (more ++ rest)) = takeBasic (c :: acc) rest := by
  have htake := h.2 rest
  rw [takeBasic]
  split
  · next heq =>
      rw [htake] at heq
      cases heq
      rfl
  · next heq =>
      rw [htake] at heq
      cases heq

theorem takeBasic_plain (hquote : c ≠ '"') (hbackslash : c ≠ '\\') (hplain : isPlain c = true) :
    takeBasic acc (c :: rest) = takeBasic (c :: acc) rest := by
  rw [takeBasic.eq_def]
  split
  · next heq => cases heq
  · next heq => exact absurd (List.cons.inj heq).1 hquote
  · next heq => exact absurd (List.cons.inj heq).1 hbackslash
  · next heq =>
      cases heq
      exact if_pos hplain

theorem takeBasic_writeChar (c : Char) (acc rest : List Char) :
    takeBasic acc (writeChar false c ++ rest) = takeBasic (c :: acc) rest := by
  rcases writeChar_cases false c with ⟨letter, more, hescape, hwrite⟩ |
    ⟨hwrite, hquote, hbackslash, -, hplain | ⟨hfalse, -⟩⟩
  · rw [hwrite]
    exact takeBasic_escape hescape
  · rw [hwrite]
    exact takeBasic_plain hquote hbackslash hplain
  · cases hfalse

theorem takeBasic_written (cs acc rest : List Char) :
    takeBasic acc (cs.flatMap (writeChar false) ++ '"' :: rest) =
      some (String.ofList (acc.reverse ++ cs), rest) := by
  induction cs generalizing acc with
  | nil =>
      rw [List.flatMap_nil, List.nil_append, takeBasic, List.append_nil]
  | cons c cs ih =>
      rw [List.flatMap_cons, List.append_assoc, takeBasic_writeChar, ih, List.reverse_cons,
        List.append_assoc, List.singleton_append]

theorem closing?_of_ne {quote : Char} (h : c ≠ quote) : closing? quote (c :: rest) = none := by
  have hbeq : (c == quote) = false := by simpa using h
  simp [closing?, hbeq]

/-- Three quotes before the newline are the end. -/
theorem closing?_end {quote : Char} (h : quote ≠ '\n') :
    closing? quote (quote :: quote :: quote :: '\n' :: rest) = some (0, '\n' :: rest) := by
  have hbeq : ('\n' == quote) = false := by simpa using h.symm
  simp [closing?, hbeq]

theorem takeLongBasic_escape {letter : Char} {more : List Char} (h : IsEscape c letter more) :
    takeLongBasic acc ('\\' :: letter :: (more ++ rest)) = takeLongBasic (c :: acc) rest := by
  have htake := h.2 rest
  rw [takeLongBasic, closing?_of_ne (by decide)]
  dsimp only
  split
  · next heq =>
      rw [afterLineEnding?_of_isEscape h] at heq
      cases heq
  · split
    · next heq =>
        rw [htake] at heq
        cases heq
        rfl
    · next heq =>
        rw [htake] at heq
        cases heq

theorem takeLongBasic_plain (hquote : c ≠ '"') (hbackslash : c ≠ '\\') (hreturn : c ≠ '\r')
    (hplain : isPlain c = true ∨ c = '\n') :
    takeLongBasic acc (c :: rest) = takeLongBasic (c :: acc) rest := by
  rw [takeLongBasic.eq_def, closing?_of_ne hquote]
  dsimp only
  split
  · next heq => cases heq
  · next heq => exact absurd (List.cons.inj heq).1 hreturn
  · next heq => exact absurd (List.cons.inj heq).1 hbackslash
  · next heq =>
      cases heq
      exact if_pos (by simpa using hplain)

theorem takeLongBasic_writeChar (c : Char) (acc rest : List Char) :
    takeLongBasic acc (writeChar true c ++ rest) = takeLongBasic (c :: acc) rest := by
  rcases writeChar_cases true c with ⟨letter, more, hescape, hwrite⟩ |
    ⟨hwrite, hquote, hbackslash, hreturn, hplain⟩
  · rw [hwrite]
    exact takeLongBasic_escape hescape
  · rw [hwrite]
    exact takeLongBasic_plain hquote hbackslash hreturn (hplain.imp_right And.right)

theorem takeLongBasic_written (cs acc rest : List Char) :
    takeLongBasic acc (cs.flatMap (writeChar true) ++ '"' :: '"' :: '"' :: '\n' :: rest) =
      some (String.ofList (acc.reverse ++ cs), '\n' :: rest) := by
  induction cs generalizing acc with
  | nil =>
      rw [List.flatMap_nil, List.nil_append, takeLongBasic.eq_def, closing?_end (by decide)]
      rfl
  | cons c cs ih =>
      rw [List.flatMap_cons, List.append_assoc, takeLongBasic_writeChar, ih, List.reverse_cons,
        List.append_assoc, List.singleton_append]

/-! ## Texts as they are -/

theorem isVerbatim_iff : isVerbatim cs = true ↔
    (∃ c ∈ cs, c = '"' ∨ c = '\\') ∧ (∀ c ∈ cs, isUnreadable c = false) ∧
      hasThreeQuotes cs = false ∧ cs.getLast? ≠ some '\'' := by
  simp [isVerbatim, and_assoc]

theorem takeLiteral_written (hplain : ∀ c ∈ cs, isPlain c = true) (hquote : '\'' ∉ cs) :
    takeLiteral (cs ++ '\'' :: rest) = some (String.ofList cs, rest) := by
  have hbody : (cs ++ '\'' :: rest).takeWhile (· != '\'') = cs := by
    rw [List.takeWhile_append_of_pos fun c hc => bne_iff_ne.2 (ne_of_mem_of_not_mem hc hquote)]
    simp
  unfold takeLiteral
  simp only [hbody, List.all_eq_true.2 hplain, if_true, List.drop_left]

/-- A text that holds no three quotes, and none at its end, does not end before its end. -/
theorem closing?_of_hasThreeQuotes (hthree : hasThreeQuotes (c :: cs) = false)
    (hlast : (c :: cs).getLast? ≠ some '\'') : closing? '\'' (c :: cs ++ rest) = none := by
  refine if_pos ?_
  by_cases hc : c = '\''
  · match cs with
    | [] => simp [hc] at hlast
    | [d] =>
        have hd : d ≠ '\'' := by simpa using hlast
        simp [hc, hd]
    | d :: e :: _ =>
        by_cases hd : d = '\''
        · have he : e ≠ '\'' := by
            rintro rfl
            simp [hasThreeQuotes, hc, hd] at hthree
          simp [hc, hd, he]
        · simp [hc, hd]
  · simp [hc]

theorem takeLongLiteral_written (hreadable : ∀ c ∈ cs, isUnreadable c = false)
    (hthree : hasThreeQuotes cs = false) (hlast : cs.getLast? ≠ some '\'') :
    takeLongLiteral acc (cs ++ '\'' :: '\'' :: '\'' :: '\n' :: rest) =
      some (String.ofList (acc.reverse ++ cs), '\n' :: rest) := by
  induction cs generalizing acc with
  | nil =>
      rw [List.nil_append, takeLongLiteral.eq_def, closing?_end (by decide)]
      rfl
  | cons c cs ih =>
      have hc := hreadable c List.mem_cons_self
      have hlast' : cs.getLast? ≠ some '\'' := by
        intro h
        cases cs with
        | nil => cases h
        | cons d cs => exact hlast (by rwa [List.getLast?_cons_cons])
      have hnext := @ih (c :: acc) (fun d hd => hreadable d (List.mem_cons_of_mem _ hd))
        (Bool.or_eq_false_iff.1 hthree).2 hlast'
      rw [takeLongLiteral.eq_def, closing?_of_hasThreeQuotes hthree hlast, List.cons_append]
      dsimp only
      split
      · next heq => cases heq
      · next heq =>
          rw [(List.cons.inj heq).1] at hc
          cases hc
      · next heq =>
          cases heq
          rw [if_pos (by simpa using isPlain_or_newline hc), hnext, List.reverse_cons,
            List.append_assoc, List.singleton_append]

/-! ## Texts -/

theorem takeString_long (cs : List Char) :
    takeString ('"' :: '"' :: '"' :: cs) = takeLongBasic [] (skipFirstNewline cs) := rfl

theorem takeString_longLiteral (cs : List Char) :
    takeString ('\'' :: '\'' :: '\'' :: cs) = takeLongLiteral [] (skipFirstNewline cs) := rfl

/-- A text on one line, if it does not look like one of several. -/
theorem takeString_basic (h : ['"', '"'].isPrefixOf cs = false) :
    takeString ('"' :: cs) = takeBasic [] cs := by
  have hthree : after? "\"\"\"" ('"' :: cs) = none :=
    if_neg (by simpa [← List.isPrefixOf_iff_prefix] using h)
  have hother : after? "'''" ('"' :: cs) = none := rfl
  rw [takeString, hthree, hother]
  rfl

theorem takeString_literal (h : c ≠ '\'') :
    takeString ('\'' :: c :: cs) = takeLiteral (c :: cs) := by
  have hthree : after? "'''" ('\'' :: c :: cs) = none := by
    simp [after?, List.isPrefixOf, h.symm]
  have hother : after? "\"\"\"" ('\'' :: c :: cs) = none := rfl
  rw [takeString, hthree, hother]
  rfl

theorem skipFirstNewline_newline (cs : List Char) : skipFirstNewline ('\n' :: cs) = cs := rfl

/-- A text that does not begin with a newline begins at once. -/
theorem skipFirstNewline_of_ne (hnewline : c ≠ '\n') (hreturn : c ≠ '\r') :
    skipFirstNewline (c :: cs) = c :: cs := by
  rw [skipFirstNewline, afterNewline?_eq_none hnewline hreturn, Option.getD_none]

theorem takeString_verbatim {s : String} (h : isVerbatim s.toList = true) :
    takeString (writeText s ++ '\n' :: rest) = some (s, '\n' :: rest) := by
  obtain ⟨⟨c, hc, -⟩, hreadable, hthree, hlast⟩ := isVerbatim_iff.1 h
  have hlong : takeLongLiteral [] (s.toList ++ '\'' :: '\'' :: '\'' :: '\n' :: rest) =
      some (s, '\n' :: rest) := by
    rw [takeLongLiteral_written hreadable hthree hlast, List.reverse_nil, List.nil_append,
      String.ofList_toList]
  rw [writeText]
  dsimp only
  rw [if_pos h]
  cases hlines : s.toList.contains '\n' with
  | true =>
      simp only [Bool.true_or, if_true, List.replicate, List.append_assoc, List.cons_append,
        List.nil_append]
      rw [takeString_longLiteral, skipFirstNewline_newline]
      exact hlong
  | false =>
      have hnewline : '\n' ∉ s.toList := by simpa using hlines
      obtain ⟨d, cs, hcs⟩ := List.exists_cons_of_ne_nil (List.ne_nil_of_mem hc)
      have hd : d ∈ s.toList := by simp [hcs]
      cases hquotes : s.toList.contains '\'' with
      | true =>
          have hdnewline : d ≠ '\n' := fun h => hnewline (h ▸ hd)
          have hdreturn : d ≠ '\r' := by
            rintro rfl
            cases hreadable _ hd
          simp only [Bool.or_true, if_true, Bool.false_eq_true, if_false, List.replicate,
            List.append_assoc, List.cons_append, List.nil_append]
          rw [takeString_longLiteral, hcs, List.cons_append,
            skipFirstNewline_of_ne hdnewline hdreturn, ← List.cons_append, ← hcs]
          exact hlong
      | false =>
          have hquote : '\'' ∉ s.toList := by simpa using hquotes
          have hdquote : d ≠ '\'' := fun h => hquote (h ▸ hd)
          have hplain : ∀ c ∈ s.toList, isPlain c = true := fun c hc =>
            (isPlain_or_newline (hreadable c hc)).resolve_right fun h => hnewline (h ▸ hc)
          simp only [Bool.or_false, Bool.false_eq_true, if_false, List.replicate,
            List.append_assoc, List.cons_append, List.nil_append]
          rw [hcs, List.cons_append, takeString_literal hdquote, ← List.cons_append, ← hcs,
            takeLiteral_written hplain hquote, String.ofList_toList]

/-- What is written of a character, if anything, begins with no quote. -/
theorem isPrefixOf_written (cs rest : List Char) :
    ['"', '"'].isPrefixOf (cs.flatMap (writeChar false) ++ '"' :: '\n' :: rest) = false := by
  cases cs with
  | nil => rfl
  | cons c cs =>
      rw [List.flatMap_cons, List.append_assoc]
      rcases writeChar_cases false c with ⟨letter, more, -, hwrite⟩ | ⟨hwrite, hquote, -⟩
      · rw [hwrite]
        rfl
      · rw [hwrite]
        exact Bool.and_eq_false_iff.2 (.inl (beq_eq_false_iff_ne.2 hquote.symm))

theorem takeString_escaped {s : String} (h : isVerbatim s.toList = false) :
    takeString (writeText s ++ '\n' :: rest) = some (s, '\n' :: rest) := by
  rw [writeText]
  dsimp only
  rw [if_neg (by simp [h])]
  cases hlines : s.toList.contains '\n' with
  | true =>
      simp only [if_true, List.replicate, List.append_assoc, List.cons_append, List.nil_append]
      rw [takeString_long, skipFirstNewline_newline, takeLongBasic_written, List.reverse_nil,
        List.nil_append, String.ofList_toList]
  | false =>
      simp only [Bool.false_eq_true, if_false, List.replicate, List.append_assoc, List.cons_append,
        List.nil_append]
      rw [takeString_basic (isPrefixOf_written _ _), takeBasic_written, List.reverse_nil,
        List.nil_append, String.ofList_toList]

/-- A text begins with one of two quotes. -/
theorem head?_writeText (s : String) :
    (writeText s).head? = some '"' ∨ (writeText s).head? = some '\'' := by
  unfold writeText
  dsimp only
  split_ifs <;> simp [List.replicate]

theorem takeScalar_text (s : String) (rest : List Char) :
    takeScalar (writeText s ++ '\n' :: rest) = some (.text s, '\n' :: rest) := by
  have htake : takeString (writeText s ++ '\n' :: rest) = some (s, '\n' :: rest) := by
    cases h : isVerbatim s.toList with
    | true => exact takeString_verbatim h
    | false => exact takeString_escaped h
  cases htext : writeText s with
  | nil =>
      have hhead := head?_writeText s
      simp [htext] at hhead
  | cons c cs =>
      have hquote : c = '"' ∨ c = '\'' := by
        have hhead := head?_writeText s
        simpa [htext] using hhead
      rw [htext] at htake
      rw [List.cons_append, takeScalar, if_pos hquote, ← List.cons_append, htake]
      rfl

end Playground.Toml
