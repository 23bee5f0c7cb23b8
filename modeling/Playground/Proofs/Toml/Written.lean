import Playground.Proofs.Toml.Scalar
import Playground.Toml.Read

set_option autoImplicit false

/-! # Lines are read as they were written

A line that is written has a key without quotes and a value up to the newline. A document of such
lines is read one by one, and its table has the node of each (`read?_lines`), if no key is there
twice. -/

namespace Playground.Toml

variable {c : Char} {rest : List Char} {n : Nat}

theorem ne_of_isBareKey {d : Char} (h : isBareKey c = true) (hd : isBareKey d = false) :
    c ≠ d := by
  rintro rfl
  rw [h] at hd
  cases hd

theorem skipSpaces_of_isBareKey (h : isBareKey c = true) :
    skipSpaces (c :: rest) = c :: rest := by
  refine List.dropWhile_cons_of_neg ?_
  simp [isSpace, ne_of_isBareKey h (d := ' ') (by decide),
    ne_of_isBareKey h (d := '\t') (by decide)]

theorem get?_of_notMem {ms : Members} {key : String} (h : key ∉ ms.map Prod.fst) :
    ms.get? key = none := by
  refine List.lookup_eq_none_iff.2 fun m hm => bne_iff_ne.2 fun heq => ?_
  exact h (heq ▸ List.mem_map_of_mem hm)

theorem set_of_notMem {ms : Members} {key : String} (h : key ∉ ms.map Prod.fst) (n : Node) :
    ms.set key n = ms ++ [(key, n)] := by
  refine if_neg fun hany => ?_
  obtain ⟨m, hm, heq⟩ := List.any_eq_true.1 hany
  exact h (beq_iff_eq.1 heq ▸ List.mem_map_of_mem hm)

/-- A line of a document, and the node that is read in the place of its value. -/
structure Line where
  key : String
  value : List Char
  node : Node

namespace Line

/-- The line as it is written. -/
def text (l : Line) : List Char := writeLine l.key l.value

/-- A line whose key needs no quotes and whose value is read as its node, up to the newline. -/
structure IsReadable (l : Line) : Prop where
  ne_nil : l.key.toList ≠ []
  bare : ∀ c ∈ l.key.toList, isBareKey c = true
  /-- The value is no array and no table, and no blank precedes it. -/
  head : ∃ c, l.value.head? = some c ∧ isSpace c = false ∧ c ≠ '[' ∧ c ≠ '\x7b'
  value : ∀ rest, takeScalar (l.value ++ '\n' :: rest) = some (l.node, '\n' :: rest)

theorem isReadable_number {key : String} (hne : key.toList ≠ [])
    (hbare : ∀ c ∈ key.toList, isBareKey c = true) (h : n < 1 <<< 63) :
    IsReadable ⟨key, Nat.toDigits 10 n, .integer n⟩ := by
  refine ⟨hne, hbare, ?_, fun rest => takeScalar_number h⟩
  obtain ⟨d, tail, hds, hd⟩ := exists_digit Nat.toDigits_ne_nil (isDigit_toDigits (n := n))
  have hspace := ne_of_isDigit hd (d := ' ') (by decide)
  have htab := ne_of_isDigit hd (d := '\t') (by decide)
  exact ⟨d, congrArg List.head? hds, by simp [isSpace, hspace, htab],
    ne_of_isDigit hd (by decide), ne_of_isDigit hd (by decide)⟩

theorem isReadable_text {key : String} (hne : key.toList ≠ [])
    (hbare : ∀ c ∈ key.toList, isBareKey c = true) (s : String) :
    IsReadable ⟨key, writeText s, .text s⟩ := by
  refine ⟨hne, hbare, ?_, fun rest => takeScalar_text s rest⟩
  rcases head?_writeText s with h | h
  · exact ⟨_, h, by decide, by decide, by decide⟩
  · exact ⟨_, h, by decide, by decide, by decide⟩

variable {l : Line} {ms : Members}

/-- What a line begins with. -/
theorem IsReadable.exists_head (h : l.IsReadable) :
    ∃ c tail, l.key.toList = c :: tail ∧ isBareKey c = true := by
  cases hkey : l.key.toList with
  | nil => exact absurd hkey h.ne_nil
  | cons c tail => exact ⟨c, tail, rfl, h.bare c (hkey ▸ List.mem_cons_self)⟩

theorem IsReadable.takeKey (h : l.IsReadable) (rest : List Char) :
    takeKey (l.key.toList ++ ' ' :: '=' :: rest) = some ([l.key], '=' :: rest) := by
  obtain ⟨c, tail, hkey, hc⟩ := h.exists_head
  have hbare : (l.key.toList ++ ' ' :: '=' :: rest).takeWhile isBareKey = l.key.toList := by
    rw [List.takeWhile_append_of_pos h.bare]
    simp [isBareKey]
  have hspaces : skipSpaces (l.key.toList ++ ' ' :: '=' :: rest) =
      l.key.toList ++ ' ' :: '=' :: rest := by
    rw [hkey, List.cons_append, skipSpaces_of_isBareKey hc]
  have hsimple : takeSimpleKey (l.key.toList ++ ' ' :: '=' :: rest) =
      some (l.key, ' ' :: '=' :: rest) := by
    unfold takeSimpleKey
    split
    · next heq =>
        rw [hkey] at heq
        exact absurd (List.cons.inj heq).1 (ne_of_isBareKey hc (by decide))
    · next heq =>
        rw [hkey] at heq
        exact absurd (List.cons.inj heq).1 (ne_of_isBareKey hc (by decide))
    · dsimp only
      rw [hbare, if_neg (by simp [hkey]), List.drop_left, String.ofList_toList]
  show takeKeyUpTo (78 + 1) _ = _
  rw [takeKeyUpTo, hspaces, hsimple]
  rfl

/-- A line is read up to its end, and adds its key and node if the key is new. -/
theorem IsReadable.takeLine (h : l.IsReadable) (fuel : Nat) (hnew : l.key ∉ ms.map Prod.fst)
    (rest : List Char) :
    takeLine (fuel + 1) ⟨ms, []⟩ (l.text ++ rest) =
      some (⟨ms ++ [(l.key, l.node)], []⟩, '\n' :: rest) := by
  obtain ⟨c, tail, hkey, hc⟩ := h.exists_head
  obtain ⟨d, hd, hspace, hbracket, hbrace⟩ := h.head
  obtain ⟨more, hmore⟩ : ∃ more, l.value = d :: more := by
    cases hvalue : l.value with
    | nil => simp [hvalue] at hd
    | cons e more =>
        rw [hvalue] at hd
        cases hd
        exact ⟨more, rfl⟩
  have htext : l.text ++ rest =
      l.key.toList ++ ' ' :: '=' :: ' ' :: (l.value ++ '\n' :: rest) := by
    simp [Line.text, writeLine]
  have hspaces : skipSpaces (l.key.toList ++ ' ' :: '=' :: ' ' :: (l.value ++ '\n' :: rest)) =
      c :: (tail ++ ' ' :: '=' :: ' ' :: (l.value ++ '\n' :: rest)) := by
    rw [hkey, List.cons_append, skipSpaces_of_isBareKey hc]
  have hvalue : takeValue (fuel + 1) depthLimit (skipSpaces (' ' :: (l.value ++ '\n' :: rest))) =
      some (l.node, '\n' :: rest) := by
    have hscalar := h.value rest
    have hskip : skipSpaces (' ' :: (l.value ++ '\n' :: rest)) = l.value ++ '\n' :: rest := by
      rw [hmore]
      show (' ' :: d :: (more ++ '\n' :: rest)).dropWhile isSpace = _
      rw [List.dropWhile_cons_of_pos (by decide), List.dropWhile_cons_of_neg (by simp [hspace])]
      rfl
    rw [hskip]
    rw [hmore, List.cons_append] at hscalar ⊢
    rw [takeValue.eq_def]
    dsimp only
    split
    · next heq => exact absurd (List.cons.inj heq).1 hbracket
    · next heq => exact absurd (List.cons.inj heq).1 hbrace
    · exact hscalar
  have hadd : addKey true ms [l.key] l.node = some (ms ++ [(l.key, l.node)]) := by
    rw [addKey, if_pos ⟨rfl, by rw [get?_of_notMem hnew]; rfl⟩, set_of_notMem hnew]
  have hpair : takePair (fuel + 1) ⟨ms, []⟩
      (l.key.toList ++ ' ' :: '=' :: ' ' :: (l.value ++ '\n' :: rest)) =
        some (⟨ms ++ [(l.key, l.node)], []⟩, '\n' :: rest) := by
    have hequals : after? "=" ('=' :: ' ' :: (l.value ++ '\n' :: rest)) =
        some (' ' :: (l.value ++ '\n' :: rest)) := rfl
    simp only [takePair, h.takeKey, Option.bind_eq_bind, Option.bind_some, hequals, hvalue, within,
      hadd, Option.pure_def]
  rw [htext, Toml.takeLine, hspaces]
  split
  · next heq => cases heq
  · next heq => exact absurd (List.cons.inj heq).1 (ne_of_isBareKey hc (by decide))
  · next heq =>
      cases heq
      rw [if_neg, ← List.cons_append, ← hkey, hpair]
      simp [ne_of_isBareKey hc (d := '#') (by decide), ne_of_isBareKey hc (d := '\n') (by decide),
        ne_of_isBareKey hc (d := '\r') (by decide)]

end Line

/-- The members that lines stand for. -/
def Line.members (lines : List Line) : Members := lines.map fun l => (l.key, l.node)

/-- Lines are read one by one. The keys of those that have been read are not there a second time. -/
theorem readLines_lines {fuel : Nat} {ms : Members} {lines : List Line}
    (hlines : ∀ l ∈ lines, l.IsReadable)
    (hkeys : (ms.map Prod.fst ++ lines.map Line.key).Nodup) (hfuel : lines.length < fuel) :
    readLines fuel ⟨ms, []⟩ (lines.flatMap Line.text) =
      some ⟨ms ++ Line.members lines, []⟩ := by
  induction lines generalizing ms fuel with
  | nil =>
      obtain ⟨fuel, rfl⟩ : ∃ k, fuel = k + 1 := ⟨fuel - 1, by simp at hfuel; omega⟩
      rw [Line.members, List.map_nil, List.append_nil]
      rfl
  | cons l lines ih =>
      obtain ⟨fuel, rfl⟩ : ∃ k, fuel = k + 1 := ⟨fuel - 1, by simp at hfuel; omega⟩
      have hnew : l.key ∉ ms.map Prod.fst := fun hmem =>
        (List.nodup_append.1 hkeys).2.2 _ hmem _ List.mem_cons_self rfl
      have hkeys' : ((ms ++ [(l.key, l.node)]).map Prod.fst ++ lines.map Line.key).Nodup := by
        simpa using hkeys
      have hrest : readLines fuel ⟨ms ++ [(l.key, l.node)], []⟩ (lines.flatMap Line.text) =
          some ⟨ms ++ [(l.key, l.node)] ++ Line.members lines, []⟩ :=
        ih (fun l hl => hlines l (List.mem_cons_of_mem _ hl)) hkeys' (by simp at hfuel; omega)
      have hline := (hlines l List.mem_cons_self).takeLine fuel hnew (lines.flatMap Line.text)
      rw [List.flatMap_cons, readLines, hline]
      show readLines fuel _ (lines.flatMap Line.text) = _
      rw [hrest, Line.members, Line.members, List.append_assoc]
      rfl

/-- A document with a line for each of its keys is read as the table of them. -/
theorem read?_lines {lines : List Line} (hlines : ∀ l ∈ lines, l.IsReadable)
    (hkeys : (lines.map Line.key).Nodup) :
    read? (String.ofList (lines.flatMap Line.text)) = some (Line.members lines) := by
  have hlength : lines.length ≤ (lines.flatMap Line.text).length := by
    clear hlines hkeys
    induction lines with
    | nil => exact Nat.zero_le _
    | cons l lines ih =>
        simp only [List.flatMap_cons, List.length_cons, List.length_append, Line.text,
          writeLine] at ih ⊢
        omega
  have hmark : (lines.flatMap Line.text).head? ≠ some (Char.ofNat 0xFEFF) := by
    cases lines with
    | nil => nofun
    | cons l lines =>
        obtain ⟨c, tail, hkey, hc⟩ := (hlines l List.mem_cons_self).exists_head
        rw [List.flatMap_cons, Line.text, writeLine, hkey]
        exact fun h => ne_of_isBareKey hc (by decide) (Option.some.inj h)
  unfold read?
  rw [String.toList_ofList]
  dsimp only
  rw [if_neg hmark, readLines_lines hlines (by simpa using hkeys) (Nat.lt_succ_of_le hlength)]
  rfl

/-- Each line of such a document is found by its key. -/
theorem get?_members {lines : List Line} {l : Line} (hkeys : (lines.map Line.key).Nodup)
    (hl : l ∈ lines) : (Line.members lines).get? l.key = some l.node := by
  induction lines with
  | nil => cases hl
  | cons l' lines ih =>
      rw [List.map_cons, List.nodup_cons] at hkeys
      show ((l'.key, l'.node) :: Line.members lines).lookup l.key = _
      rcases List.mem_cons.1 hl with rfl | hl
      · exact List.lookup_cons_self
      · have hne : (l.key == l'.key) = false :=
          beq_eq_false_iff_ne.2 fun h => hkeys.1 (h ▸ List.mem_map_of_mem hl)
        rw [List.lookup_cons, hne]
        exact ih hkeys.2 hl

end Playground.Toml
