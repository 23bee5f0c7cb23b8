import Playground.Proofs.Text.Utf8
import Playground.Proofs.Json.Refusal
import Playground.Request

set_option autoImplicit false

/-! # What is written is read

A text is written between quotes, with escapes for what may not stand there; read, it is the same
text again, whatever it holds (`readText_renderText`). So an object with texts and nulls for its
members is read back lexeme by lexeme (`written_flat`), and it does not matter whether it is read
as text or as octets. -/

namespace Playground.Json

open Playground.Text.Utf8 (Symbol)

variable {c : Char} {cs : List Char} {rest : Input} {acc : List TextUnit}

/-! ## Strings -/

/-- A control character that has no letter for its escape. -/
def IsNumbered (c : Char) : Prop :=
  c.toNat < 0x20 ∧ c ≠ '\n' ∧ c ≠ '\r' ∧ c ≠ '\t' ∧ c ≠ '\x08' ∧ c ≠ '\x0c'

instance (c : Char) : Decidable (IsNumbered c) := inferInstanceAs (Decidable (_ ∧ _))

/-- The unit that a character is read as. -/
def unitOf (c : Char) : TextUnit := if IsNumbered c then .code c.toNat else .symbol (some c)

theorem hexDigits_eq :
    ∀ n < 0x20, hexDigits n = ['0', '0', (n / 16).digitChar, (n % 16).digitChar] := by
  decide

theorem hexDigit?_digitChar : ∀ n < 16, hexDigit? n.digitChar = some n := by decide

theorem readUnits_hexDigits {n : Nat} (h : n < 0x20) (acc : List TextUnit) (rest : Input) :
    readUnits (.digits 4 0) acc ((hexDigits n).map some ++ rest) =
      readUnits .plain (.code n :: acc) rest := by
  have hzero : hexDigit? '0' = some 0 := by decide
  have hvalue : ((0 * 16 + 0) * 16 + 0) * 16 + n / 16 = n / 16 := by omega
  have hwhole : n / 16 * 16 + n % 16 = n := by omega
  rw [hexDigits_eq n h]
  simp only [List.map_cons, List.map_nil, List.cons_append, List.nil_append, readUnits,
    Option.bind_some, hzero, hexDigit?_digitChar (n / 16) (by omega),
    hexDigit?_digitChar (n % 16) (by omega), hvalue, hwhole]
  rfl

/-- A letter after a backslash. -/
theorem readUnits_escape {letter : Char} (hu : letter ≠ 'u') (h : escapeLetter? letter = some c)
    (acc : List TextUnit) (rest : Input) :
    readUnits .plain acc (some '\\' :: some letter :: rest) =
      readUnits .plain (.symbol (some c) :: acc) rest := by
  simp [readUnits, hu, h]

/-- A character is written with a letter for it, by its number, or as it is. -/
theorem renderChar_cases (c : Char) :
    (∃ letter, letter ≠ 'u' ∧ escapeLetter? letter = some c ∧ renderChar c = ['\\', letter] ∧
      ¬IsNumbered c) ∨
    (IsNumbered c ∧ renderChar c = '\\' :: 'u' :: hexDigits c.toNat) ∨
    (¬IsNumbered c ∧ renderChar c = [c] ∧ c ≠ '"' ∧ c ≠ '\\' ∧ ¬c.toNat < 0x20) := by
  unfold renderChar
  split_ifs with hquote hbackslash hnewline hreturn htab hbackspace hfeed hcontrol
  · subst hquote
    exact .inl ⟨'"', by decide⟩
  · subst hbackslash
    exact .inl ⟨'\\', by decide⟩
  · subst hnewline
    exact .inl ⟨'n', by decide⟩
  · subst hreturn
    exact .inl ⟨'r', by decide⟩
  · subst htab
    exact .inl ⟨'t', by decide⟩
  · subst hbackspace
    exact .inl ⟨'b', by decide⟩
  · subst hfeed
    exact .inl ⟨'f', by decide⟩
  · exact .inr (.inl ⟨⟨hcontrol, hnewline, hreturn, htab, hbackspace, hfeed⟩, rfl⟩)
  · exact .inr (.inr ⟨fun h => hcontrol h.1, rfl, hquote, hbackslash, hcontrol⟩)

theorem readUnits_renderChar (c : Char) (acc : List TextUnit) (rest : Input) :
    readUnits .plain acc ((renderChar c).map some ++ rest) =
      readUnits .plain (unitOf c :: acc) rest := by
  rcases renderChar_cases c with ⟨letter, hu, hletter, hrender, hnot⟩ | ⟨hnumbered, hrender⟩ |
    ⟨hnot, hrender, hquote, hbackslash, hplain⟩
  · rw [hrender, unitOf, if_neg hnot]
    exact readUnits_escape hu hletter acc rest
  · rw [hrender, unitOf, if_pos hnumbered]
    exact readUnits_hexDigits hnumbered.1 acc rest
  · rw [hrender, unitOf, if_neg hnot]
    simp [readUnits, hquote, hbackslash, hplain]

theorem readUnits_renderText (cs : List Char) (acc : List TextUnit) (rest : Input) :
    readUnits .plain acc ((cs.flatMap renderChar ++ ['"']).map some ++ rest) =
      some ((cs.map unitOf).reverse ++ acc, rest) := by
  induction cs generalizing acc with
  | nil => simp [readUnits]
  | cons c cs ih =>
      rw [List.flatMap_cons, List.append_assoc, List.map_append, List.append_assoc,
        readUnits_renderChar, ih]
      simp

/-- No unit that is written is a surrogate. -/
theorem joinUnits_unitOf (c : Char) (units : List TextUnit) :
    joinUnits (unitOf c :: units) = some c :: joinUnits units := by
  unfold unitOf
  split
  · next h =>
      have hlt : c.toNat < 0x20 := h.1
      have hhigh : isHighSurrogate c.toNat = false := by
        simp only [isHighSurrogate, Bool.and_eq_false_iff, decide_eq_false_iff_not]
        omega
      have hlow : isLowSurrogate c.toNat = false := by
        simp only [isLowSurrogate, Bool.and_eq_false_iff, decide_eq_false_iff_not]
        omega
      rw [joinUnits.eq_def]
      cases units <;> simp [joinUnits.eq_1, hhigh, hlow]
  · rw [joinUnits.eq_def]
    cases units <;> simp [joinUnits.eq_1]

theorem joinUnits_map_unitOf (cs : List Char) : joinUnits (cs.map unitOf) = cs.map some := by
  induction cs with
  | nil => simp [joinUnits]
  | cons c cs ih => rw [List.map_cons, joinUnits_unitOf, ih, List.map_cons]

theorem readText_renderText (cs : List Char) (rest : Input) :
    readText ((cs.flatMap renderChar ++ ['"']).map some ++ rest) = some (cs.map some, rest) := by
  unfold readText
  rw [readUnits_renderText]
  simp [joinUnits_map_unitOf]

/-! ## Lexemes -/

/-- The document with these lexemes before it. -/
def Document.after (lexemes : List Lexeme) (d : Document) : Document :=
  ⟨lexemes ++ d.lexemes, d.isComplete⟩

theorem Document.after_after (first second : List Lexeme) (d : Document) :
    (d.after second).after first = d.after (first ++ second) := by
  simp [Document.after]

theorem ofInput_of_next {input : Input} {l : Lexeme} (h : nextLexeme? input = some (l, rest)) :
    Document.ofInput input = (Document.ofInput rest).after [l] := by
  rw [Document.ofInput]
  split
  · next hnone =>
      rw [h] at hnone
      cases hnone
  · next l' rest' hsome =>
      rw [h] at hsome
      cases hsome
      rfl

theorem ofInput_nil : Document.ofInput [] = ⟨[], true⟩ := by
  have h : nextLexeme? [] = none := by decide
  rw [Document.ofInput]
  split
  · rfl
  · next hsome =>
      rw [h] at hsome
      cases hsome

theorem ofInput_renderText (cs : List Char) (rest : Input) :
    Document.ofInput ((renderText cs).map some ++ rest) =
      (Document.ofInput rest).after [.text (cs.map some)] := by
  refine ofInput_of_next ?_
  have hfirst : nextLexeme? ((renderText cs).map some ++ rest) =
      (readText ((cs.flatMap renderChar ++ ['"']).map some ++ rest)).map fun r =>
        (.text r.1, r.2) := rfl
  rw [hfirst, readText_renderText]
  rfl

/-! ## Objects with texts and nulls -/

/-- The document that is read where a value has been written. -/
def Value.written (v : Value) : Document := .ofString (String.ofList v.render)

/-- An object with these members, which are texts or null. -/
def flat (fields : List (String × FieldValue)) : Value :=
  .object (fields.map fun f => member f.1 (Request.textOrNull f.2))

/-- The lexeme of a text or null. -/
def leaf : FieldValue → Lexeme
  | some s => .text (s.toList.map some)
  | none => .null

def memberLexemes : List (String × FieldValue) → List Lexeme
  | [] => []
  | [f] => [.text (f.1.toList.map some), .colon, leaf f.2]
  | f :: g :: fields =>
      [.text (f.1.toList.map some), .colon, leaf f.2, .comma] ++ memberLexemes (g :: fields)

theorem ofInput_textOrNull (v : FieldValue) (rest : Input) :
    Document.ofInput ((Request.textOrNull v).render.map some ++ rest) =
      (Document.ofInput rest).after [leaf v] := by
  cases v with
  | none => exact ofInput_of_next rfl
  | some s =>
      have hrender : (Request.textOrNull (some s)).render = renderText s.toList := by
        simp [Request.textOrNull, Value.ofString, Value.render, List.filterMap_map]
      rw [hrender, ofInput_renderText]
      rfl

/-- A member, whatever comes after it. -/
theorem ofInput_member (f : String × FieldValue) (rest : Input) :
    Document.ofInput ((renderText f.1.toList ++ ':' :: (Request.textOrNull f.2).render).map some ++
        rest) =
      (Document.ofInput rest).after [.text (f.1.toList.map some), .colon, leaf f.2] := by
  have hcolon (rest : Input) : Document.ofInput (some ':' :: rest) =
      (Document.ofInput rest).after [.colon] := ofInput_of_next rfl
  rw [List.map_append, List.append_assoc, ofInput_renderText, List.map_cons, List.cons_append,
    hcolon, ofInput_textOrNull, Document.after_after, Document.after_after]
  rfl

theorem ofInput_renderMembers (fields : List (String × FieldValue)) (rest : Input) :
    Document.ofInput ((renderMembers (fields.map fun f =>
        member f.1 (Request.textOrNull f.2))).map some ++ rest) =
      (Document.ofInput rest).after (memberLexemes fields) := by
  have hkey (s : String) : (s.toList.map some).filterMap id = s.toList := by
    simp [List.filterMap_map]
  have hcomma (rest : Input) : Document.ofInput (some ',' :: rest) =
      (Document.ofInput rest).after [.comma] := ofInput_of_next rfl
  fun_induction memberLexemes fields with
  | case1 => rfl
  | case2 f =>
      simp only [List.map_cons, List.map_nil, member, renderMembers, hkey]
      exact ofInput_member f rest
  | case3 f g fields ih =>
      simp only [List.map_cons, member, renderMembers, hkey] at ih ⊢
      rw [List.map_append, List.append_assoc, ofInput_member, List.map_cons, List.cons_append,
        hcomma, ih, Document.after_after, Document.after_after]
      rfl

/-- The text of an object is read as its lexemes, up to the end. -/
theorem written_flat (fields : List (String × FieldValue)) :
    (flat fields).written = ⟨.openObject :: memberLexemes fields ++ [.closeObject], true⟩ := by
  have hopen (rest : Input) : Document.ofInput (some '\x7b' :: rest) =
      (Document.ofInput rest).after [.openObject] := ofInput_of_next rfl
  have hclose : Document.ofInput [some '\x7d'] = ⟨[.closeObject], true⟩ := by
    have hnext : nextLexeme? [some '\x7d'] = some (.closeObject, []) := rfl
    rw [ofInput_of_next hnext, ofInput_nil]
    rfl
  rw [Value.written, Document.ofString, Input.ofString, String.toList_ofList, flat, Value.render,
    List.cons_append, List.map_cons, List.map_append, hopen, ofInput_renderMembers]
  show ((Document.ofInput [some '\x7d']).after _).after _ = _
  rw [hclose]
  simp [Document.after]

/-- It does not matter whether a value is read as text or as octets. -/
theorem ofInput_decode_encode (v : Value) :
    Document.ofInput (Text.Utf8.decode (Text.Utf8.encode v.render)) = v.written := by
  rw [Text.Utf8.decode_encode, Value.written, Document.ofString, Input.ofString,
    String.toList_ofList]

/-! ## Records -/

variable {f : Field} {v : FieldValue} {fields left : List Field} {values : List FieldValue}
  {lexemes : List Lexeme}

theorem HasValues.length_eq (h : HasValues fields values) : values.length = fields.length := by
  induction h with
  | nil => rfl
  | cons _ _ ih => rw [List.length_cons, List.length_cons, ih]

theorem textOf_map_some (s : String) : textOf (s.toList.map some) = .ok s := by
  have hall : (s.toList.map some).mapM id = some s.toList := by
    induction s.toList with
    | nil => rfl
    | cons c cs ih => simp [ih]
  rw [textOf, hall]
  exact congrArg Except.ok String.ofList_toList

theorem Field.read_leaf (hreq : f.isRequired = true → v.isSome = true)
    (haccepts : ∀ s, v = some s → f.refusal? s = none) (lexemes : List Lexeme) :
    f.read (leaf v :: lexemes) = .ok (v, lexemes) := by
  cases v with
  | some s =>
      show f.read (.text (s.toList.map some) :: lexemes) = _
      rw [Field.read_text, textOf_map_some, Except.bind, haccepts s rfl, Option.elim_none]
  | none =>
      show (if f.isRequired = true then _ else _) = _
      rw [if_neg fun h => absurd (hreq h) (by simp)]

/-- All slots have been filled. -/
def Slots.AreFilled (slots : Slots) : Prop := ∀ slot ∈ slots, slot.2.isSome = true

theorem Slots.AreFilled.values_eq {slots : Slots} (h : slots.AreFilled) :
    slots.values = .ok (slots.map fun slot => slot.2.getD none) := by
  induction slots with
  | nil => rfl
  | cons slot slots ih =>
      obtain ⟨f, value⟩ := slot
      have hvalue : value.isSome = true := h (f, value) List.mem_cons_self
      obtain ⟨v, rfl⟩ := Option.isSome_iff_exists.1 hvalue
      rw [Slots.values, ih fun slot hslot => h slot (List.mem_cons_of_mem _ hslot)]
      rfl

theorem readMember_next {done others : Slots} (hdone : ∀ slot ∈ done, slot.1.name ≠ f.name)
    (hothers : ∀ slot ∈ others, slot.1.name ≠ f.name)
    (hread : f.read (leaf v :: lexemes) = .ok (v, lexemes)) :
    readMember (done ++ (f, none) :: others) f.name (.colon :: leaf v :: lexemes) =
      .ok (done ++ (f, some v) :: others, lexemes) := by
  have hkeep (slots : Slots) (h : ∀ slot ∈ slots, slot.1.name ≠ f.name) :
      slots.map (fun slot => if slot.1.name = f.name then (slot.1, some v) else slot) = slots := by
    calc slots.map (fun slot => if slot.1.name = f.name then (slot.1, some v) else slot)
        = slots.map id := List.map_congr_left fun slot hslot => if_neg (h slot hslot)
      _ = slots := List.map_id slots
  have hfind : (done ++ (f, none) :: others).find? (fun slot => slot.1.name == f.name) =
      some (f, none) := by
    have hnone : done.find? (fun slot => slot.1.name == f.name) = none :=
      List.find?_eq_none.2 fun slot hslot => by simpa using hdone slot hslot
    rw [List.find?_append, hnone, Option.none_or]
    simp
  have hfill : Slots.fill f.name v (done ++ (f, none) :: others) =
      done ++ (f, some v) :: others := by
    rw [Slots.fill, List.map_append, List.map_cons, hkeep done hdone, hkeep others hothers,
      if_pos rfl]
  unfold readMember
  rw [hfind]
  dsimp only
  rw [hread, ← hfill]
  rfl

/-- The members of a record, written in the order of its fields, are read into slots one by one.
    Those before them have been read. -/
theorem readMembers_memberLexemes {done : Slots} {rounds : Nat} (hdone : done.AreFilled)
    (hnames : ((done.map Prod.fst ++ left).map Field.name).Nodup) (hne : left ≠ [])
    (hvalues : HasValues left values) (haccepts : Accepts left values)
    (hrounds : left.length ≤ rounds) (lexemes : List Lexeme) :
    readMembers rounds (done ++ left.map fun f => (f, none))
        (memberLexemes ((left.map Field.name).zip values) ++ .closeObject :: lexemes) =
      .ok (done.map (fun slot => slot.2.getD none) ++ values, lexemes) := by
  induction left generalizing done rounds values with
  | nil => exact absurd rfl hne
  | cons f left ih =>
      cases hvalues with
      | @cons _ v _ values hreq hvalues =>
      have hv : ∀ s, v = some s → f.refusal? s = none := fun s hs =>
        haccepts 0 f s rfl (congrArg some hs)
      have hleft : Accepts left values := fun i g s hg hs => haccepts (i + 1) g s hg hs
      obtain ⟨rounds, rfl⟩ : ∃ n, rounds = n + 1 := ⟨rounds - 1, by simp at hrounds; omega⟩
      have hdone' : Slots.AreFilled (done ++ [(f, some v)]) := by
        intro slot hslot
        rcases List.mem_append.1 hslot with h | h
        · exact hdone slot h
        · rw [List.mem_singleton.1 h]
          rfl
      have hnames' : (((done ++ [(f, some v)]).map Prod.fst ++ left).map Field.name).Nodup := by
        simpa using hnames
      -- The name of the field is that of no other slot, before it or after it.
      rw [List.map_append, List.nodup_append] at hnames
      obtain ⟨-, hafter, hdisjoint⟩ := hnames
      rw [List.map_cons, List.nodup_cons] at hafter
      have hnext (lexemes : List Lexeme) :
          readMembers (rounds + 1) (done ++ (f :: left).map fun f => (f, none))
            (.text (f.name.toList.map some) :: .colon :: leaf v :: lexemes) =
          readOn rounds ((done ++ [(f, some v)]) ++ left.map fun f => (f, none)) lexemes := by
        have hmember : readMember (done ++ (f :: left).map fun f => (f, none)) f.name
            (.colon :: leaf v :: lexemes) =
            .ok (done ++ (f, some v) :: left.map fun f => (f, none), lexemes) := by
          refine readMember_next (fun slot hslot => ?_) (fun slot hslot => ?_)
            (f.read_leaf hreq hv lexemes)
          · exact hdisjoint _ (List.mem_map_of_mem (List.mem_map_of_mem hslot)) _ List.mem_cons_self
          · obtain ⟨g, hg, rfl⟩ := List.mem_map.1 hslot
            intro hname
            exact hafter.1 (hname ▸ List.mem_map_of_mem hg)
        rw [readMembers_text, textOf_map_some]
        show (readMember _ _ _).bind _ = _
        rw [hmember, List.append_assoc]
        rfl
      cases left with
      | nil =>
          cases hvalues
          show readMembers (rounds + 1) _
            (.text (f.name.toList.map some) :: .colon :: leaf v :: .closeObject :: lexemes) = _
          rw [hnext]
          show (Slots.values _).map _ = _
          rw [List.map_nil, List.append_nil, hdone'.values_eq]
          simp [Except.map]
      | cons g left =>
          cases values with
          | nil => cases hvalues
          | cons w values =>
              show readMembers (rounds + 1) _ (.text (f.name.toList.map some) :: .colon :: leaf v ::
                .comma :: (memberLexemes (((g :: left).map Field.name).zip (w :: values)) ++
                  .closeObject :: lexemes)) = _
              rw [hnext]
              show readMembers rounds _ _ = _
              rw [ih hdone' hnames' (by simp) hvalues hleft (by simp at hrounds ⊢; omega)]
              simp

theorem length_le_memberLexemes (fields : List (String × FieldValue)) :
    fields.length ≤ (memberLexemes fields).length := by
  fun_induction memberLexemes fields with
  | case1 => exact Nat.le_refl _
  | case2 f => simp
  | case3 f g fields ih => simp only [List.length_cons, List.length_append] at ih ⊢; omega

/-- A record that is written with all of its fields in their order is read. -/
theorem Record.read_flat {r : Record} (hne : r.fields ≠ [])
    (hnames : (r.fields.map Field.name).Nodup) (hvalues : HasValues r.fields values)
    (haccepts : Accepts r.fields values) :
    r.read (flat ((r.fields.map Field.name).zip values)).written.lexemes = .ok (values, []) := by
  have hnone : Slots.AreFilled [] := fun slot hslot => absurd hslot List.not_mem_nil
  have hlength := length_le_memberLexemes ((r.fields.map Field.name).zip values)
  rw [List.length_zip, List.length_map, hvalues.length_eq, Nat.min_self] at hlength
  have hread (rounds : Nat) (hrounds : r.fields.length ≤ rounds) :
      readMembers rounds r.slots (memberLexemes ((r.fields.map Field.name).zip values) ++
        [.closeObject]) = .ok (values, []) :=
    readMembers_memberLexemes hnone hnames hne hvalues haccepts hrounds []
  rw [written_flat]
  show r.read (.openObject :: (memberLexemes ((r.fields.map Field.name).zip values) ++
    [.closeObject])) = _
  -- The first member has a key, so the object does not end at once.
  have hopen : ∃ symbols lexemes, memberLexemes ((r.fields.map Field.name).zip values) =
      .text symbols :: lexemes := by
    generalize (r.fields.map Field.name).zip values = members at hlength
    match members with
    | [] => simp [memberLexemes, hne] at hlength
    | [_] => exact ⟨_, _, rfl⟩
    | _ :: _ :: _ => exact ⟨_, _, rfl⟩
  obtain ⟨symbols, lexemes, hopen⟩ := hopen
  rw [hopen] at hread hlength ⊢
  refine hread _ ?_
  simp only [List.append_eq, List.length_append, List.length_cons] at hlength ⊢
  omega

/-! ## Trees -/

/-- The members that have been written, as members of a value. -/
def membersOf (fields : List (String × FieldValue)) : List (List Symbol × Value) :=
  fields.map fun f => member f.1 (Request.textOrNull f.2)

theorem read_memberLexemes {limit : Option Nat} {awaited : Awaited}
    (hawaited : awaited = .key ∨ awaited = .keyOrEnd) (members : List (List Symbol × Value))
    (key : List Symbol) (fields : List (String × FieldValue)) (hne : fields ≠ [])
    (rest : List Lexeme) :
    (⟨[.object members key], awaited⟩ : ReadState).read limit
        (memberLexemes fields ++ .closeObject :: rest) =
      .ok (.object (members.reverse ++ membersOf fields), rest) := by
  have hnext (awaited : Awaited) (hawaited : awaited = .key ∨ awaited = .keyOrEnd)
      (members : List (List Symbol × Value)) (key : List Symbol) (f : String × FieldValue)
      (lexemes : List Lexeme) :
      (⟨[.object members key], awaited⟩ : ReadState).read limit
          (.text (f.1.toList.map some) :: .colon :: leaf f.2 :: lexemes) =
        (⟨[.object (member f.1 (Request.textOrNull f.2) :: members) (f.1.toList.map some)],
          .more⟩ : ReadState).read limit lexemes := by
    have hvalue (stack : List Frame) : ReadState.begin? limit stack (leaf f.2) =
        some (ReadState.deliver (Request.textOrNull f.2) stack) := by
      cases f.2 <;> rfl
    rcases hawaited with rfl | rfl <;>
      simp only [ReadState.read, ReadState.step?, hvalue, ReadState.deliver, Frame.add, member]
  induction fields generalizing awaited members key with
  | nil => exact absurd rfl hne
  | cons f fields ih =>
      cases fields with
      | nil =>
          show (ReadState.mk _ _).read limit
            (.text (f.1.toList.map some) :: .colon :: leaf f.2 :: .closeObject :: rest) = _
          rw [hnext awaited hawaited]
          simp [ReadState.read, ReadState.step?, ReadState.close?, Frame.close?, ReadState.deliver,
            membersOf]
      | cons g fields =>
          show (ReadState.mk _ _).read limit (.text (f.1.toList.map some) :: .colon :: leaf f.2 ::
            .comma :: (memberLexemes (g :: fields) ++ .closeObject :: rest)) = _
          rw [hnext awaited hawaited]
          show (ReadState.mk _ .key).read limit _ = _
          rw [ih (.inl rfl) _ _ (by simp)]
          simp [membersOf]

theorem isDecodable_flat (fields : List (String × FieldValue)) :
    (flat fields).isDecodable = true := by
  show areDecodableMembers (membersOf fields) = true
  induction fields with
  | nil => rfl
  | cons f fields ih =>
      have hvalue : (Request.textOrNull f.2).isDecodable = true := by
        cases f.2 <;> simp [Request.textOrNull, Value.ofString, Value.isDecodable]
      have hkey : (f.1.toList.map some).all Option.isSome = true := by simp
      show (_ && _ && areDecodableMembers (membersOf fields)) = true
      simp only [hkey, hvalue, ih, Bool.and_self]

/-- An object that has been written is read as the value that it was. -/
theorem readTree_flat (fields : List (String × FieldValue)) :
    readTree (flat fields).written.lexemes = .ok (flat fields, []) := by
  have hread : ReadState.start.read (some depthLimit)
      (.openObject :: memberLexemes fields ++ [.closeObject]) = .ok (flat fields, []) := by
    show (ReadState.mk [.object [] []] .keyOrEnd).read (some depthLimit)
      (memberLexemes fields ++ [.closeObject]) = _
    cases fields with
    | nil => rfl
    | cons f fields => exact read_memberLexemes (.inr rfl) [] [] (f :: fields) (by simp) []
  rw [written_flat, readTree, hread]
  dsimp only
  rw [if_pos (isDecodable_flat fields)]

end Playground.Json
