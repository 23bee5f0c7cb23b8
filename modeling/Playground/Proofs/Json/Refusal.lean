import Playground.Proofs.Json.Record

set_option autoImplicit false

/-! # Records that refuse texts

A field may refuse some texts. A reader that refuses none, and leaves it to others to look at the
texts, sees the same documents otherwise: it reads the very values that the strict reader reads
where all of them are accepted, and where it fails the strict reader fails as well. A text that is
refused is refused while it is read, before the rest of the document has been looked at; so the
strict reader gives that reason if the document is a record at all, and may give it if it is none
(`Record.follows_read`). -/

namespace Playground.Json

/-- The field without its refusals. -/
def Field.plain (f : Field) : Field := { f with refusal? := fun _ => none }

/-- A record in which no field refuses a text. -/
def Slots.plain (slots : Slots) : Slots := slots.map fun slot => (slot.1.plain, slot.2)

/-- No text among the values is refused by the field that it is in. -/
def Accepts (fields : List Field) (values : List FieldValue) : Prop :=
  ∀ (i : Nat) (f : Field) (s : String), fields[i]? = some f → values[i]? = some (some s) →
    f.refusal? s = none

/-- A text among the values is refused by the field that it is in, for this reason. -/
def Refuses (fields : List Field) (values : List FieldValue) (reason : String) : Prop :=
  ∃ (i : Nat) (f : Field) (s : String), fields[i]? = some f ∧ values[i]? = some (some s) ∧
    f.refusal? s = some reason

theorem accepts_plain {fields : List Field} {values : List FieldValue} :
    Accepts (fields.map Field.plain) values := by
  intro i f s hf _
  rw [List.getElem?_map] at hf
  obtain ⟨g, -, rfl⟩ := Option.map_eq_some_iff.1 hf
  rfl

/-- How a reader of these fields fares, beside one that refuses no text. -/
inductive Follows (fields : List Field) :
    Except Fault (List FieldValue × List Lexeme) →
      Except Fault (List FieldValue × List Lexeme) → Prop where
  | failed (fault fault' : Fault) : Follows fields (.error fault) (.error fault')
  | accepted {values : List FieldValue} (rest : List Lexeme) (h : Accepts fields values) :
      Follows fields (.ok (values, rest)) (.ok (values, rest))
  | refused {values : List FieldValue} (rest : List Lexeme) {reason : String}
      (h : Refuses fields values reason) :
      Follows fields (.ok (values, rest)) (.error (.mismatch (.refused reason)))

variable {f : Field} {v : FieldValue} {slots slots' : Slots} {key : String}
  {fields : List Field} {values : List FieldValue} {lexemes rest : List Lexeme}

/-! ## One field -/

/-- A field is read as the plain one is, but for the texts that it refuses. -/
inductive FieldFollows (f : Field) :
    Except Fault (FieldValue × List Lexeme) → Except Fault (FieldValue × List Lexeme) → Prop where
  | failed (fault : Fault) : FieldFollows f (.error fault) (.error fault)
  | accepted {v : FieldValue} (rest : List Lexeme) (h : ∀ s, v = some s → f.refusal? s = none) :
      FieldFollows f (.ok (v, rest)) (.ok (v, rest))
  | refused {s : String} (rest : List Lexeme) {reason : String} (h : f.refusal? s = some reason) :
      FieldFollows f (.ok (some s, rest)) (.error (.mismatch (.refused reason)))

theorem Field.read_text (f : Field) (t : List Text.Utf8.Symbol) (rest : List Lexeme) :
    f.read (.text t :: rest) = (textOf t).bind fun s =>
      (f.refusal? s).elim (.ok (some s, rest)) fun reason =>
        .error (.mismatch (.refused reason)) := by
  rw [Field.read]
  cases textOf t with
  | error fault => rfl
  | ok s =>
      simp only [bind, Except.bind]
      cases f.refusal? s <;> rfl

theorem Field.follows_read (f : Field) (lexemes : List Lexeme) :
    FieldFollows f (f.plain.read lexemes) (f.read lexemes) := by
  cases lexemes with
  | nil => exact .failed _
  | cons l rest =>
      cases l with
      | text t =>
          rw [Field.read_text, Field.read_text]
          cases textOf t with
          | error fault => exact .failed fault
          | ok s =>
              show FieldFollows f (.ok (some s, rest)) (Option.elim (f.refusal? s) _ _)
              cases hrefusal : f.refusal? s with
              | some reason => exact .refused rest hrefusal
              | none =>
                  refine .accepted rest fun s' hs' => ?_
                  obtain rfl := Option.some.inj hs'
                  exact hrefusal
      | null =>
          cases hreq : f.isRequired with
          | true =>
              have hplain : f.plain.isRequired = true := hreq
              rw [Field.read, Field.read, if_pos hreq, if_pos hplain]
              exact .failed _
          | false =>
              have hreq : ¬f.isRequired = true := by simp [hreq]
              have hplain : ¬f.plain.isRequired = true := hreq
              rw [Field.read, Field.read, if_neg hreq, if_neg hplain]
              exact .accepted rest fun s hs => absurd hs (by simp)
      | _ => exact .failed _

/-! ## Slots -/

/-- No text that has been read is refused by the field that it is in. -/
def Slots.AreAccepted (slots : Slots) : Prop :=
  ∀ f s, (f, some (some s)) ∈ slots → f.refusal? s = none

theorem Slots.values_eq (h : slots.values = .ok values) :
    values = slots.map fun slot => slot.2.getD none := by
  induction slots generalizing values with
  | nil =>
      obtain rfl := Except.ok.inj h
      rfl
  | cons slot slots ih =>
      obtain ⟨f, value⟩ := slot
      unfold Slots.values at h
      split at h
      · next v =>
          obtain ⟨others, hothers, rfl⟩ := map_eq_ok_iff.1 h
          rw [ih hothers]
          rfl
      · split at h
        · cases h
        · obtain ⟨others, hothers, rfl⟩ := map_eq_ok_iff.1 h
          rw [ih hothers]
          rfl

theorem Slots.values_plain (slots : Slots) : slots.plain.values = slots.values := by
  induction slots with
  | nil => rfl
  | cons slot slots ih =>
      obtain ⟨f, value⟩ := slot
      show Slots.values ((f.plain, value) :: Slots.plain slots) = _
      cases value with
      | none => simp only [Slots.values, ih, Field.plain]
      | some v => simp only [Slots.values, ih]

theorem Slots.plain_fill (name : String) (v : FieldValue) (slots : Slots) :
    Slots.plain (slots.fill name v) = slots.plain.fill name v := by
  simp only [Slots.plain, Slots.fill, List.map_map]
  refine List.map_congr_left fun slot _ => ?_
  simp only [Function.comp_apply, Field.plain]
  split <;> rfl

theorem Slots.find?_plain (slots : Slots) (key : String) :
    slots.plain.find? (fun slot => slot.1.name == key) =
      (slots.find? fun slot => slot.1.name == key).map fun slot => (slot.1.plain, slot.2) := by
  rw [Slots.plain, List.find?_map]
  rfl

theorem Slots.map_name_plain (slots : Slots) :
    (slots.plain.map Prod.fst).map Field.name = (slots.map Prod.fst).map Field.name := by
  simp [Slots.plain, Field.plain, Function.comp_def]

theorem Slots.AreAccepted.accepts (hs : slots.AreAccepted) (h : slots.values = .ok values) :
    Accepts (slots.map Prod.fst) values := by
  intro i f s hf hs'
  rw [Slots.values_eq h, List.getElem?_map] at hs'
  rw [List.getElem?_map] at hf
  obtain ⟨slot, hslot, rfl⟩ := Option.map_eq_some_iff.1 hf
  rw [hslot, Option.map_some, Option.some.injEq] at hs'
  obtain ⟨f, value⟩ := slot
  obtain rfl : value = some (some s) := by
    cases value with
    | none => cases hs'
    | some v => rw [show v = some s from hs']
  exact hs f s (List.mem_of_getElem? hslot)

theorem Slots.AreAccepted.fill (hs : slots.AreAccepted)
    (h : ∀ g ∈ slots.map Prod.fst, g.name = key → ∀ s, v = some s → g.refusal? s = none) :
    (slots.fill key v).AreAccepted := by
  intro g s hg
  obtain ⟨⟨g', value⟩, hslot, heq⟩ := List.mem_map.1 hg
  dsimp only at heq
  split at heq
  · next hname =>
      obtain ⟨rfl, hvalue⟩ := Prod.mk.inj heq
      exact h g' (List.mem_map_of_mem hslot) hname s (Option.some.inj hvalue)
  · obtain ⟨rfl, rfl⟩ := Prod.mk.inj heq
    exact hs g' s hslot

/-! ## Objects -/

/-- What has been read into a slot stays there. -/
theorem readMember_keeps {i : Nat} (hnames : ((slots.map Prod.fst).map Field.name).Nodup)
    (h : readMember slots key lexemes = .ok (slots', rest)) (hi : slots[i]? = some (f, some v)) :
    slots'[i]? = some (f, some v) := by
  obtain ⟨body, -, ⟨g, v', hfind, -, rfl⟩ | ⟨-, rfl⟩⟩ := cases_of_readMember h
  · have hname : f.name ≠ key := by
      intro hname
      -- The slot that is to be filled would be this one, which is not empty.
      have hkey : g.name = key := by simpa using List.find?_some hfind
      have hslot : ((g, none) : Field × Option FieldValue) = (f, some v) :=
        List.inj_on_of_nodup_map (f := fun slot => slot.1.name)
          (by rwa [List.map_map] at hnames) (List.mem_of_find?_eq_some hfind)
          (List.mem_of_getElem? hi) (hkey.trans hname.symm)
      cases hslot
    rw [Slots.fill, List.getElem?_map, hi, Option.map_some, if_neg hname]
  · exact hi

theorem values_of_end {i : Nat}
    (h : slots.values.map (fun values => (values, lexemes)) = .ok (values, rest))
    (hi : slots[i]? = some (f, some v)) : values[i]? = some v := by
  obtain ⟨all, hall, heq⟩ := map_eq_ok_iff.1 h
  obtain ⟨rfl, -⟩ := Prod.mk.inj heq
  rw [Slots.values_eq hall, List.getElem?_map, hi]
  rfl

/-- Reads what follows a member: other members, or the end of the object. -/
def readOn (rounds : Nat) (slots : Slots) (lexemes : List Lexeme) :
    Except Fault (List FieldValue × List Lexeme) :=
  match lexemes with
  | .comma :: rest => readMembers rounds slots rest
  | .closeObject :: rest => slots.values.map fun values => (values, rest)
  | _ => .error .syntaxError

theorem readMembers_text (rounds : Nat) (slots : Slots) (symbols : List Text.Utf8.Symbol)
    (lexemes : List Lexeme) :
    readMembers (rounds + 1) slots (.text symbols :: lexemes) =
      (textOf symbols).bind fun key => (readMember slots key lexemes).bind fun read =>
        readOn rounds read.1 read.2 := rfl

theorem readOn_keeps {rounds i : Nat} (hnames : ((slots.map Prod.fst).map Field.name).Nodup)
    (h : readOn rounds slots lexemes = .ok (values, rest)) (hi : slots[i]? = some (f, some v)) :
    values[i]? = some v := by
  induction rounds generalizing slots lexemes with
  | zero =>
      unfold readOn at h
      split at h
      · simp [readMembers] at h
      · exact values_of_end h hi
      · cases h
  | succ rounds ih =>
      unfold readOn at h
      split at h
      · next after =>
        cases after with
        | nil => simp [readMembers] at h
        | cons l after =>
            cases l with
            | text symbols =>
                rw [readMembers_text] at h
                obtain ⟨name, -, h⟩ := bind_eq_ok_iff.1 h
                obtain ⟨⟨slots', left⟩, hmember, h⟩ := bind_eq_ok_iff.1 h
                refine ih ?_ h (readMember_keeps hnames hmember hi)
                rwa [map_fst_of_readMember hmember]
            | _ => simp [readMembers] at h
      · exact values_of_end h hi
      · cases h

/-- How a member is read beside a reader that refuses no text. -/
inductive MemberFollows (slots : Slots) :
    Except Fault (Slots × List Lexeme) → Except Fault (Slots × List Lexeme) → Prop where
  | failed (fault fault' : Fault) : MemberFollows slots (.error fault) (.error fault')
  | accepted {slots' : Slots} (rest : List Lexeme) (h : slots.AreAccepted → slots'.AreAccepted)
      (hfields : slots'.map Prod.fst = slots.map Prod.fst) :
      MemberFollows slots (.ok (slots'.plain, rest)) (.ok (slots', rest))
  | refused {slots' : Slots} (rest : List Lexeme) {i : Nat} {f : Field} {s reason : String}
      (hi : slots'[i]? = some (f, some (some s))) (h : f.refusal? s = some reason)
      (hfields : slots'.map Prod.fst = slots.map Prod.fst) :
      MemberFollows slots (.ok (slots'.plain, rest)) (.error (.mismatch (.refused reason)))

theorem follows_readMember (hnames : ((slots.map Prod.fst).map Field.name).Nodup) (key : String)
    (lexemes : List Lexeme) :
    MemberFollows slots (readMember slots.plain key lexemes) (readMember slots key lexemes) := by
  unfold readMember
  rw [slots.find?_plain]
  cases hfind : slots.find? fun slot => slot.1.name == key with
  | none =>
      cases lexemes with
      | nil => exact .failed _ _
      | cons l rest =>
          cases l with
          | colon =>
              show MemberFollows slots ((skipValue rest).map _) ((skipValue rest).map _)
              cases skipValue rest with
              | error fault => exact .failed _ _
              | ok rest => exact .accepted rest id rfl
          | _ => exact .failed _ _
  | some slot =>
      obtain ⟨f, value⟩ := slot
      cases value with
      | some v => exact .failed _ _
      | none =>
          cases lexemes with
          | nil => exact .failed _ _
          | cons l rest =>
              cases l with
              | colon =>
                  have hmem := List.mem_of_find?_eq_some hfind
                  have hkey : f.name = key := by simpa using List.find?_some hfind
                  show MemberFollows slots ((f.plain.read rest).map _) ((f.read rest).map _)
                  have hread := f.follows_read rest
                  generalize f.plain.read rest = lenient, f.read rest = strict at hread ⊢
                  cases hread with
                  | failed fault => exact .failed _ _
                  | @accepted v rest h =>
                      show MemberFollows slots (.ok (slots.plain.fill key v, rest)) _
                      rw [← slots.plain_fill]
                      refine .accepted rest (fun hs => hs.fill fun g hg hname => ?_)
                        (slots.map_fst_fill key v)
                      obtain rfl : g = f := List.inj_on_of_nodup_map hnames hg
                        (List.mem_map_of_mem hmem) (hname.trans hkey.symm)
                      exact h
                  | @refused s rest reason h =>
                      show MemberFollows slots (.ok (slots.plain.fill key (some s), rest)) _
                      rw [← slots.plain_fill]
                      obtain ⟨i, hi⟩ := List.getElem?_of_mem hmem
                      refine .refused rest (i := i) ?_ h (slots.map_fst_fill key _)
                      rw [Slots.fill, List.getElem?_map, hi, Option.map_some, if_pos hkey]
              | _ => exact .failed _ _

theorem follows_of_refused {lenient : Except Fault (List FieldValue × List Lexeme)}
    {reason : String}
    (h : ∀ values rest, lenient = .ok (values, rest) → Refuses fields values reason) :
    Follows fields lenient (.error (.mismatch (.refused reason))) := by
  cases lenient with
  | error fault => exact .failed _ _
  | ok read => exact .refused read.2 (h read.1 read.2 rfl)

theorem follows_readMembers {rounds : Nat} (hnames : ((slots.map Prod.fst).map Field.name).Nodup)
    (hs : slots.AreAccepted) :
    Follows (slots.map Prod.fst) (readMembers rounds slots.plain lexemes)
      (readMembers rounds slots lexemes) := by
  induction rounds generalizing slots lexemes with
  | zero =>
      simp only [readMembers]
      exact .failed _ _
  | succ rounds ih =>
      cases lexemes with
      | nil =>
          simp only [readMembers]
          exact .failed _ _
      | cons l after =>
          cases l with
          | text symbols =>
              rw [readMembers_text, readMembers_text]
              cases textOf symbols with
              | error fault => exact .failed _ _
              | ok key =>
                  show Follows _ ((readMember slots.plain key after).bind _)
                    ((readMember slots key after).bind _)
                  have hmember := follows_readMember hnames key after
                  generalize readMember slots.plain key after = lenient,
                    readMember slots key after = strict at hmember ⊢
                  cases hmember with
                  | failed => exact .failed _ _
                  | @accepted slots' rest h hfields =>
                      show Follows _ (readOn rounds slots'.plain rest) (readOn rounds slots' rest)
                      rw [← hfields] at hnames ⊢
                      unfold readOn
                      split
                      · exact ih hnames (h hs)
                      · rw [slots'.values_plain]
                        cases hvalues : slots'.values with
                        | error fault => exact .failed _ _
                        | ok values => exact .accepted _ ((h hs).accepts hvalues)
                      · exact .failed _ _
                  | @refused slots' rest i f s reason hi h hfields =>
                      rw [← hfields] at hnames ⊢
                      refine follows_of_refused fun values left hread => ?_
                      have hplain : slots'.plain[i]? = some (f.plain, some (some s)) := by
                        rw [Slots.plain, List.getElem?_map, hi]
                        rfl
                      refine ⟨i, f, s, by rw [List.getElem?_map, hi]; rfl, ?_, h⟩
                      exact readOn_keeps (by rwa [slots'.map_name_plain]) hread hplain
          | _ =>
              simp only [readMembers]
              exact .failed _ _

/-! ## Arrays -/

theorem accepts_cons (hv : ∀ s, v = some s → f.refusal? s = none) (h : Accepts fields values) :
    Accepts (f :: fields) (v :: values) := by
  intro i g s hg hs
  cases i with
  | zero =>
      obtain rfl := Option.some.inj hg
      exact hv s (Option.some.inj hs)
  | succ i => exact h i g s hg hs

theorem Follows.cons {lenient strict : Except Fault (List FieldValue × List Lexeme)}
    (hv : ∀ s, v = some s → f.refusal? s = none) (h : Follows fields lenient strict) :
    Follows (f :: fields) (lenient.map fun read => (v :: read.1, read.2))
      (strict.map fun read => (v :: read.1, read.2)) := by
  cases h with
  | failed => exact .failed _ _
  | accepted rest h => exact .accepted rest (accepts_cons hv h)
  | refused rest h =>
      obtain ⟨i, g, s, hg, hs, hreason⟩ := h
      exact .refused rest ⟨i + 1, g, s, hg, hs, hreason⟩

/-- The items of an array; the records differ in nothing but their names and the refusals. -/
theorem follows_readItems (r r' : Record) (position : Nat) (fields : List Field)
    (lexemes : List Lexeme) :
    Follows fields (readItems r' position (fields.map Field.plain) lexemes)
      (readItems r position fields lexemes) := by
  induction fields generalizing position lexemes with
  | nil =>
      rw [List.map_nil]
      unfold readItems
      split
      · exact .accepted _ fun i f s hf => absurd hf (by simp)
      · exact .failed _ _
      · contradiction
  | cons f fields ih =>
      -- A field whose item comes next, and the fields after it.
      have hnext : ∀ items, Follows (f :: fields)
          ((f.plain.read items).bind fun first =>
            (readItems r' (position + 1) (fields.map Field.plain) first.2).map fun others =>
              (first.1 :: others.1, others.2))
          ((f.read items).bind fun first =>
            (readItems r (position + 1) fields first.2).map fun others =>
              (first.1 :: others.1, others.2)) := by
        intro items
        have hread := f.follows_read items
        generalize f.plain.read items = lenient, f.read items = strict at hread ⊢
        cases hread with
        | failed fault => exact .failed _ _
        | accepted rest h => exact (ih (position + 1) rest).cons h
        | @refused s rest reason h =>
            refine follows_of_refused fun values left hread => ?_
            obtain ⟨others, -, heq⟩ := map_eq_ok_iff.1 hread
            obtain ⟨rfl, -⟩ := Prod.mk.inj heq
            exact ⟨0, f, s, rfl, rfl, h⟩
      rw [List.map_cons]
      unfold readItems
      split
      · exact .failed _ _
      · by_cases hreq : f.isRequired = true
        · rw [if_pos hreq, if_pos (show f.plain.isRequired = true from hreq)]
          exact .failed _ _
        · rw [if_neg hreq, if_neg (show ¬f.plain.isRequired = true from hreq)]
          exact (ih position _).cons fun s hs => absurd hs (by simp)
      · dsimp only
        split
        · exact hnext _
        · split
          · split
            · exact .failed _ _
            · exact hnext _
          · exact .failed _ _

/-! ## Records -/

theorem Record.areAccepted_slots (r : Record) : r.slots.AreAccepted := by
  intro f s hf
  simp [Record.slots] at hf

/-- A record whose fields may refuse texts is read as the one whose fields refuse none. -/
theorem Record.follows_read {r r' : Record} (hfields : r'.fields = r.fields.map Field.plain)
    (hnames : (r.fields.map Field.name).Nodup) (lexemes : List Lexeme) :
    Follows r.fields (r'.read lexemes) (r.read lexemes) := by
  have hslots := r.map_fst_slots
  have hplain : r'.slots = r.slots.plain := by
    simp [Record.slots, Slots.plain, hfields, Function.comp_def]
  rw [← hslots] at hnames
  unfold Record.read
  split
  · exact .failed _ _
  · rw [hplain, r.slots.values_plain]
    cases hvalues : r.slots.values with
    | error fault => exact .failed _ _
    | ok values =>
        rw [← hslots]
        exact .accepted _ (r.areAccepted_slots.accepts hvalues)
  · rw [hplain, ← hslots]
    exact follows_readMembers hnames r.areAccepted_slots
  · rw [hfields]
    exact follows_readItems r r' 0 r.fields _
  · exact .failed _ _

/-- What the strict reader accepts is what the lenient one reads, if no text of it is refused. -/
theorem Record.read_eq_ok_iff {r r' : Record} (hfields : r'.fields = r.fields.map Field.plain)
    (hnames : (r.fields.map Field.name).Nodup) :
    r.read lexemes = .ok (values, rest) ↔
      r'.read lexemes = .ok (values, rest) ∧ Accepts r.fields values := by
  have hfollows := Record.follows_read hfields hnames lexemes
  generalize r'.read lexemes = lenient, r.read lexemes = strict at hfollows ⊢
  cases hfollows with
  | failed => simp
  | accepted rest' h =>
      constructor
      · intro heq
        cases heq
        exact ⟨rfl, h⟩
      · exact And.left
  | refused rest' h =>
      obtain ⟨i, f, s, hf, hs, hreason⟩ := h
      refine ⟨fun heq => (by cases heq), fun ⟨heq, haccepts⟩ => ?_⟩
      cases heq
      rw [haccepts i f s hf hs] at hreason
      cases hreason

/-- A record that the lenient reader reads is refused for a text in it. -/
theorem Record.read_eq_refused {r r' : Record} {reason : String}
    (hfields : r'.fields = r.fields.map Field.plain) (hnames : (r.fields.map Field.name).Nodup)
    (hread : r'.read lexemes = .ok (values, rest)) (h : Refuses r.fields values reason)
    (honly : ∀ other, Refuses r.fields values other → other = reason) :
    r.read lexemes = .error (.mismatch (.refused reason)) := by
  have hfollows := Record.follows_read hfields hnames lexemes
  rw [hread] at hfollows
  generalize r.read lexemes = strict at hfollows
  cases hfollows with
  | accepted rest' haccepts =>
      obtain ⟨i, f, s, hf, hs, hreason⟩ := h
      rw [haccepts i f s hf hs] at hreason
      cases hreason
  | refused rest' h' => rw [honly _ h']

end Playground.Json
