import Playground.Http.Endpoint
import Playground.Proofs.Json.Refusal
import Playground.Proofs.Language

set_option autoImplicit false

/-! # The two records of a request

Two records have the fields of a request: one checks the tag of the language while it is read, and
the other leaves that to whoever has read it. But for the name of the record, which only messages
tell, the second one is the first without its refusals (`Http.executeRecord_fields`), so the two are
read alike (`Request.read_eq_ok_iff`). -/

namespace Playground

open Json

theorem Http.executeRecord_fields :
    Http.executeRecord.fields = Request.record.fields.map Field.plain := rfl

namespace Request

variable {code tag : String} {tag? input : Option String} {values : List FieldValue}
  {lexemes rest : List Lexeme}

theorem nodup_names : (record.fields.map Field.name).Nodup := by decide

theorem tagRefusal_eq_none_iff : tagRefusal tag = none ↔ ∃ l, Language.ofTag tag = .ok l := by
  unfold tagRefusal
  cases Language.ofTag tag <;> simp

/-- The field of the tag. -/
def tagField : Field := ⟨"language", false, tagRefusal⟩

theorem refusal?_tagField (tag : String) : tagField.refusal? tag = tagRefusal tag := by
  simp only [tagField]

/-- The tag is the one text that may be refused. -/
theorem refusal?_of_record {i : Nat} {f : Field} {s : String}
    (hf : record.fields[i]? = some f) (hs : [some code, tag?, input][i]? = some (some s)) :
    f.refusal? s = none ∨ f = tagField ∧ tag? = some s := by
  match i with
  | 0 =>
      obtain rfl : Field.required "code" = f := Option.some.inj hf
      exact .inl rfl
  | 1 => exact .inr ⟨(Option.some.inj hf).symm, Option.some.inj hs⟩
  | 2 =>
      obtain rfl : Field.optional "input" = f := Option.some.inj hf
      exact .inl rfl
  | i + 3 => simp [record] at hf

theorem accepts_iff : Accepts record.fields [some code, tag?, input] ↔
    ∀ tag, tag? = some tag → tagRefusal tag = none := by
  constructor
  · intro h tag htag
    rw [← refusal?_tagField]
    exact h 1 tagField tag rfl (congrArg some htag)
  · intro h i f s hf hs
    rcases refusal?_of_record hf hs with hnone | ⟨rfl, htag⟩
    · exact hnone
    · rw [refusal?_tagField]
      exact h s htag

theorem refuses_iff {reason : String} : Refuses record.fields [some code, tag?, input] reason ↔
    ∃ tag, tag? = some tag ∧ tagRefusal tag = some reason := by
  constructor
  · rintro ⟨i, f, s, hf, hs, hreason⟩
    rcases refusal?_of_record hf hs with hnone | ⟨rfl, htag⟩
    · rw [hnone] at hreason
      cases hreason
    · rw [refusal?_tagField] at hreason
      exact ⟨s, htag, hreason⟩
  · rintro ⟨tag, rfl, hreason⟩
    rw [← refusal?_tagField] at hreason
    exact ⟨1, tagField, tag, rfl, rfl, hreason⟩

theorem hasValues (code : String) (tag? input : Option String) :
    HasValues record.fields [some code, tag?, input] :=
  .cons (fun _ => rfl) (.cons (fun h => by cases h) (.cons (fun h => by cases h) .nil))

theorem exists_of_hasValues (h : HasValues record.fields values) :
    ∃ code tag? input, values = [some code, tag?, input] := by
  cases h with
  | cons hcode hrest =>
      cases hrest with
      | cons _ hrest =>
          cases hrest with
          | cons _ hrest =>
              cases hrest
              obtain ⟨code, rfl⟩ := Option.isSome_iff_exists.1 (hcode rfl)
              exact ⟨code, _, _, rfl⟩

/-- The one that checks the tag reads what the other reads, if the tag may stand there. -/
theorem read_eq_ok_iff : record.read lexemes = .ok (values, rest) ↔
    Http.executeRecord.read lexemes = .ok (values, rest) ∧ Accepts record.fields values :=
  Record.read_eq_ok_iff Http.executeRecord_fields nodup_names

/-! ## Documents -/

/-- The language is the one that a tag stands for, if there is a tag. -/
inductive IsLanguageOf : Option String → Option Language → Prop where
  | none : IsLanguageOf none none
  | spelled {tag : String} {l : Language} (h : Language.Spells tag l) :
      IsLanguageOf (some tag) (some l)

theorem isLanguageOf_iff {l? : Option Language} :
    IsLanguageOf tag? l? ↔
      (∀ tag, tag? = some tag → tagRefusal tag = none) ∧ l? = tag?.bind Language.ofTag? := by
  constructor
  · intro h
    cases h with
    | none => exact ⟨fun tag htag => (by cases htag), rfl⟩
    | spelled h =>
        rw [Option.bind_some, Language.ofTag?_eq_some_iff.2 h]
        refine ⟨fun tag htag => ?_, rfl⟩
        obtain rfl := Option.some.inj htag
        exact tagRefusal_eq_none_iff.2 ⟨_, Language.ofTag_eq_ok_iff.2 h⟩
  · rintro ⟨haccepted, rfl⟩
    cases tag? with
    | none => exact .none
    | some tag =>
        obtain ⟨l, hl⟩ := tagRefusal_eq_none_iff.1 (haccepted tag rfl)
        have hspells := Language.ofTag_eq_ok_iff.1 hl
        rw [Option.bind_some, Language.ofTag?_eq_some_iff.2 hspells]
        exact .spelled hspells

theorem read_request_iff {r : Request} : read lexemes = .ok (r, rest) ↔
    ∃ tag?, Http.executeRecord.read lexemes = .ok ([some r.code, tag?, r.input], rest) ∧
      IsLanguageOf tag? r.language := by
  constructor
  · intro h
    obtain ⟨⟨values, rest'⟩, hread, h⟩ := bind_eq_ok_iff.1 h
    obtain ⟨r', hfields, h⟩ := bind_eq_ok_iff.1 h
    obtain ⟨rfl, rfl⟩ := Prod.mk.inj (Except.ok.inj h)
    obtain ⟨code, tag?, input, rfl⟩ :=
      exists_of_hasValues (Record.hasValues_of_read nodup_names hread)
    obtain rfl := Except.ok.inj hfields
    obtain ⟨hplain, haccepts⟩ := read_eq_ok_iff.1 hread
    exact ⟨tag?, hplain, isLanguageOf_iff.2 ⟨accepts_iff.1 haccepts, rfl⟩⟩
  · rintro ⟨tag?, hplain, hlanguage⟩
    obtain ⟨haccepted, hl⟩ := isLanguageOf_iff.1 hlanguage
    have hread := read_eq_ok_iff.2 ⟨hplain, accepts_iff.2 haccepted⟩
    rw [read, hread]
    show Except.ok (Request.mk _ _ _, rest) = _
    rw [← hl]

/-- A document is a request if the record that leaves the tag to others can be read from it and the
    tag stands for a language. -/
theorem ofDocument_eq_ok_iff {d : Document} {r : Request} :
    ofDocument d = .ok r ↔ d.isComplete = true ∧
      ∃ tag?, Http.executeRecord.read d.lexemes = .ok ([some r.code, tag?, r.input], []) ∧
        IsLanguageOf tag? r.language := by
  rw [ofDocument, Document.readAll_eq_ok_iff, read_request_iff]

end Request

end Playground
