import Playground.Proofs.Http.Answers
import Playground.Proofs.Json.Message
import Playground.Proofs.Json.Value
import Playground.Proofs.Json.Written
import Playground.Proofs.Request

set_option autoImplicit false

/-! # One request, however it comes in

A request comes in as a document or as a message with a document for its body. The document's reader
refuses a tag that stands for no language while it reads the record; the message's reader reads the
record first and looks at the tag afterwards. They take the same documents for the same requests,
and both read a tag as it is read anywhere else.

Of a tag that is refused all of them tell what it was, but for one case: where the reason is told as
the message of a document, words at its end that look like a place in a document are lost
(`TellsReason`). -/

namespace Playground.Http

open Json (Document FieldValue)
open Json.Mismatch (EndsInPlace)
open Playground.Request (IsLanguageOf)

/-- The document in the body of a message. -/
def Request.document (m : Request) : Document := Document.ofInput (Text.Utf8.decode m.body)

/-- A message for an execution whose body is looked at. -/
structure Request.AsksForExecution (m : Request) : Prop where
  method : m.method = "POST"
  path : Endpoint.ofPath? m.path = some .execute
  contentType : isJsonType ((m.header? "content-type").getD "") = true
  size : m.body.length ≤ bodyLimit

/-- These are the fields of the record that the document begins with. -/
def HasFields (d : Document) (fields : List FieldValue) : Prop :=
  ∃ rest, executeRecord.read d.lexemes = .ok (fields, rest)

/-- The message tells the reason, but for a place that the reason seems to end with. -/
structure TellsReason (message reason : String) : Prop where
  whole : (∀ words, ¬EndsInPlace reason words) → message = reason
  lost : ∀ words, EndsInPlace reason words → message = words

/-- Everything that reads the tag takes it for the language. -/
structure AcceptedByAll (words : FaultWords) (tag : String) (l : Language) : Prop where
  parsed : Language.ofTag tag = .ok l
  request : ∀ code, Playground.Request.tagged (some tag) code = .ok (.inLanguage l code)
  document : ∀ (d : Document) (code : String) (input : Option String),
    d.IsOneValue → HasFields d [some code, some tag, input] →
      Playground.Request.ofDocument d = .ok ⟨code, some l, input⟩
  message : ∀ (m : Request) (code : String) (input : Option String),
    m.AsksForExecution → HasFields m.document [some code, some tag, input] →
      handle words m = .execute ⟨code, some l, input⟩

/-- Everything that reads the tag says that it is not supported, and what it was. -/
structure RefusedByAll (words : FaultWords) (tag : String) : Prop where
  parsed : Language.ofTag tag = .error (.unsupportedLanguage tag)
  request : ∀ code, Playground.Request.tagged (some tag) code = .error (.unsupportedLanguage tag)
  document : ∀ (d : Document) (code : String) (input : Option String),
    HasFields d [some code, some tag, input] → ∃ mismatch,
      Playground.Request.ofDocument d = .error (.mismatch mismatch) ∧
        TellsReason mismatch.message ("Unsupported language: " ++ tag)
  message : ∀ (m : Request) (code : String) (input : Option String),
    m.AsksForExecution → HasFields m.document [some code, some tag, input] → ∃ response,
      handle words m = .respond response ∧ response.status = 400 ∧
        response.HasMembers [("error", "Unsupported language: " ++ tag),
          ("kind", Kind.unsupportedLanguage.name)]

/-- A document and a message are read alike, and so is a tag in them. -/
structure DecodersAgree (words : FaultWords) (d : Document) (m : Request) (tag : String) :
    Prop where
  document : d.IsOneValue → ∀ r, (Playground.Request.ofDocument d = .ok r ↔
    ∃ fields, HasFields d fields ∧ requestOf fields = .ok r)
  message : m.AsksForExecution → m.document.IsOneValue → ∀ r,
    (handle words m = .execute r ↔ Playground.Request.ofDocument m.document = .ok r)
  text : ∀ text : String, m.body = Text.Utf8.encode text.toList →
    m.document = Document.ofString text
  /-- Nothing is done to the fields but that the language is found for the tag. -/
  fields : ∀ (fields : List FieldValue) (r : Playground.Request), requestOf fields = .ok r ↔
    ∃ tag?, fields = [some r.code, tag?, r.input] ∧ IsLanguageOf tag? r.language
  accepted : ∀ l, Language.Spells tag l → AcceptedByAll words tag l
  refused : (∀ l, ¬Language.Spells tag l) → RefusedByAll words tag

variable {words : FaultWords} {m : Request} {d : Document} {r : Playground.Request}
  {fields : List FieldValue} {tag? : Option String} {tag code : String} {input : Option String} {l : Language}

/-! ## Fields -/

theorem tagged_of_isLanguageOf {l? : Option Language} (h : IsLanguageOf tag? l?) (code : String) :
    Playground.Request.tagged tag? code = .ok ⟨code, l?, none⟩ := by
  cases h with
  | none => rfl
  | spelled h =>
      rw [Playground.Request.tagged, Language.ofTag_eq_ok_iff.2 h]
      rfl

theorem requestOf_eq_ok_iff : requestOf fields = .ok r ↔
    ∃ tag?, fields = [some r.code, tag?, r.input] ∧ IsLanguageOf tag? r.language := by
  constructor
  · intro h
    unfold requestOf at h
    split at h
    · next code tag? input =>
        cases tag? with
        | none =>
            obtain rfl := Except.ok.inj h
            exact ⟨none, rfl, .none⟩
        | some tag =>
            simp only [Playground.Request.tagged] at h
            cases htag : Language.ofTag tag with
            | error failure =>
                rw [htag] at h
                cases h
            | ok l =>
                rw [htag] at h
                obtain rfl := Except.ok.inj h
                exact ⟨some tag, rfl, .spelled (Language.ofTag_eq_ok_iff.1 htag)⟩
    · cases h
  · rintro ⟨tag?, rfl, hlanguage⟩
    rw [requestOf, tagged_of_isLanguageOf hlanguage]

/-! ## Documents -/

theorem ofDocument_iff_requestOf (hd : d.IsOneValue) : Playground.Request.ofDocument d = .ok r ↔
    ∃ fields, HasFields d fields ∧ requestOf fields = .ok r := by
  rw [Playground.Request.ofDocument_eq_ok_iff]
  constructor
  · rintro ⟨-, tag?, hread, hlanguage⟩
    exact ⟨_, ⟨[], hread⟩, requestOf_eq_ok_iff.2 ⟨tag?, rfl, hlanguage⟩⟩
  · rintro ⟨fields, ⟨rest, hread⟩, hrequest⟩
    obtain ⟨tag?, rfl, hlanguage⟩ := requestOf_eq_ok_iff.1 hrequest
    obtain rfl := hd.rest_eq_nil hread
    exact ⟨hd.complete, tag?, hread, hlanguage⟩

theorem tellsReason_refused (reason : String) :
    TellsReason (Json.Mismatch.refused reason).message reason where
  whole := Json.Mismatch.withoutPlace_eq_self
  lost _ := Json.Mismatch.withoutPlace_of_endsInPlace

/-- A document with a tag that stands for no language is refused for it. -/
theorem ofDocument_of_refused (h : HasFields d [some code, some tag, input])
    (htag : ∀ l, ¬Language.Spells tag l) :
    Playground.Request.ofDocument d =
      .error (.mismatch (.refused (Failure.unsupportedLanguage tag).message)) := by
  obtain ⟨rest, hread⟩ := h
  have hrefusal :
      Playground.Request.tagRefusal tag = some (Failure.unsupportedLanguage tag).message := by
    rw [Playground.Request.tagRefusal, Language.ofTag_eq_error_iff.2 ⟨rfl, htag⟩]
  have hstrict := Json.Record.read_eq_refused executeRecord_fields
    Playground.Request.nodup_names hread (Playground.Request.refuses_iff.2 ⟨tag, rfl, hrefusal⟩)
    (fun other hother => by
      obtain ⟨tag', htag', hother⟩ := Playground.Request.refuses_iff.1 hother
      obtain rfl := Option.some.inj htag'
      exact Option.some.inj (hother.symm.trans hrefusal))
  rw [Playground.Request.ofDocument, Document.readAll, Playground.Request.read, hstrict]
  rfl

/-! ## Messages -/

theorem readBody_of_hasFields (words : FaultWords) (hm : m.AsksForExecution) :
    readBody words executeRecord m = .ok fields ↔ HasFields m.document fields := by
  unfold readBody HasFields Request.document
  rw [if_neg (by simp [hm.contentType]), if_neg (Nat.not_lt.2 hm.size)]
  cases executeRecord.read (Document.ofInput (Text.Utf8.decode m.body)).lexemes with
  | error fault => simp
  | ok result =>
      obtain ⟨fields', rest⟩ := result
      simp

theorem handle_eq_execute_iff (hm : m.AsksForExecution) : handle words m = .execute r ↔
    ∃ fields, HasFields m.document fields ∧ requestOf fields = .ok r := by
  rw [handle_execute hm.method hm.path, readRequest]
  simp only [← readBody_of_hasFields words hm]
  cases readBody words executeRecord m with
  | error refusal => simp
  | ok fields =>
      cases hrequest : requestOf fields with
      | error refusal => simp [hrequest]
      | ok request => simp [hrequest]

theorem handle_of_refused (hm : m.AsksForExecution)
    (h : HasFields m.document [some code, some tag, input])
    (htag : ∀ l, ¬Language.Spells tag l) :
    handle words m =
      .respond (Refusal.failed (.unsupportedLanguage tag)).response.forAnyOrigin := by
  rw [handle_execute hm.method hm.path, readRequest, (readBody_of_hasFields words hm).2 h]
  simp only [requestOf, Playground.Request.tagged, Language.ofTag_eq_error_iff.2 ⟨rfl, htag⟩]
  rfl

/-! ## Tags -/

theorem acceptedByAll (h : Language.Spells tag l) : AcceptedByAll words tag l where
  parsed := Language.ofTag_eq_ok_iff.2 h
  request := tagged_of_isLanguageOf (.spelled h)
  document _ _ _ hd hfields := (ofDocument_iff_requestOf hd).2
    ⟨_, hfields, requestOf_eq_ok_iff.2 ⟨some tag, rfl, .spelled h⟩⟩
  message _ _ _ hm hfields := (handle_eq_execute_iff hm).2
    ⟨_, hfields, requestOf_eq_ok_iff.2 ⟨some tag, rfl, .spelled h⟩⟩

theorem refusedByAll (h : ∀ l, ¬Language.Spells tag l) : RefusedByAll words tag where
  parsed := Language.ofTag_eq_error_iff.2 ⟨rfl, h⟩
  request code := by
    rw [Playground.Request.tagged, Language.ofTag_eq_error_iff.2 ⟨rfl, h⟩]
    rfl
  document _ _ _ hfields :=
    ⟨_, ofDocument_of_refused hfields h, tellsReason_refused _⟩
  message _ _ _ hm hfields := ⟨_, handle_of_refused hm hfields h, rfl, rfl, rfl⟩

/-! ## Agreement -/

theorem decoders_agree (words : FaultWords) (d : Document) (m : Request) (tag : String) :
    DecodersAgree words d m tag where
  document hd _ := ofDocument_iff_requestOf hd
  message hm hd _ := by
    rw [handle_eq_execute_iff hm, ofDocument_iff_requestOf hd]
  text text hbody := by
    rw [Request.document, hbody, Text.Utf8.decode_encode]
    rfl
  fields _ _ := requestOf_eq_ok_iff
  accepted _ := acceptedByAll
  refused := refusedByAll

/-- A tag that is refused, at whose end are words that look like a place. -/
def placed : String := "ruby at line 0 column 0"

/-- A request with the tag. -/
def asksForPlaced : Document := Document.ofString
  "\x7b\"code\":\"\",\"language\":\"ruby at line 0 column 0\",\"input\":null\x7d"

theorem hasFields_asksForPlaced : HasFields asksForPlaced [some "", some placed, none] := by
  have hwritten : asksForPlaced = (Json.flat ((executeRecord.fields.map Json.Field.name).zip
      [some "", some placed, none])).written := by
    have htext : String.ofList (Json.flat ((executeRecord.fields.map Json.Field.name).zip
        [some "", some placed, none])).render =
      "\x7b\"code\":\"\",\"language\":\"ruby at line 0 column 0\",\"input\":null\x7d" := by
      decide +kernel
    rw [Json.Value.written, htext]
    rfl
  refine ⟨[], ?_⟩
  rw [hwritten]
  refine Json.Record.read_flat (by decide) (by decide) ?_ ?_
  · exact .cons (fun _ => rfl) (.cons (fun h => by cases h) (.cons (fun h => by cases h) .nil))
  · rw [executeRecord_fields]
    exact Json.accepts_plain

/-- Read on its own the tag is told as it was given, and so is it in the answer to a message; but in
    the message for a document its end is lost. -/
theorem ofDocument_place_lost :
    Language.ofTag placed = .error (.unsupportedLanguage placed) ∧
      (Failure.unsupportedLanguage placed).message =
        "Unsupported language: ruby at line 0 column 0" ∧
      ∃ mismatch, Playground.Request.ofDocument asksForPlaced = .error (.mismatch mismatch) ∧
        mismatch.message = "Unsupported language: ruby" := by
  have hnone : Language.ofTag? placed = none := by decide +kernel
  have htag : Language.ofTag placed = .error (.unsupportedLanguage placed) := by
    rw [Language.ofTag, hnone]
  exact ⟨htag, by decide, _, ofDocument_of_refused hasFields_asksForPlaced
    (Language.ofTag_eq_error_iff.1 htag).2, by decide +kernel⟩

end Playground.Http
