import Playground.Proofs.Json.Written
import Playground.Proofs.Request

set_option autoImplicit false

/-! # Requests and outcomes come back as they were

A request is written with the name of its language and read with any tag of it; an outcome is
written without saying which of the two it is, and is read as a success if it has an output at all.
Still what is read of anything that has been written is what it was: a name is one of the tags, and
a failure has no output, whatever its text says. Whatever way a request was written at first, it is
written with the name of its language the second time, and that changes nothing of it. -/

namespace Playground

open Json

/-- What is written is read as it was. -/
structure RoundTrips : Prop where
  request : ∀ r : Request, Request.ofDocument r.toJson.written = .ok r
  outcome : ∀ o : Outcome, Outcome.ofDocument o.toJson.written = .ok o
  /-- Successes are tried first, but no failure looks like one. -/
  failure : ∀ error kind output,
    Outcome.ofDocument (Outcome.failure error kind).toJson.written ≠ .ok (.success output)
  /-- What is answered for a failure has its wording and its kind. -/
  cause : ∀ f : Failure,
    Outcome.ofDocument (Outcome.ofExcept (.error f)).toJson.written =
      .ok (.failure f.message f.kind)
  /-- A request that has been read is the same when it is written and read again. Its fields hold
      what they held, but for the tag, which has become the name of its language. -/
  again : ∀ (d : Document) (r : Request), Request.ofDocument d = .ok r →
    Request.ofDocument r.toJson.written = .ok r ∧
      ∃ tag?, Request.IsLanguageOf tag? r.language ∧
        Http.executeRecord.read d.lexemes = .ok ([some r.code, tag?, r.input], []) ∧
        Http.executeRecord.read r.toJson.written.lexemes =
          .ok ([some r.code, r.language.map Language.name, r.input], [])
  /-- The same holds for the octets of what is written. -/
  octets : ∀ v : Value,
    Document.ofInput (Text.Utf8.decode (Text.Utf8.encode v.render)) = v.written

theorem isComplete_written_flat (fields : List (String × FieldValue)) :
    (flat fields).written.isComplete = true := by
  rw [written_flat]

/-! ## Requests -/

namespace Request

theorem toJson_eq (r : Request) :
    r.toJson = flat ((record.fields.map Field.name).zip
      [some r.code, r.language.map Language.name, r.input]) := rfl

/-- A name is a tag. -/
theorem ofTag?_name (l : Language) : Language.ofTag? l.name = some l := by
  cases l <;> decide

theorem read_written (r : Request) : record.read r.toJson.written.lexemes =
    .ok ([some r.code, r.language.map Language.name, r.input], []) := by
  have haccepts :
      Accepts record.fields [some r.code, r.language.map Language.name, r.input] := by
    refine accepts_iff.2 fun tag htag => tagRefusal_eq_none_iff.2 ?_
    obtain ⟨l, -, rfl⟩ := Option.map_eq_some_iff.1 htag
    exact ⟨l, by rw [Language.ofTag, ofTag?_name]⟩
  rw [toJson_eq]
  exact Record.read_flat (by decide) nodup_names (hasValues _ _ _) haccepts

theorem ofDocument_written (r : Request) : ofDocument r.toJson.written = .ok r := by
  have hlanguage : (r.language.map Language.name).bind Language.ofTag? = r.language := by
    cases r.language with
    | none => rfl
    | some l => rw [Option.map_some, Option.bind_some, ofTag?_name]
  have hread : read r.toJson.written.lexemes = .ok (r, []) := by
    rw [read, read_written]
    show Except.ok (Request.mk _ _ _, _) = _
    rw [hlanguage]
  refine Document.readAll_eq_ok_iff.2 ⟨?_, hread⟩
  rw [toJson_eq]
  exact isComplete_written_flat _

end Request

/-! ## Outcomes -/

namespace Outcome

theorem text?_ofString (s : String) : text? (.ofString s) = some s := by
  have h := textOf_map_some s
  unfold textOf at h
  unfold text? Value.ofString
  split at h
  · next cs hcs =>
      dsimp only
      rw [hcs]
      exact congrArg some (Except.ok.inj h)
  · cases h

theorem readKind?_name (k : Kind) : readKind? (.ofString k.name) = some k := by
  show (text? (.ofString k.name)).bind Kind.ofName? = some k
  rw [text?_ofString]
  exact k.ofName?_name

theorem ofJson_toJson (o : Outcome) : ofJson o.toJson = .ok o := by
  cases o with
  | success output =>
      have honly : only? "output" [member "output" (.ofString output)] =
          some (.ofString output) := by
        simp [only?, member]
      have hmembers : ofMembers? [member "output" (.ofString output)] = some (.success output) := by
        rw [ofMembers?, honly, Option.bind_some, text?_ofString]
      rw [toJson, ofJson, hmembers]
  | failure error kind =>
      have hmembers : ofMembers? [member "error" (.ofString error),
          member "kind" (.ofString kind.name)] = some (.failure error kind) := by
        have houtput : only? "output" [member "error" (.ofString error),
            member "kind" (.ofString kind.name)] = none := by
          simp [only?, member]
        have herror : only? "error" [member "error" (.ofString error),
            member "kind" (.ofString kind.name)] = some (.ofString error) := by
          simp [only?, member]
        have hkind : only? "kind" [member "error" (.ofString error),
            member "kind" (.ofString kind.name)] = some (.ofString kind.name) := by
          simp [only?, member]
        rw [ofMembers?, houtput, herror, hkind, Option.bind_some, Option.bind_some,
          text?_ofString, readKind?_name]
        rfl
      rw [toJson, ofJson, hmembers]

theorem ofDocument_written (o : Outcome) : ofDocument o.toJson.written = .ok o := by
  have hflat : ∃ fields, o.toJson = flat fields := by
    cases o with
    | success output => exact ⟨[("output", some output)], rfl⟩
    | failure error kind => exact ⟨[("error", some error), ("kind", some kind.name)], rfl⟩
  obtain ⟨fields, hfields⟩ := hflat
  have hread : read o.toJson.written.lexemes = .ok (o, []) := by
    have hjson := ofJson_toJson o
    rw [hfields] at hjson ⊢
    rw [read, readTree_flat]
    show (ofJson (flat fields) >>= _) = _
    rw [hjson]
    rfl
  refine Document.readAll_eq_ok_iff.2 ⟨?_, hread⟩
  rw [hfields]
  exact isComplete_written_flat _

end Outcome

/-! ## Both -/

theorem written_reads_as_it_was : RoundTrips where
  request := Request.ofDocument_written
  outcome := Outcome.ofDocument_written
  failure error kind output := by
    rw [Outcome.ofDocument_written]
    intro h
    cases h
  cause f := Outcome.ofDocument_written (Outcome.ofFailure f)
  again d r hr := by
    obtain ⟨-, tag?, hread, hlanguage⟩ := Request.ofDocument_eq_ok_iff.1 hr
    exact ⟨r.ofDocument_written, tag?, hlanguage, hread,
      (Request.read_eq_ok_iff.1 r.read_written).1⟩
  octets := ofInput_decode_encode

end Playground
