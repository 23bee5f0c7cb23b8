import Playground.Http.Endpoint
import Playground.Proofs.Json.Record
import Playground.Proofs.Service.Untouched

set_option autoImplicit false

/-! # One rule for all answers

A message for an execution is answered with one of two objects: an output, or an error and its kind.
The kind alone decides the status, and it does so in the same way for what is refused before the
service sees it and for what comes of an execution, although the two answers are made in different
places. A body that cannot be read is always the caller's fault. Nothing is done for a request that
the caller is to blame for, and no message at all is answered as if the server were at fault. -/

namespace Playground.Http

open Json (Record FieldValue Document Fault HasValues)
open Service (Site)

/-! ## Answers -/

/-- The status that goes with a kind of failure. -/
def statusOf (kind : Kind) : Nat :=
  if kind = .malformedRequest ∨ kind = .unsupportedLanguage then 400 else 200

/-- The response has an object with these very members for its body. -/
def Response.HasMembers (r : Response) (members : List (String × String)) : Prop :=
  r.contentType = some "application/json" ∧
    r.body = .json (.object (members.map fun m => Json.member m.1 (.ofString m.2)))

/-- The response tells an output, or else an error and its kind; the status goes with that. -/
inductive IsAnswer (r : Response) : Prop where
  | success (output : String) (hbody : r.HasMembers [("output", output)]) (hstatus : r.status = 200)
  | failure (error : String) (kind : Kind)
      (hbody : r.HasMembers [("error", error), ("kind", kind.name)])
      (hstatus : r.status = statusOf kind)

/-- The response tells that a message is refused for a reason of this kind. -/
def Refuses (r : Response) (kind : Kind) : Prop :=
  r.status = 400 ∧ ∃ error, r.HasMembers [("error", error), ("kind", kind.name)]

/-- Why the body of a message is not read as a record. -/
inductive BodyRejected (record : Record) (r : Request) : Prop where
  | contentType (h : isJsonType ((r.header? "content-type").getD "") = false)
  | size (h : bodyLimit < r.body.length)
  | contents (fault : Fault)
      (h : record.read (Document.ofInput (Text.Utf8.decode r.body)).lexemes = .error fault)

/-- The record that an endpoint reads. -/
def Endpoint.record? : Endpoint → Option Record
  | .classify => some classifyRecord
  | .execute => some executeRecord
  | _ => none

/-- How a message is answered by a server whose service began as `v`, whatever it adds about faults
    in bodies. -/
structure AnswersByRule (words : FaultWords) (v : Service) (r : Request) : Prop where
  /-- A message for an execution is refused or handed on. -/
  execute : r.method = "POST" → Endpoint.ofPath? r.path = some .execute →
    (∃ response kind, handle words r = .respond response ∧ Refuses response kind ∧
      (kind = .malformedRequest ∨ kind = .unsupportedLanguage)) ∨
    ∃ request, handle words r = .execute request ∧ readRequest words r = .ok request
  /-- Whatever comes of what is handed on. -/
  executed : ∀ outcome, IsAnswer (executed outcome)
  rejected : r.method = "POST" → ∀ endpoint record, Endpoint.ofPath? r.path = some endpoint →
    endpoint.record? = some record → BodyRejected record r →
    ∃ response, handle words r = .respond response ∧ Refuses response .malformedRequest
  /-- Nothing is done for a request that its caller is to blame for, from before it arrives until
      long after it is answered. -/
  untouched : ∀ request, handle words r = .execute request →
    ∀ a b outcome kind, Relation.ReflTransGen Site.Moves ⟨v, []⟩ a →
      Relation.ReflTransGen Site.Moves { a with service := a.service.submit request } b →
      b.service.outcome? a.service.jobs.length = some outcome → outcome.kind? = some kind →
      (kind = .malformedRequest ∨ kind = .unsupportedLanguage) →
      ∀ c, Relation.ReflTransGen Site.Moves ⟨v, []⟩ c →
        Relation.ReflTransGen Site.Moves c b ∨ Relation.ReflTransGen Site.Moves b c →
        c.IsUntouched a.service.jobs.length
  /-- A message for a guess is answered with the guess for its code, or else refused. -/
  classify : r.method = "POST" → Endpoint.ofPath? r.path = some .classify →
    (¬BodyRejected classifyRecord r ∧ ∃ code, readBody words classifyRecord r = .ok [some code] ∧
      handle words r = .respond (classified (Source.detect code)).forAnyOrigin) ∨
    BodyRejected classifyRecord r ∧
      ∃ response, handle words r = .respond response ∧ Refuses response .malformedRequest
  no_server_error : ∀ response,
    (handle words r = .respond response ∨
      ∃ request outcome, handle words r = .execute request ∧ response = Http.executed outcome) →
    response.status < 500

variable {words : FaultWords} {r : Request} {record : Record} {endpoint : Endpoint}
  {response : Response}

/-! ## Bodies -/

theorem readBody_eq_error_iff :
    (∃ refusal, readBody words record r = .error refusal) ↔ BodyRejected record r := by
  unfold readBody
  constructor
  · rintro ⟨refusal, h⟩
    split at h
    · next htype => exact .contentType htype
    · split at h
      · next hsize => exact .size hsize
      · split at h
        · cases h
        · next fault hfault => exact .contents fault hfault
  · intro h
    split
    · exact ⟨_, rfl⟩
    · next htype =>
        split
        · exact ⟨_, rfl⟩
        · next hsize =>
            cases h with
            | contentType h => exact absurd h htype
            | size h => exact absurd h hsize
            | contents fault h => exact ⟨.ofFault (words record r.body fault) fault, by rw [h]⟩

/-- Whatever is wrong with a body, the message is malformed. -/
theorem exists_reason_of_readBody {refusal : Refusal}
    (h : readBody words record r = .error refusal) :
    ∃ reason, refusal = .malformedRequest reason := by
  unfold readBody at h
  split at h
  · obtain rfl := Except.error.inj h
    exact ⟨_, rfl⟩
  · split at h
    · obtain rfl := Except.error.inj h
      exact ⟨_, rfl⟩
    · split at h
      · cases h
      · next fault _ =>
          obtain rfl := Except.error.inj h
          cases fault <;> exact ⟨_, rfl⟩

theorem hasValues_of_readBody {values : List FieldValue}
    (hnames : (record.fields.map Json.Field.name).Nodup)
    (h : readBody words record r = .ok values) :
    HasValues record.fields values := by
  unfold readBody at h
  split at h
  · cases h
  · split at h
    · cases h
    · split at h
      · next fields rest hread =>
          obtain rfl := Except.ok.inj h
          exact Record.hasValues_of_read hnames hread
      · cases h

theorem exists_code_of_readBody {values : List FieldValue}
    (h : readBody words classifyRecord r = .ok values) : ∃ code, values = [some code] := by
  have hvalues := hasValues_of_readBody (by decide) h
  cases hvalues with
  | cons hcode hrest =>
      cases hrest
      obtain ⟨code, rfl⟩ := Option.isSome_iff_exists.1 (hcode rfl)
      exact ⟨code, rfl⟩

theorem exists_fields_of_readBody {values : List FieldValue}
    (h : readBody words executeRecord r = .ok values) :
    ∃ code tag input, values = [some code, tag, input] := by
  have hvalues := hasValues_of_readBody (by decide) h
  cases hvalues with
  | cons hcode hrest =>
      cases hrest with
      | cons _ hrest =>
          cases hrest with
          | cons _ hrest =>
              cases hrest
              obtain ⟨code, rfl⟩ := Option.isSome_iff_exists.1 (hcode rfl)
              exact ⟨code, _, _, rfl⟩

/-! ## Refusals -/

theorem refuses_malformed (reason : String) :
    Refuses (Refusal.malformedRequest reason).response.forAnyOrigin .malformedRequest :=
  ⟨rfl, _, rfl, rfl⟩

theorem refuses_unsupported (tag : String) :
    Refuses (Refusal.failed (.unsupportedLanguage tag)).response.forAnyOrigin
      .unsupportedLanguage :=
  ⟨rfl, _, rfl, rfl⟩

/-- A request is refused for its body, or for a tag that stands for no language. -/
theorem refusal_cases {refusal : Refusal} (h : readRequest words r = .error refusal) :
    (∃ reason, refusal = .malformedRequest reason) ∨
      ∃ tag, refusal = .failed (.unsupportedLanguage tag) := by
  unfold readRequest at h
  split at h
  · next values hread =>
      obtain ⟨code, tag, input, rfl⟩ := exists_fields_of_readBody hread
      unfold requestOf at h
      cases tag with
      | none => cases h
      | some tag =>
          simp only [Playground.Request.tagged, Language.ofTag] at h
          cases htag : Language.ofTag? tag with
          | some l =>
              rw [htag] at h
              cases h
          | none =>
              rw [htag] at h
              obtain rfl := Except.error.inj h
              exact .inr ⟨tag, rfl⟩
  · next refusal' hread =>
      obtain rfl := Except.error.inj h
      exact .inl (exists_reason_of_readBody hread)

/-! ## Messages -/

theorem handle_post (hpost : r.method = "POST") (hpath : Endpoint.ofPath? r.path = some endpoint)
    (hknown : "POST" ∈ endpoint.methods) :
    handle words r = match endpoint.handle words r with
      | .respond response => .respond response.forAnyOrigin
      | .execute request => .execute request := by
  unfold handle route
  rw [hpath]
  simp only [hpost, if_pos hknown]
  cases endpoint.handle words r <;> rfl

theorem handle_classify (hpost : r.method = "POST")
    (hpath : Endpoint.ofPath? r.path = some .classify) :
    handle words r = .respond (answerClassify words r).forAnyOrigin := by
  rw [handle_post hpost hpath (by decide)]
  rfl

theorem handle_execute (hpost : r.method = "POST")
    (hpath : Endpoint.ofPath? r.path = some .execute) :
    handle words r = match readRequest words r with
      | .ok request => .execute request
      | .error refusal => .respond refusal.response.forAnyOrigin := by
  rw [handle_post hpost hpath (by decide), Endpoint.handle]
  cases readRequest words r <;> rfl

theorem isAnswer_executed (outcome : Outcome) : IsAnswer (executed outcome) := by
  cases outcome with
  | success output => exact .success output ⟨rfl, rfl⟩ rfl
  | failure error kind => exact .failure error kind ⟨rfl, rfl⟩ (by cases kind <;> rfl)

theorem statusOf_lt (kind : Kind) : statusOf kind < 500 := by
  cases kind <;> decide

theorem IsAnswer.status_lt (h : IsAnswer response) : response.status < 500 := by
  cases h with
  | success output hbody hstatus => omega
  | failure error kind hbody hstatus =>
      rw [hstatus]
      exact statusOf_lt kind

theorem blamesCaller_of_kind {outcome : Outcome} {kind : Kind}
    (h : outcome.kind? = some kind)
    (hkind : kind = .malformedRequest ∨ kind = .unsupportedLanguage) :
    outcome.blamesCaller = true := by
  rw [Outcome.blamesCaller, h]
  rcases hkind with rfl | rfl <;> rfl

/-! ## Statuses -/

theorem status_of_refusal {refusal : Refusal} (h : (∃ reason, refusal = .malformedRequest reason) ∨
    ∃ tag, refusal = .failed (.unsupportedLanguage tag)) : refusal.response.status = 400 := by
  rcases h with ⟨reason, rfl⟩ | ⟨tag, rfl⟩ <;> rfl

theorem status_answerClassify (words : FaultWords) (r : Request) :
    (answerClassify words r).status = 200 ∨ (answerClassify words r).status = 400 := by
  unfold answerClassify
  split
  · next refusal hread =>
      exact .inr (status_of_refusal (.inl (exists_reason_of_readBody hread)))
  · exact .inl rfl
  · exact .inr rfl

theorem Endpoint.status_of_handle (h : endpoint.handle words r = .respond response) :
    response.status = 200 ∨ response.status = 400 := by
  cases endpoint with
  | health | index =>
      obtain rfl := Handling.respond.inj h
      exact .inl rfl
  | classify =>
      obtain rfl := Handling.respond.inj h
      exact status_answerClassify words r
  | execute =>
      rw [Endpoint.handle] at h
      split at h
      · cases h
      · next refusal hread =>
          obtain rfl := Handling.respond.inj h
          exact .inr (status_of_refusal (refusal_cases hread))

theorem status_of_route (h : route words r = .respond response) :
    response.status ∈ [200, 400, 404, 405] := by
  unfold route at h
  split at h
  · obtain rfl := Handling.respond.inj h
    simp only [Response.empty]
    split <;> decide
  · next e _ =>
      split at h
      · split at h
        · next handled _ hhandle =>
            obtain rfl := Handling.respond.inj h
            rcases Endpoint.status_of_handle hhandle with hs | hs <;>
              simp [Response.headOnly, hs]
        · next handling _ _ =>
            rcases Endpoint.status_of_handle h with hs | hs <;> simp [hs]
      · obtain rfl := Handling.respond.inj h
        simp only [Response.withAllow, Response.empty]
        split <;> decide

/-- These are the statuses of all responses that are not waited for. -/
theorem status_of_handle (h : handle words r = .respond response) :
    response.status ∈ [200, 400, 404, 405] := by
  unfold handle at h
  split at h
  · next routed hroute =>
      obtain rfl := Handling.respond.inj h
      show routed.status ∈ _
      exact status_of_route hroute
  · cases h

/-! ## The rule -/

/-- The service is any that a server can have at its start. -/
theorem answersByRule {s : Settings} {v : Service} (hstart : Service.start s = .ready v)
    (words : FaultWords) (r : Request) : AnswersByRule words v r where
  execute hpost hpath := by
    rw [handle_execute hpost hpath]
    cases hread : readRequest words r with
    | ok request => exact .inr ⟨request, rfl, rfl⟩
    | error refusal =>
        rcases refusal_cases hread with ⟨reason, rfl⟩ | ⟨tag, rfl⟩
        · exact .inl ⟨_, _, rfl, refuses_malformed reason, .inl rfl⟩
        · exact .inl ⟨_, _, rfl, refuses_unsupported tag, .inr rfl⟩
  executed := isAnswer_executed
  rejected hpost endpoint record hpath hrecord hrejected := by
    obtain ⟨refusal, hread⟩ := readBody_eq_error_iff.2 hrejected
    obtain ⟨reason, rfl⟩ := exists_reason_of_readBody hread
    cases endpoint with
    | health | index => cases hrecord
    | classify =>
        obtain rfl := Option.some.inj hrecord
        rw [handle_classify hpost hpath, answerClassify, hread]
        exact ⟨_, rfl, refuses_malformed reason⟩
    | execute =>
        obtain rfl := Option.some.inj hrecord
        rw [handle_execute hpost hpath, readRequest, hread]
        exact ⟨_, rfl, refuses_malformed reason⟩
  untouched request _ a b outcome kind ha hb houtcome hkind hblame c hc htime := by
    have harrived := (ha.tail (.arrive a request)).trans hb
    exact Service.isUntouched_of_blamesCaller hstart harrived houtcome
      (blamesCaller_of_kind hkind hblame) hc htime
  classify hpost hpath := by
    rw [handle_classify hpost hpath, answerClassify, ← readBody_eq_error_iff]
    cases hread : readBody words classifyRecord r with
    | error refusal =>
        obtain ⟨reason, rfl⟩ := exists_reason_of_readBody hread
        exact .inr ⟨⟨_, rfl⟩, _, rfl, refuses_malformed reason⟩
    | ok values =>
        obtain ⟨code, rfl⟩ := exists_code_of_readBody hread
        exact .inl ⟨by simp, code, rfl, rfl⟩
  no_server_error response := by
    rintro (h | ⟨request, outcome, -, rfl⟩)
    · have hstatus := status_of_handle h
      simp only [List.mem_cons, List.not_mem_nil, or_false] at hstatus
      omega
    · exact (isAnswer_executed outcome).status_lt

/-! ## A code that is in no language -/

theorem lexemes_ofInput (input : Json.Input) :
    (Document.ofInput input).lexemes =
      match Json.nextLexeme? input with
      | none => []
      | some (l, rest) => l :: (Document.ofInput rest).lexemes := by
  rw [Document.ofInput]
  split <;> simp_all

/-- A message with nothing but an empty code. -/
def asking : Request where
  method := "POST"
  target := "/api/execute"
  headers := [("Content-Type", "application/json")]
  body := "[\"\"]".toList.map fun c => c.toNat.toUInt8

theorem readRequest_asking (words : FaultWords) : readRequest words asking = .ok (.guessing "") := by
  have hjson : isJsonType ((asking.header? "content-type").getD "") = true := by decide +kernel
  have hdecoded : Text.Utf8.decode asking.body = [some '[', some '"', some '"', some ']'] := by
    decide +kernel
  have hopen : Json.nextLexeme? [some '[', some '"', some '"', some ']'] =
      some (.openArray, [some '"', some '"', some ']']) := by decide +kernel
  have htext : Json.nextLexeme? [some '"', some '"', some ']'] = some (.text [], [some ']']) := by
    simp [Json.nextLexeme?, Json.isSeparator, Json.Lexeme.first?, Json.readText, Json.readUnits,
      Json.joinUnits]
  have hclose : Json.nextLexeme? [some ']'] = some (.closeArray, []) := by decide +kernel
  have hend : Json.nextLexeme? [] = none := by decide +kernel
  have hlexemes : (Document.ofInput (Text.Utf8.decode asking.body)).lexemes =
      [.openArray, .text [], .closeArray] := by
    rw [hdecoded]
    simp only [lexemes_ofInput, hopen, htext, hclose, hend]
  have hread : executeRecord.read [.openArray, .text [], .closeArray] =
      .ok ([some "", none, none], []) := rfl
  unfold readRequest readBody
  rw [if_neg (by simp [hjson]), if_neg (by decide), hlexemes, hread]
  rfl

/-- An empty code is handed on, and answered by the rule: its language cannot be told, which is the
    caller's fault. -/
theorem answersByRule_empty_code :
    let words : FaultWords := fun _ _ _ => ""
    let v : Service := ⟨Settings.default, Settings.default.maxConcurrent, []⟩
    AnswersByRule words v asking ∧ handle words asking = .execute (.guessing "") ∧
      (v.submit (.guessing "")).outcome? 0 = some Service.undetected ∧
      (executed Service.undetected).status = 400 := by
  intro words v
  have hpath : Endpoint.ofPath? asking.path = some .execute := by decide +kernel
  refine ⟨answersByRule (s := Settings.default) rfl words asking, ?_, by decide +kernel, rfl⟩
  rw [handle_execute rfl hpath, readRequest_asking]

end Playground.Http
