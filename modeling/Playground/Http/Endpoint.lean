import Playground.Http.MediaType
import Playground.Http.Message
import Playground.Request
import Playground.Source.Score

set_option autoImplicit false

/-! # Endpoints

The paths the service answers, and how. Most requests are answered at once; one for an execution is
handed on, and its outcome becomes the response. Each path has one endpoint and each endpoint its
methods. Pages of any origin may use all of them. -/

namespace Playground.Http

open Json (Document Record Field FieldValue Fault)

/-! ## Paths -/

inductive Endpoint where
  | health
  | index
  | classify
  | execute
  deriving DecidableEq, Repr

namespace Endpoint

def paths : List (String × Endpoint) :=
  [("/health", .health), ("/api", .index), ("/api/", .index), ("/api/classify", .classify),
    ("/api/detect-language", .classify), ("/api/detect-language/", .classify),
    ("/api/execute", .execute), ("/api/run-code", .execute), ("/api/run-code/", .execute)]

/-- The endpoint of a path. Paths are compared as they are written. -/
def ofPath? (path : String) : Option Endpoint := paths.lookup path

/-- The methods an endpoint knows. -/
def methods : Endpoint → List String
  | .health => ["GET", "HEAD"]
  | .index => ["GET", "HEAD"]
  | .classify => ["POST"]
  | .execute => ["POST"]

def allow (e : Endpoint) : String := ",".intercalate e.methods

end Endpoint

/-! ## Bodies -/

/-- The largest body that is read. -/
def bodyLimit : Nat := 2097152

def notJson : Refusal :=
  .malformedRequest ("Expected request with " ++
    Json.Mismatch.inBackticks "Content-Type: application/json")

def tooLong : Refusal :=
  .malformedRequest "Failed to buffer the request body: length limit exceeded"

/-- What the reader of bodies adds about a fault in a body that was to hold a record: its cause and
    its place, in words of its own. -/
abbrev FaultWords := Record → List UInt8 → Fault → String

/-- Why a body was refused, with what is added about the fault. -/
def Refusal.ofFault (added : String) : Fault → Refusal
  | .syntaxError => .malformedRequest ("Failed to parse the request body as JSON" ++ added)
  | .mismatch _ =>
      .malformedRequest ("Failed to deserialize the JSON body into the target type" ++ added)

section Reading

variable (words : FaultWords)

/-- The fields of the record at the front of a body that is said to be JSON. -/
def readBody (record : Record) (r : Request) : Except Refusal (List FieldValue) :=
  if isJsonType ((r.header? "content-type").getD "") = false then .error notJson
  else if bodyLimit < r.body.length then .error tooLong
  else
    match record.read (Document.ofInput (Text.Utf8.decode r.body)).lexemes with
    | .ok (fields, _) => .ok fields
    | .error fault => .error (.ofFault (words record r.body fault) fault)

/-! ## Classifying -/

def classifyRecord : Record := ⟨"ClassifyRequest", [.required "code"]⟩

def classified (d : Detection) : Response :=
  .ofJson 200 (.object [Json.member "language" (.ofString d.name)])

def answerClassify (r : Request) : Response :=
  match readBody words classifyRecord r with
  | .error refusal => refusal.response
  | .ok [some code] => classified (Source.detect code)
  | .ok _ => (Refusal.ofFault "" .syntaxError).response

/-! ## Executing -/

def executeRecord : Record :=
  ⟨"ExecuteRequest", [.required "code", .optional "language", .optional "input"]⟩

/-- The request that the fields of a record hold. -/
def requestOf : List FieldValue → Except Refusal Playground.Request
  | [some code, tag, input] =>
      match Playground.Request.tagged tag code with
      | .ok r => .ok { r with input := input }
      | .error failure => .error (.failed failure)
  | _ => .error (.ofFault "" .syntaxError)

/-- The request for an execution that a message holds. -/
def readRequest (r : Request) : Except Refusal Playground.Request :=
  match readBody words executeRecord r with
  | .ok fields => requestOf fields
  | .error refusal => .error refusal

/-- The status of an outcome. A program that fails has been executed all the same. -/
def outcomeStatus (o : Outcome) : Nat :=
  match o.kind? with
  | some kind => if kind.isCallersFault then 400 else 200
  | none => 200

def executed (o : Outcome) : Response :=
  (Response.ofJson (outcomeStatus o) o.toJson).forAnyOrigin

/-! ## The index -/

def indexDocument : Json.Value :=
  .object [Json.member "message" (.ofString "Polyglot code execution API"),
    Json.member "endpoints" (.object [
      Json.member "classify" (.ofString "/api/classify"),
      Json.member "execute" (.ofString "/api/execute"),
      Json.member "health" (.ofString "/health")])]

/-! ## Handling -/

/-- What a message leads to: a response, or an execution whose outcome will be the response. -/
inductive Handling where
  | respond (response : Response)
  | execute (request : Playground.Request)

/-- Handles a message whose method the endpoint knows. -/
def Endpoint.handle (e : Endpoint) (r : Request) : Handling :=
  match e with
  | .health => .respond (.ofText "OK")
  | .index => .respond (.ofJson 200 indexDocument)
  | .classify => .respond (answerClassify words r)
  | .execute =>
      match readRequest words r with
      | .ok request => .execute request
      | .error refusal => .respond refusal.response

/-- Handles a message for a path. A browser that asks what it may do is always told, with the
    methods of the path if there are any. -/
def route (r : Request) : Handling :=
  match Endpoint.ofPath? r.path with
  | none => .respond (.empty (if r.method = "OPTIONS" then 200 else 404))
  | some e =>
      if r.method ∈ e.methods then
        match r.method, e.handle words r with
        | "HEAD", .respond response => .respond response.headOnly
        | _, handling => handling
      else .respond ((Response.empty (if r.method = "OPTIONS" then 200 else 405)).withAllow e.allow)

def handle (r : Request) : Handling :=
  match route words r with
  | .respond response => .respond response.forAnyOrigin
  | .execute request => .execute request

end Reading

end Playground.Http
