import Playground.Failure
import Playground.Json.Value
import Playground.Text.Class

set_option autoImplicit false

/-! # Messages

What comes in over HTTP and what goes out, as far as the service looks at it. -/

namespace Playground.Http

open Text

structure Request where
  method : String
  /-- The path that is asked for, with a query after it if there is one. -/
  target : String
  headers : List (String × String)
  body : List UInt8
  deriving DecidableEq, Repr

namespace Request

/-- The first header of this name. -/
def header? (r : Request) (name : String) : Option String :=
  (r.headers.find? fun h => lower h.1.toList == name.toList).map Prod.snd

/-- A character of a scheme. -/
def isSchemeChar (c : Char) : Bool := c.isAlphanum || c == '+' || c == '-' || c == '.'

/-- A target without the scheme and the host, if it has them. -/
def localPart (target : List Char) : List Char :=
  match target.dropWhile isSchemeChar with
  | ':' :: '/' :: '/' :: rest =>
      let path := rest.dropWhile fun c => c != '/' && c != '?' && c != '#'
      if path.head? == some '/' then path else '/' :: path
  | _ => target

/-- The path alone. -/
def path (r : Request) : String :=
  String.ofList ((localPart r.target.toList).takeWhile fun c => c != '?' && c != '#')

end Request

inductive Body where
  | empty
  | text (s : String)
  | json (v : Json.Value)

structure Response where
  status : Nat
  contentType : Option String
  /-- The methods that the path knows. -/
  allow : Option String
  /-- Whose pages may read the response. -/
  allowOrigin : Option String
  body : Body

namespace Response

def empty (status : Nat) : Response := ⟨status, none, none, none, .empty⟩

def ofText (s : String) : Response :=
  ⟨200, some "text/plain; charset=utf-8", none, none, .text s⟩

def ofJson (status : Nat) (v : Json.Value) : Response :=
  ⟨status, some "application/json", none, none, .json v⟩

def withAllow (r : Response) (methods : String) : Response := { r with allow := some methods }

/-- A response that pages of any origin may read. -/
def forAnyOrigin (r : Response) : Response := { r with allowOrigin := some "*" }

/-- A response to a request for the head alone. -/
def headOnly (r : Response) : Response := { r with body := .empty }

end Response

/-! ## Refusals

Why a request is not handled. A failure of the server itself is not told to the client. -/

inductive Refusal where
  | malformedRequest (reason : String)
  | failed (failure : Failure)
  | serverError (reason : String)
  deriving DecidableEq, Repr

namespace Refusal

/-- The wording for the operator. -/
def message : Refusal → String
  | .malformedRequest reason => "Malformed request: " ++ reason
  | .failed failure => failure.message
  | .serverError reason => "Server error: " ++ reason

def kind : Refusal → Kind
  | .malformedRequest _ => .malformedRequest
  | .failed failure => failure.kind
  | .serverError _ => .internalFault

def status : Refusal → Nat
  | .malformedRequest _ => 400
  | .failed _ => 400
  | .serverError _ => 500

/-- The wording for the client. -/
def publicMessage : Refusal → String
  | .serverError _ => "Internal server error"
  | r => r.message

def response (r : Refusal) : Response :=
  .ofJson r.status (.object [Json.member "error" (.ofString r.publicMessage),
    Json.member "kind" (.ofString r.kind.name)])

end Refusal

end Playground.Http
