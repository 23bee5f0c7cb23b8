import Playground.Http.Message
import Playground.Service

set_option autoImplicit false

/-! # The application

What answers messages: a service, started with the settings. -/

namespace Playground.Http

structure Application where
  service : Service

namespace Application

/-- How starting an application ends. -/
inductive Start where
  | ready (application : Application)
  | refused (refusal : Refusal)
  /-- Its service could not count its slots. -/
  | aborted

def start (s : Settings) : Start :=
  match Service.start s with
  | .ready service => .ready ⟨service⟩
  | .refused failure => .refused (.failed failure)
  | .aborted => .aborted

end Application

end Playground.Http
