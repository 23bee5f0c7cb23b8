import Playground.Process.WaitStatus
import Playground.Text.Class

set_option autoImplicit false

/-! # What a process leaves

Its status and what it wrote. When it failed, one of the three has to explain why: what it wrote as
an error if that is more than blanks, else what it wrote, else the status. -/

namespace Playground

structure ProcessOutput where
  status : WaitStatus
  stdout : String
  stderr : String
  deriving DecidableEq, Repr

namespace ProcessOutput

def statusLine (status : WaitStatus) : String := "Process exited with " ++ status.describe

/-- The best explanation of a process's failure. -/
def diagnostics (o : ProcessOutput) : String :=
  if Text.allBlank o.stderr.toList = false then o.stderr
  else if Text.allBlank o.stdout.toList = false then o.stdout
  else statusLine o.status

end ProcessOutput

end Playground
