import Playground.CommandLine
import Playground.Http.Application
import Playground.Machine.Installation

set_option autoImplicit false

/-! # The program

Started with its options, the program reads the settings, starts a service, and answers requests:
each line of its input is a request in its wire form, and each line of its output the outcome. The
programs it runs live on a machine in memory. -/

namespace Playground.Main

/-- What a file says, as far as the host lets it be read. -/
def readFile (path : String) : IO (Except HostError String) := do
  match ← (IO.FS.readBinFile path).toBaseIO with
  | .ok contents =>
      return match Text.Utf8.decode? contents.toList with
        | some text => .ok (String.ofList text)
        | none => .error .notText
  | .error (.noFileOrDirectory ..) => return .error .notFound
  | .error (.permissionDenied ..) => return .error .permissionDenied
  | .error (.inappropriateType ..) => return .error .isADirectory
  | .error _ => return .error .invalidArgument

/-- The settings that the arguments ask for. -/
def loadSettings (arguments : CommandLine.Arguments) : IO (Except Failure Settings) := do
  let temporary := (← IO.getEnv "TMPDIR").getD Settings.usualTemporary
  match arguments.config with
  | none => return arguments.settings temporary fun _ => .error .notFound
  | some path =>
      let contents ← readFile path
      return arguments.settings temporary fun _ => contents

/-- An outcome in its wire form. -/
def render (o : Outcome) : String := String.ofList o.toJson.render

/-- The reply to a line of input, and what the service and the machine are afterwards. -/
def answer (v : Service) (m : Machine.State) (line : String) : String × Service × Machine.State :=
  match Request.ofDocument (.ofString line) with
  | .error _ => (render (.ofFailure (.malformedRequest "not a request")), v, m)
  | .ok request =>
      let ticket := v.jobs.length
      let software := Machine.Installation.software
      let (v, m) := Machine.State.serveAll software (1 <<< 60) (v.submit request) m
      let outcome := (v.outcome? ticket).getD (.ofFailure (.system "no outcome"))
      (render outcome, v, m)

/-- Answers line by line until the input ends. -/
partial def serve (v : Service) (m : Machine.State) : IO Unit := do
  let line ← (← IO.getStdin).getLine
  if line.isEmpty then return
  let (reply, v, m) := answer v m line
  IO.println reply
  (← IO.getStdout).flush
  serve v m

end Playground.Main

open Playground

def main (words : List String) : IO UInt32 := do
  match CommandLine.read words with
  | .error usage =>
      if usage.exitCode = 0 then IO.println usage.message else IO.eprintln usage.message
      return usage.exitCode
  | .ok arguments =>
      match ← Main.loadSettings arguments with
      | .error failure =>
          IO.eprintln ("Error: " ++ failure.message)
          return 1
      | .ok settings =>
          match Http.Application.start settings with
          | .refused refusal =>
              IO.eprintln ("Error: " ++ refusal.message)
              return 1
          | .aborted =>
              IO.eprintln "Error: too many slots"
              return 1
          | .ready application =>
              IO.eprintln ("Serving as " ++ arguments.address.render)
              Main.serve application.service Machine.Installation.machine
              return 0
