set_option autoImplicit false

/-! # Errors of the host

What can go wrong when the host is asked for something: a file, a directory, a process. The wording
is the host's usual one. -/

namespace Playground

inductive HostError where
  | notFound
  | permissionDenied
  | alreadyExists
  | notADirectory
  | isADirectory
  | notEmpty
  | nameTooLong
  | tooManyLinks
  | notExecutable
  | brokenPipe
  | notPermitted
  | noSuchProcess
  | argumentsTooLong
  | badDescriptor
  | noChildren
  | invalidArgument
  | noSpace
  | noDevice
  | busy
  /-- A NUL in a path. -/
  | nulInPath
  /-- A NUL in a program's name or arguments. -/
  | nulInArgument
  | notText
  deriving DecidableEq, Repr

/-- What the host says of an error, and the number it gives to it if it has one. -/
def HostError.entry : HostError → String × Option Nat
  | .notFound => ("No such file or directory", some 2)
  | .permissionDenied => ("Permission denied", some 13)
  | .alreadyExists => ("File exists", some 17)
  | .notADirectory => ("Not a directory", some 20)
  | .isADirectory => ("Is a directory", some 21)
  | .notEmpty => ("Directory not empty", some 39)
  | .nameTooLong => ("File name too long", some 36)
  | .tooManyLinks => ("Too many levels of symbolic links", some 40)
  | .notExecutable => ("Exec format error", some 8)
  | .brokenPipe => ("Broken pipe", some 32)
  | .notPermitted => ("Operation not permitted", some 1)
  | .noSuchProcess => ("No such process", some 3)
  | .argumentsTooLong => ("Argument list too long", some 7)
  | .badDescriptor => ("Bad file descriptor", some 9)
  | .noChildren => ("No child processes", some 10)
  | .invalidArgument => ("Invalid argument", some 22)
  | .noSpace => ("No space left on device", some 28)
  | .noDevice => ("No such device or address", some 6)
  | .busy => ("Device or resource busy", some 16)
  | .nulInPath => ("file name contained an unexpected NUL byte", none)
  | .nulInArgument => ("nul byte found in provided data", none)
  | .notText => ("stream did not contain valid UTF-8", none)

def HostError.description (e : HostError) : String := e.entry.1

def HostError.message (e : HostError) : String :=
  match e.entry with
  | (text, some n) => text ++ " (os error " ++ toString n ++ ")"
  | (text, none) => text

end Playground
