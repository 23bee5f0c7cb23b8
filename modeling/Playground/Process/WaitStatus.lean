import Playground.Process.Signal

set_option autoImplicit false

/-! # Wait statuses

How a process ended, as the host packs it into one word of 32 bits: the low seven bits hold the
signal that ended the process, or zero if it ended by itself; the eighth tells of a core dump; the
next eight hold the exit code. Two values of the low octet are set apart for processes that are only
stopped or go on. -/

namespace Playground

structure WaitStatus where
  word : Nat
  deriving DecidableEq, Repr

namespace WaitStatus

/-- The statuses of processes that ended. -/
def exited (code : Nat) : WaitStatus := ⟨code % 256 * 256⟩
def killedBy (signal : Signal) : WaitStatus := ⟨signal % 128⟩

/-- What a status says. -/
inductive Ending where
  | exited (code : Nat)
  | signalled (signal : Signal) (dumped : Bool)
  | stopped (signal : Signal)
  | continued
  | unrecognised (word : Nat)
  deriving DecidableEq, Repr

def lowBits (s : WaitStatus) : Nat := s.word % 128

def highOctet (s : WaitStatus) : Nat := s.word / 256 % 256

def ending (s : WaitStatus) : Ending :=
  if s.lowBits = 0 then .exited s.highOctet
  else if s.lowBits ≠ 127 then .signalled s.lowBits (s.word / 128 % 2 == 1)
  else if s.word % 256 = 127 then .stopped s.highOctet
  else if s.word = 0xFFFF then .continued
  else .unrecognised s.word

/-- Only the word zero is a success: an exit with code zero and nothing else. -/
def isSuccess (s : WaitStatus) : Bool := s.word == 0

theorem ending_of_isSuccess {s : WaitStatus} (h : s.isSuccess = true) : s.ending = .exited 0 := by
  obtain ⟨word⟩ := s
  simp only [isSuccess, beq_iff_eq] at h
  subst h
  rfl

/-- The exit code of a process that ended by itself. -/
def code? (s : WaitStatus) : Option Nat :=
  match s.ending with
  | .exited code => some code
  | _ => none

/-- The signal that ended the process. -/
def signal? (s : WaitStatus) : Option Signal :=
  match s.ending with
  | .signalled signal _ => some signal
  | _ => none

/-! ## Wording -/

/-- A word of 32 bits as a signed number. -/
def signedText (word : Nat) : String :=
  if word < 1 <<< 31 then toString word else "-" ++ toString ((1 <<< 32) - word)

def hexText (word : Nat) : String := "0x" ++ String.ofList (Nat.toDigits 16 word)

def Ending.describe : Ending → String
  | .exited code => "exit status: " ++ toString code
  | .signalled signal dumped =>
      "signal: " ++ signal.describe ++ (if dumped then " (core dumped)" else "")
  | .stopped signal => "stopped (not terminated) by signal: " ++ signal.describe
  | .continued => "continued (WIFCONTINUED)"
  | .unrecognised word => "unrecognised wait status: " ++ signedText word ++ " " ++ hexText word

def describe (s : WaitStatus) : String := s.ending.describe

end WaitStatus

end Playground
