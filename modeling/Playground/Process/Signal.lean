set_option autoImplicit false

/-! # Signals

The numbers by which processes are told to end, stop or go on, and the names of the ones that have
one. -/

namespace Playground

/-- A signal is its number. -/
abbrev Signal := Nat

namespace Signal

def names : List (Nat × String) :=
  [(1, "HUP"), (2, "INT"), (3, "QUIT"), (4, "ILL"), (5, "TRAP"), (6, "ABRT"), (7, "BUS"),
    (8, "FPE"), (9, "KILL"), (10, "USR1"), (11, "SEGV"), (12, "USR2"), (13, "PIPE"), (14, "ALRM"),
    (15, "TERM"), (16, "STKFLT"), (17, "CHLD"), (18, "CONT"), (19, "STOP"), (20, "TSTP"),
    (21, "TTIN"), (22, "TTOU"), (23, "URG"), (24, "XCPU"), (25, "XFSZ"), (26, "VTALRM"),
    (27, "PROF"), (28, "WINCH"), (29, "IO"), (30, "PWR"), (31, "SYS")]

/-- The short name of a signal, as it is given to commands. -/
def shortName? (s : Signal) : Option String := names.lookup s

/-- The signal with this short name. -/
def ofShortName? (name : String) : Option Signal :=
  (names.find? fun entry => entry.2 == name).map Prod.fst

/-- A signal with its full name, if it has one. -/
def describe (s : Signal) : String :=
  match shortName? s with
  | some name => toString s ++ " (SIG" ++ name ++ ")"
  | none => toString s

/-- What a shell says of a process that a signal has ended. -/
def descriptions : List (Nat × String) :=
  [(1, "Hangup"), (2, "Interrupt"), (3, "Quit"), (4, "Illegal instruction"),
    (5, "Trace/breakpoint trap"), (6, "Aborted"), (7, "Bus error"), (8, "Floating point exception"),
    (9, "Killed"), (10, "User defined signal 1"), (11, "Segmentation fault"),
    (12, "User defined signal 2"), (13, "Broken pipe"), (14, "Alarm clock"), (15, "Terminated"),
    (16, "Stack fault"), (24, "CPU time limit exceeded"), (25, "File size limit exceeded"),
    (26, "Virtual timer expired"), (27, "Profiling timer expired"), (29, "I/O possible"),
    (30, "Power failure"), (31, "Bad system call")]

def description (s : Signal) : String :=
  (descriptions.lookup s).getD ("Unknown signal " ++ toString s)

def kill : Signal := 9
def brokenPipe : Signal := 13
def terminate : Signal := 15
def resume : Signal := 18
def stop : Signal := 19

/-- Does the signal stop a process that does nothing about it? -/
def stops (s : Signal) : Bool := s == 19 || s == 20 || s == 21 || s == 22

/-- Is the signal without effect on a process that does nothing about it? -/
def isHarmless (s : Signal) : Bool := s == 17 || s == 18 || s == 23 || s == 28

end Signal

end Playground
