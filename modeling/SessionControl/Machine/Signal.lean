import SessionControl.Numeric.Decimal
import SessionControl.Text.Ascii

set_option autoImplicit false

/-! # Signals

What processes can be told from outside. A signal ends a process that neither ignores nor catches it,
except for those that by themselves do nothing. -/

namespace SessionControl.Machine

/-- A signal, told by its number. -/
abbrev Signal := Nat

namespace Signal

/-- The names of the signals that are told by what they are for, from number one. -/
def properNames : List String :=
  ["HUP", "INT", "QUIT", "ILL", "TRAP", "ABRT", "BUS", "FPE", "KILL", "USR1", "SEGV", "USR2",
   "PIPE", "ALRM", "TERM", "16", "CHLD", "CONT", "STOP", "TSTP", "TTIN", "TTOU", "URG", "XCPU",
   "XFSZ", "VTALRM", "PROF", "WINCH", "IO", "PWR", "SYS"]

/-- The names of the other signals, which count from the first or from the last of their kind. -/
def furtherNames : List String :=
  let counted (start sign : String) (n : Nat) : String := start ++ sign ++ Decimal.natText n
  ["32", "33", "RTMIN"] ++ (List.range 15).map (fun n => counted "RTMIN" "+" (n + 1)) ++
    (List.range 14).map (fun n => counted "RTMAX" "-" (14 - n)) ++ ["RTMAX"]

/-- The names of the signals, from number one. -/
def names : List String := properNames ++ furtherNames

/-- The first number that is no signal. -/
def limit : Nat := 65

def hangup : Signal := 1
def kill : Signal := 9
def pipe : Signal := 13
def terminate : Signal := 15
def stop : Signal := 19

/-- The name of a signal. -/
def name? (s : Signal) : Option String := if s = 0 then some "EXIT" else names[s - 1]?

/-- The signal of a name, which is written with large letters. -/
def ofName? (name : Bytes) : Option Signal :=
  (names.findIdx? fun n => n.toList = name).map (· + 1)

/-- The signal of a number, or of a name in letters of any size. Zero and `EXIT` stand for the end of
    a process. -/
def read? (word : Bytes) : Option Signal :=
  match Decimal.natural? word with
  | some n => if n < limit then some n else none
  | none =>
    let large := word.map Ascii.upper
    if large = "EXIT".toList then some 0 else ofName? large

/-- The signals that do nothing to a process that takes no care of them. The stopping ones are
    counted in: nobody is there to wake a process again. -/
def harmless : List Signal := [17, 18, 19, 20, 21, 22, 23, 28]

/-- Whether a signal ends a process that takes no care of it. -/
def ends (s : Signal) : Bool := s ≠ 0 && !harmless.contains s

/-- Whether a process can take care of a signal at all. -/
def canBeCaught (s : Signal) : Bool := s ≠ kill && s ≠ stop

/-- What is said of a process that a signal ended, where something is said. -/
def epitaph (s : Signal) : Option String :=
  match s with
  | 1 => some "Hangup"
  | 3 => some "Quit"
  | 4 => some "Illegal instruction"
  | 5 => some "Trace/breakpoint trap"
  | 6 => some "Aborted"
  | 7 => some "Bus error"
  | 8 => some "Floating point exception"
  | 9 => some "Killed"
  | 10 => some "User defined signal 1"
  | 11 => some "Segmentation fault"
  | 12 => some "User defined signal 2"
  | 14 => some "Alarm clock"
  | 15 => some "Terminated"
  | 16 => some "Stack fault"
  | 24 => some "CPU time limit exceeded"
  | 25 => some "File size limit exceeded"
  | 26 => some "Virtual timer expired"
  | 27 => some "Profiling timer expired"
  | 29 => some "I/O possible"
  | 30 => some "Power failure"
  | 31 => some "Bad system call"
  | _ => none

end Signal
end SessionControl.Machine
