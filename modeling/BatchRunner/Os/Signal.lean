/-!
# Signals

The numbers that the operating system gives to signals, the names that the shell's `kill` takes for them,
and the system's description of each.
-/

namespace BatchRunner.Os

/-- The signals below the real-time range: number, short name and description. -/
def signalTable : List (Nat × String × String) := [
  (1, "HUP", "Hangup"),
  (2, "INT", "Interrupt"),
  (3, "QUIT", "Quit"),
  (4, "ILL", "Illegal instruction"),
  (5, "TRAP", "Trace/breakpoint trap"),
  (6, "ABRT", "Aborted"),
  (7, "BUS", "Bus error"),
  (8, "FPE", "Floating point exception"),
  (9, "KILL", "Killed"),
  (10, "USR1", "User defined signal 1"),
  (11, "SEGV", "Segmentation fault"),
  (12, "USR2", "User defined signal 2"),
  (13, "PIPE", "Broken pipe"),
  (14, "ALRM", "Alarm clock"),
  (15, "TERM", "Terminated"),
  (16, "STKFLT", "Stack fault"),
  (17, "CHLD", "Child exited"),
  (18, "CONT", "Continued"),
  (19, "STOP", "Stopped (signal)"),
  (20, "TSTP", "Stopped"),
  (21, "TTIN", "Stopped (tty input)"),
  (22, "TTOU", "Stopped (tty output)"),
  (23, "URG", "Urgent I/O condition"),
  (24, "XCPU", "CPU time limit exceeded"),
  (25, "XFSZ", "File size limit exceeded"),
  (26, "VTALRM", "Virtual timer expired"),
  (27, "PROF", "Profiling timer expired"),
  (28, "WINCH", "Window changed"),
  (29, "IO", "I/O possible"),
  (30, "PWR", "Power failure"),
  (31, "SYS", "Bad system call")]

/-- The first real-time signal that programs may use, and the last. -/
def realTimeRange : Int × Int := (34, 64)

/-- The system's description of a signal number. Real-time signals count from the first one; all other
numbers outside the table are unknown. -/
def describeSignal (number : Int) : String :=
  let known := signalTable.find? fun row => (row.1 : Int) == number
  match known with
  | some row => row.2.2
  | none =>
    if realTimeRange.1 ≤ number ∧ number ≤ realTimeRange.2 then
      "Real-time signal " ++ toString (number - realTimeRange.1)
    else "Unknown signal " ++ toString number

/-- The number of the signal with a short name, such as `TERM`. -/
def signalNumber? (name : String) : Option Nat :=
  (signalTable.find? fun row => row.2.1 == name).map (·.1)

/-- The signals whose default action leaves the process alone. -/
def ignoredByDefault (number : Nat) : Bool :=
  number == 17 || number == 18 || number == 23 || number == 28

/-- The signals whose default action suspends the process. -/
def stopsByDefault (number : Nat) : Bool :=
  number == 19 || number == 20 || number == 21 || number == 22

end BatchRunner.Os
