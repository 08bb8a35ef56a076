import NotebookEngine.Host.Octets

/-!
# Signals

The names and descriptions of signals by their numbers.
-/

namespace NotebookEngine

namespace Shell

open Host (Octets)

namespace Signal

/-- The signals: number, name, description. -/
def table : List (Nat × String × String) := [
  (1, "HUP", "Hangup"), (2, "INT", "Interrupt"), (3, "QUIT", "Quit"),
  (4, "ILL", "Illegal instruction"), (5, "TRAP", "Trace/breakpoint trap"), (6, "ABRT", "Aborted"),
  (7, "BUS", "Bus error"), (8, "FPE", "Floating point exception"), (9, "KILL", "Killed"),
  (10, "USR1", "User defined signal 1"), (11, "SEGV", "Segmentation fault"),
  (12, "USR2", "User defined signal 2"), (13, "PIPE", "Broken pipe"), (14, "ALRM", "Alarm clock"),
  (15, "TERM", "Terminated"), (16, "STKFLT", "Stack fault"), (17, "CHLD", "Child exited"),
  (18, "CONT", "Continued"), (19, "STOP", "Stopped (signal)"), (20, "TSTP", "Stopped"),
  (21, "TTIN", "Stopped (tty input)"), (22, "TTOU", "Stopped (tty output)"),
  (23, "URG", "Urgent I/O condition"), (24, "XCPU", "CPU time limit exceeded"),
  (25, "XFSZ", "File size limit exceeded"), (26, "VTALRM", "Virtual timer expired"),
  (27, "PROF", "Profiling timer expired"), (28, "WINCH", "Window changed"),
  (29, "POLL", "I/O possible"), (30, "PWR", "Power failure"), (31, "SYS", "Bad system call")]

/-- The signal of which the end of a shell is taken as the first. -/
def exitName : Octets :=
  "EXIT".toList

/-- The name of a signal. -/
def name (n : Nat) : Octets :=
  if n = 0 then exitName
  else match table.lookup n with
    | some (s, _) => s.toList
    | none => Text.ofNat n

/-- The description of a signal. -/
def description (n : Nat) : Octets :=
  match table.lookup n with
  | some (_, d) => d.toList
  | none => "Unknown signal ".toList ++ Text.ofNat n

/-- The signal of a name or a number. -/
def ofWord? (w : Octets) : Option Nat :=
  if !w.isEmpty && w.all Char.isDigit then
    ((String.ofList w).toNat?).filter (· ≤ 64)
  else
    let upper := w.map Char.toUpper
    if upper = exitName then some 0
    else (table.find? fun e => e.2.1.toList = upper).map Prod.fst

/-- The signals of whose effect a shell says nothing. -/
def isSilent (n : Nat) : Bool :=
  n = 2 || n = 13

end Signal

end Shell

end NotebookEngine
