import DesktopRefresh.Bytes

/-!
# Signals

The signals by number and name, and what they do to a process that has not said anything else. Some do
nothing, some stop it, and all others end it; two of them leave it no choice.
-/

namespace DesktopRefresh.Kernel.Signal

/-- Names, numbers, and what is said of a process that was ended by the signal. -/
def table : List (String × Nat × String) :=
  [("EXIT", 0, ""), ("HUP", 1, "Hangup"), ("INT", 2, "Interrupt"), ("QUIT", 3, "Quit"),
    ("ILL", 4, "Illegal instruction"), ("TRAP", 5, "Trace/breakpoint trap"), ("ABRT", 6, "Aborted"),
    ("BUS", 7, "Bus error"), ("FPE", 8, "Floating point exception"), ("KILL", 9, "Killed"),
    ("USR1", 10, "User defined signal 1"), ("SEGV", 11, "Segmentation fault"), ("USR2", 12, "User defined signal 2"),
    ("PIPE", 13, "Broken pipe"), ("ALRM", 14, "Alarm clock"), ("TERM", 15, "Terminated"), ("16", 16, "Stack fault"),
    ("CHLD", 17, "Child exited"), ("CONT", 18, "Continued"), ("STOP", 19, "Stopped (signal)"), ("TSTP", 20, "Stopped"),
    ("TTIN", 21, "Stopped (tty input)"), ("TTOU", 22, "Stopped (tty output)"), ("URG", 23, "Urgent I/O condition"),
    ("XCPU", 24, "CPU time limit exceeded"), ("XFSZ", 25, "File size limit exceeded"),
    ("VTALRM", 26, "Virtual timer expired"), ("PROF", 27, "Profiling timer expired"), ("WINCH", 28, "Window changed"),
    ("IO", 29, "I/O possible"), ("PWR", 30, "Power failure"), ("SYS", 31, "Bad system call")]

def interrupt : Nat := 2

def quit : Nat := 3

def kill : Nat := 9

def pipe : Nat := 13

def terminate : Nat := 15

def resume : Nat := 18

def stop : Nat := 19

/-- Signals have numbers below this one. -/
def count : Nat := 65

def firstRealTime : Nat := 34

def name (n : Nat) : String :=
  match table.find? (·.2.1 == n) with
  | some (name, _, _) => name
  | none =>
    if n < firstRealTime then toString n
    else if n = firstRealTime then "RTMIN"
    else if n < 50 then "RTMIN+" ++ toString (n - firstRealTime)
    else if n = 64 then "RTMAX"
    else "RTMAX-" ++ toString (64 - n)

def description (n : Nat) : String :=
  match table.find? (·.2.1 == n) with
  | some (_, _, text) => text
  | none => "Real-time signal " ++ toString (n - firstRealTime)

/-- A signal given by its number or by its name in letters of either case. -/
def ofBytes? (bs : Bytes) : Option Nat :=
  if !bs.isEmpty && bs.all Bytes.isDigit then
    let n := Bytes.number bs
    if n < count then some n else none
  else
    (List.range count).find? fun n => Bytes.ofString (name n) == bs.map Bytes.toUpper

def isIgnoredByDefault (n : Nat) : Bool := [0, 17, 18, 23, 28].contains n

def stopsByDefault (n : Nat) : Bool := [19, 20, 21, 22].contains n

end DesktopRefresh.Kernel.Signal
