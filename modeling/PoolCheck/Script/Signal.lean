import PoolCheck.Script.Basic

/-!
# Signals
-/

set_option autoImplicit false

namespace PoolCheck.Script.Signal

def all : List (Nat × String × String) :=
  [(1, "HUP", "Hangup"), (2, "INT", "Interrupt"), (3, "QUIT", "Quit"),
    (4, "ILL", "Illegal instruction"), (5, "TRAP", "Trace/breakpoint trap"),
    (6, "ABRT", "Aborted"), (7, "BUS", "Bus error"), (8, "FPE", "Floating point exception"),
    (9, "KILL", "Killed"), (10, "USR1", "User defined signal 1"),
    (11, "SEGV", "Segmentation fault"), (12, "USR2", "User defined signal 2"),
    (13, "PIPE", "Broken pipe"), (14, "ALRM", "Alarm clock"), (15, "TERM", "Terminated"),
    (16, "16", "Stack fault"), (17, "CHLD", ""), (18, "CONT", ""),
    (19, "STOP", ""), (20, "TSTP", ""), (21, "TTIN", ""), (22, "TTOU", ""), (23, "URG", ""),
    (24, "XCPU", "CPU time limit exceeded"), (25, "XFSZ", "File size limit exceeded"),
    (26, "VTALRM", "Virtual timer expired"), (27, "PROF", "Profiling timer expired"),
    (28, "WINCH", ""), (29, "IO", "I/O possible"), (30, "PWR", "Power failure"),
    (31, "SYS", "Bad system call")]

def limit : Nat := 65

def ofPipe : Nat := 13

def ofExit : Nat := 0

def firstFree : Nat := 34

/-- A free signal is named by its distance from the nearer end. -/
def name (n : Nat) : String :=
  let counted (label : String) (distance : Nat) (sign : String) : String :=
    if distance = 0 then label else label ++ sign ++ toString distance
  if n = ofExit then "EXIT"
  else if firstFree ≤ n ∧ n < 50 then counted "RTMIN" (n - firstFree) "+"
  else if 50 ≤ n ∧ n < limit then counted "RTMAX" (limit - 1 - n) "-"
  else
    match all.lookup n with
    | some (s, _) => s
    | none => toString n

def description (n : Nat) : String :=
  match all.lookup n with
  | some (_, d) => d
  | none =>
    if firstFree ≤ n then "Real-time signal " ++ toString (n - firstFree)
    else "Unknown signal " ++ toString n

def isSilent (n : Nat) : Bool := n = 2 || n = 13

/-- A signal by its number or its name, in any case. The end of the shell has a name too if
`withExit` says so. -/
def parse? (withExit : Bool) (cs : Chars) : Option Nat :=
  if cs ≠ [] ∧ cs.all Char.isDigit then
    let n := Nat.ofDigitChars 10 cs 0
    if n < limit then some n else none
  else
    let upper := String.ofList (cs.map Char.toUpper)
    if withExit ∧ upper = "EXIT" then some ofExit
    else ((List.range limit).drop 1).find? fun n => name n = upper

def isHarmless (n : Nat) : Bool := [0, 17, 18, 23, 28].contains n

def ofGoingOn : Nat := 18

def stops (n : Nat) : Bool := [19, 20, 21, 22].contains n

def isStrict (n : Nat) : Bool := n = 9 || n = 19

/-- What a signal does to a process with traps: it is kept for a trap, nothing, or the end. -/
inductive Reaction where
  | caught
  | ignored
  | fatal
  | stopped
  deriving DecidableEq

def reaction (traps : List (Nat × Chars)) (signal : Nat) : Reaction :=
  match if isStrict signal then none else traps.lookup signal with
  | some [] => .ignored
  | some _ => .caught
  | none =>
    if isHarmless signal then .ignored
    else if stops signal then .stopped
    else .fatal

end PoolCheck.Script.Signal
