import PoolCheck.Script.Builtin.Table

/-!
# Processes

What a process is asked to do, how it comes to its end, and what it does at signals. Traps are
carried out by the shell that has set them.
-/

set_option autoImplicit false

namespace PoolCheck.Script

open Run

inductive Origin where
  | words
  | file
  | script
  deriving DecidableEq

/-- What running a shell comes down to: one command, or all of a text. `tested` tells that somebody
looks at the status, so a failure does not end a strict shell. -/
inductive Task where
  | command (tested : Bool) (c : Command)
  | text (tested : Bool) (origin : Origin) (cs : Chars)

section

variable (self : Task → Run Unit)

/-! ## Traps -/

def runExitTrap : Run Nat := do
  let sh ← shell
  match sh.traps.lookup Signal.ofExit with
  | none | some [] => pure sh.status
  | some action =>
    setShell { sh with
      traps := sh.traps.filter fun t => t.1 ≠ Signal.ofExit
      interrupted := some sh.status }
    match ← attempt (self (.text false .words action)) with
    | .error (.exit n) => pure (n.getD sh.status)
    | .error .fault => pure 2
    | .error (.killed p n) => throw (.killed p n)
    | .error .expired => throw .expired
    | _ => pure sh.status

def runTrap (signal : Nat) : Run Unit := do
  let sh ← shell
  match sh.traps.lookup signal with
  | none => pure ()
  | some action =>
    setShell { sh with interrupted := some (sh.interrupted.getD sh.status) }
    let r ← attempt (self (.text false .words action))
    changeShell fun inner => { inner with interrupted := sh.interrupted }
    match r with
    | .error (.back none) => setStatus sh.status
    | .ok _ => setStatus sh.status
    | _ => pure ()
    resume r

def takeSignals : Run Unit := do
  let s ← get
  if !s.signals.isEmpty then
    succumb
    let s ← get
    let mine (m : Message) : Bool := m.process = s.shell.process && m.arrival ≤ s.now
    set { s with signals := s.signals.filter fun m => !mine m }
    (List.range Signal.limit).forM fun n => do
      if s.signals.any fun m => mine m && m.signal = n then runTrap self n

/-! ## Shells of their own -/

def conclude (r : Except Halt Unit) : Run Finish := do
  let close : Run Finish := do pure (.exited ((← runExitTrap self) % 256))
  match r with
  | .error (.killed p n) =>
    if p = (← shell).process then pure (.killed n) else throw (.killed p n)
  | .error .expired => throw .expired
  | .error (.exit (some n)) | .error (.back (some n)) => setStatus n; close
  | _ => close

/-- The shell of a new process. Traps are not taken over, except where a signal is ignored. -/
def innerShell (process : Nat) (sh : Shell) : Shell :=
  { sh with
    process := process
    traps := sh.traps.filter fun t => t.2 = [] && t.1 ≠ Signal.ofExit
    children := []
    held := []
    isNew := false
    ends := false
    reached := sh.base
    interrupted := none }

def takeOver (f : Finish) : Run Unit := do
  match f with
  | .killed n =>
    if !Signal.isSilent n then
      let _ ← writeChars 2 ((Signal.description n).toList ++ ['\n'])
  | .exited _ => pure ()
  setStatus f.status

end

end PoolCheck.Script
