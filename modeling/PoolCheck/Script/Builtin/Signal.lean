import PoolCheck.Script.Builtin.Job

/-!
# Traps and signals

What is done at a signal, and sending signals to shells and jobs.
-/

set_option autoImplicit false

namespace PoolCheck.Script.Builtin

open Run

def trapLines (traps : List (Nat × Chars)) : Chars :=
  (List.range Signal.limit).flatMap fun n =>
    match traps.lookup n with
    | some action => chars "trap -- " ++ quoted action ++ ' ' :: chars (Signal.name n) ++ ['\n']
    | none => []

def setTrap (action : Option Chars) (word : Chars) : Run Bool := do
  match Signal.parse? true word with
  | none =>
    let _ ← writeChars 2 (chars "trap: " ++ word ++ chars ": bad trap\n")
    pure false
  | some n =>
    changeShell fun sh =>
      let others := sh.traps.filter fun t => t.1 ≠ n
      match action with
      | some cs => { sh with traps := (n, cs) :: others }
      | none => { sh with traps := others }
    pure true

def setTraps (action : Option Chars) : List Chars → Run Bool
  | [] => pure true
  | word :: rest => do if ← setTrap action word then setTraps action rest else pure false

def trap : Behaviour := fun args => do
  match ← operands args with
  | [] => give (trapLines (← shell).traps) 0
  | first :: rest =>
    let isReset := rest = [] || (first ≠ [] && first.all Char.isDigit &&
      (Signal.parse? true first).isSome)
    let ok ← if isReset then setTraps none (first :: rest)
      else setTraps (if first = ['-'] then none else some first) rest
    setStatus (if ok then 0 else 1)

/-- Sends a signal. False if there is no such process. The signal is lost on a process that has not
got around to its own traps yet. -/
def send (signal process : Nat) : Run Bool := do
  let s ← get
  let keep (later : Nat) : Run Unit := set { s with
    signals := s.signals ++ [(⟨process, signal, s.now + later⟩ : Message)]
    horizon := min s.horizon (s.now + later) }
  match s.shells.find? fun sh => sh.process = process with
  | some target =>
    match Signal.reaction target.traps signal with
    | .ignored => pure ()
    | .caught => keep 0
    | .fatal => if process = s.shell.process then throw (.killed process signal) else keep 0
    | .stopped => do
      keep 0
      await (.time s.now)
    pure true
  | none =>
    match s.others.find? fun sh => sh.process = process with
    | some target =>
      let isLost := target.isNew && Signal.reaction s.shell.traps signal = .caught
      let isIgnored := Signal.reaction target.traps signal = .ignored && signal ≠ Signal.ofGoingOn
      if !isLost && !isIgnored then keep 1
      pure true
    | none => pure (s.shell.children.any fun c => c.process = process && c.finish.isNone)

def listSignals : List Chars → Run Unit
  | [] => give ('0' :: '\n' :: ((List.range Signal.limit).drop 1).flatMap fun n =>
      chars (Signal.name n) ++ ['\n']) 0
  | arg :: _ => do
    let n ← number arg
    let n := if 128 < n then n - 128 else n
    if 0 < n ∧ n < Signal.limit then giveLine (chars (Signal.name n))
    else fault (chars "invalid signal number or exit status: " ++ arg)

def killUsage {α : Type} : Run α :=
  faultText ("Usage: kill [-s sigspec | -signum | -sigspec] [pid | job]... or\n" ++
    "kill -l [exitstatus]")

def sendAll (signal : Nat) (targets : List Chars) : Run Unit := do
  setStatus 0
  targets.forM fun target => do
    let reached ←
      match target with
      | '%' :: _ => do
        let _ ← childOf (some target)
        pure false
      | '-' :: ds => do
        let _ ← number ds
        pure false
      | ds => send signal (← number ds)
    if !reached then
      complain (chars "No such process\n")
      setStatus 1

def kill : Behaviour := fun args => do
  let aim (signal : Nat) (targets : List Chars) : Run Unit :=
    if targets = [] then killUsage else sendAll signal targets
  match args with
  | [] => killUsage
  | ('-' :: cs) :: rest =>
    match Signal.parse? false cs with
    | some n => aim n rest
    | none =>
      let (given, targets) ← options "l" "s" args
      if given.any fun g => g.1 = 'l' then listSignals targets
      else
        match given.lookup 's' with
        | none => aim 15 targets
        | some name =>
          match Signal.parse? false name with
          | some n => aim n targets
          | none => fault (chars "invalid signal number or name: " ++ name)
  | targets => aim 15 targets

end PoolCheck.Script.Builtin
