import PoolCheck.Script.Process

/-!
# Subshells

A subshell is a shell of its own, which begins as its outer one is and of which only its end is
left. The outer one waits for it.
-/

set_option autoImplicit false

namespace PoolCheck.Script

open Run

section

variable (self : Task → Run Unit)

/-- Takes as long as it takes to start a process, unless a shell makes way for it. -/
def spendStart : Run Unit := do
  if !(← shell).ends then spend (forking + beginning)
  changeShell fun sh => { sh with ends := false }

def separately (prepare : Shell → Shell) (act : Run Unit) : Run Finish := do
  spendStart
  succumb
  changeShell Shell.makeRoom
  let outer ← get
  let process := outer.processes + 1
  set { outer with
    shell := prepare (innerShell process outer.shell)
    waiting := outer.shell :: outer.waiting
    processes := process }
  let r ← attempt act
  let r ← attempt (conclude self r)
  modify fun s => { s with
    shell := outer.shell
    waiting := outer.waiting
    files := { s.files with current := outer.files.current } }
  spend ending
  lookAtChildren
  succumb
  resume r

/-- Runs a command on its own and gives what it and its jobs have printed, without line ends behind
it. -/
def substitute (c : Command) : Run Chars := do
  let (outlet, inlet) ← newPipe
  let held := (← shell).held
  changeShell fun sh => { sh with held := outlet :: held }
  let r ← attempt (separately self (fun sh => { sh with
    descriptors := (1, inlet) :: sh.descriptors.filter fun d => d.1 ≠ 1 })
    (self (.command false c)))
  if let .ok _ := r then
    let s ← get
    if s.feeds outlet s.others then await (.all outlet)
  changeShell fun sh => { sh with held := held }
  let f ← resume r
  let s ← get
  let content := ((s.opened[outlet]?).bind (unread? s.files)).getD .empty
  let status := (← shell).status
  takeOver f
  changeShell fun sh => { sh with outputStatus := f.status, status := status }
  let printed := (Chars.ofBytes content).filter (· ≠ '\x00')
  pure (printed.reverse.dropWhile (· = '\n')).reverse

end

end PoolCheck.Script
