import PoolCheck.Script.Process

/-!
# Jobs

A job is a command that its shell does not wait for, unless it is told to. Each process of it has
a shell of its own.
-/

set_option autoImplicit false

namespace PoolCheck.Script

open Run

/-- A command as its own process carries it out, which is a subshell already. -/
def Command.inside : Command → Command
  | .subshell _ body [] => body
  | .subshell line body redirects => .redirected line body redirects
  | c => c

def Command.isSimple : Command → Bool
  | .simple _ _ _ _ => true
  | _ => false

def startProcess (prepare : Shell → Shell) (tested : Bool) (c : Command) : Run Nat := do
  spend forking
  let s ← get
  let process := s.processes + 1
  let inner := prepare { innerShell process s.shell with isNew := true, ends := c.isSimple }
  let start := s.now + beginning
  set { s with
    processes := process
    horizon := min s.horizon start
    started := s.started ++
      [(⟨process, inner, tested, c.inside, start, s.files.current, s.patience / 8⟩ : Job)] }
  pure process

def linked (input output : Option Nat) (sh : Shell) : Shell :=
  let link (d : Nat) (i : Option Nat) (table : List (Nat × Nat)) : List (Nat × Nat) :=
    match i with
    | some i => (d, i) :: table.filter fun e => e.1 ≠ d
    | none => table
  { sh with descriptors := link 0 input (link 1 output sh.descriptors) }

/-- Starts the stages of a pipeline, each with what the one before it writes. Pipes are kept until
both of their ends are taken. -/
def startStages (prepare : Shell → Shell) (tested : Bool) (input : Option Nat) :
    List Command → Run (List Nat)
  | [] => pure []
  | [c] => do pure [← startProcess (fun sh => prepare (linked input none sh)) tested c]
  | c :: rest => do
    let (outlet, inlet) ← newPipe
    let held := (← shell).held
    changeShell fun sh => { sh with held := outlet :: held }
    let process ← startProcess (fun sh => prepare (linked input (some inlet) sh)) tested c
    let processes ← startStages prepare tested (some outlet) rest
    changeShell fun sh => { sh with held := held }
    pure (process :: processes)

def aside (sh : Shell) : Shell :=
  { sh with traps := (2, []) :: (3, []) :: sh.traps.filter fun t => t.1 ≠ 2 && t.1 ≠ 3 }

def startJob (c : Command) : Run Unit := do
  let stages := match c with
    | .pipeline stages => stages
    | c => [c]
  let void ← newOpenFile ⟨.void, 0, false, true, false, 0⟩
  let processes ← startStages aside false (some void) stages
  let last := processes.getLast?.getD 0
  changeShell fun sh => { sh with
    latestChild := some last
    children := ⟨last, sh.nextNumber, stages.length, none, false⟩ :: sh.makeRoom.children
    status := 0 }

def awaitProcess (heeds : Bool) (process : Nat) : Run (Option Finish) := do
  if ((← get).ended.lookup process).isNone then await (.finish process heeds)
  let s ← get
  match s.ended.lookup process with
  | some (time, f) =>
    set { s with now := max s.now time }
    pure (some f)
  | none => pure none

/-- Waits for the end of all processes of a child. Nothing if a signal comes first. -/
def awaitChild (c : Child) : Run (Option Finish) := do
  let finishes ← c.processes.mapM (awaitProcess true)
  lookAtChildren
  pure (if finishes.all Option.isSome then finishes.getLast?.join else none)

def Job.run (self : Task → Run Unit) (j : Job) : Run Finish := do
  succumb
  changeShell fun sh => { sh with isNew := false }
  conclude self (← attempt (self (.command j.tested j.command)))

end PoolCheck.Script
