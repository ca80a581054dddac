import PoolCheck.Script.Signal
import PoolCheck.Script.State

/-!
# Processes that take turns

A process goes on until it has to wait, or until it is another one's turn. What it does then is a
function of the session as the others leave it.
-/

set_option autoImplicit false

namespace PoolCheck.Script

/-- What a process waits for: a time, the end of another process, a line or some of or all of what
is written to a pipe, or room in a pipe. Who waits for an end may heed signals that are caught. -/
inductive Wait where
  | time (t : Nat)
  | finish (process : Nat) (heeds : Bool)
  | line (outlet : Nat)
  | some (outlet : Nat)
  | all (outlet : Nat)
  | room (outlet : Nat)

inductive Progress (α : Type) where
  | ended (r : Except Halt α) (s : Session)
  | waiting (w : Wait) (s : Session) (next : Session → Progress α)

namespace Progress

def bind {α β : Type} (f : α → Session → Progress β) : Progress α → Progress β
  | ended (.ok a) s => f a s
  | ended (.error h) s => ended (.error h) s
  | waiting w s next => waiting w s fun s => bind f (next s)

def attempt {α : Type} : Progress α → Progress (Except Halt α)
  | ended r s => ended (.ok r) s
  | waiting w s next => waiting w s fun s => attempt (next s)

end Progress

def Run (α : Type) : Type := Session → Progress α

namespace Run

@[always_inline, inline]
protected def pure {α : Type} (a : α) : Run α := fun s => .ended (.ok a) s

@[always_inline, inline]
protected def bind {α β : Type} (act : Run α) (f : α → Run β) : Run β := fun s =>
  match act s with
  | .ended (.ok a) s => f a s
  | .ended (.error h) s => .ended (.error h) s
  | .waiting w s next => .waiting w s fun s => Progress.bind f (next s)

@[always_inline]
instance : Monad Run where
  pure := Run.pure
  bind := Run.bind

@[always_inline]
instance : MonadStateOf Session Run where
  get := fun s => .ended (.ok s) s
  set s := fun _ => .ended (.ok ()) s
  modifyGet f := fun s =>
    let (a, s) := f s
    .ended (.ok a) s

def attempt {α : Type} (act : Run α) : Run (Except Halt α) := fun s => (act s).attempt

def resume {α : Type} : Except Halt α → Run α
  | .ok a => pure a
  | .error h => fun s => .ended (.error h) s

@[always_inline]
instance : MonadExceptOf Halt Run where
  throw h := fun s => .ended (.error h) s
  tryCatch act handle := do
    match ← attempt act with
    | .ok a => pure a
    | .error h => handle h

def ensuring {α : Type} (act : Run α) (after : Run Unit) : Run α := do
  let r ← attempt act
  after
  resume r

def shell : Run Shell := do pure (← get).shell

def setShell (sh : Shell) : Run Unit := modify fun s => { s with shell := sh }

def changeShell (f : Shell → Shell) : Run Unit := modify fun s => { s with shell := f s.shell }

def status : Run Nat := do pure (← shell).status

def setStatus (n : Nat) : Run Unit := changeShell fun sh => { sh with status := n }

end Run

/-! ## Signals -/

namespace Session

def fatal? (s : Session) (sh : Shell) : Option Nat :=
  (s.signals.find? fun m => m.process = sh.process && m.arrival ≤ s.now &&
    Signal.reaction sh.traps m.signal = .fatal).map Message.signal

end Session

namespace Run

def succumb : Run Unit := do
  let s ← get
  match s.fatal? s.shell with
  | some n => throw (.killed s.shell.process n)
  | none => pure ()

/-- Comes to the end of a shell that waits for this one, if a signal asks for it. -/
def succumbOutside : Run Unit := do
  let s ← get
  match s.waiting.findSome? fun sh => (s.fatal? sh).map fun n => (sh.process, n) with
  | some (process, n) => throw (.killed process n)
  | none => pure ()

/-! ## Time -/

def pause (w : Wait) : Run Unit := fun s => .waiting w s fun s => .ended (.ok ()) s

def await (w : Wait) : Run Unit := do
  pause w
  succumb
  succumbOutside

def giveWay : Run Unit := do
  let s ← get
  if s.horizon ≤ s.now then pause (.time s.now)

/-- Takes a while. The steps of a while are the smallest time. -/
def spend (steps : Nat) : Run Unit := do
  modify fun s => { s with now := s.now + steps }
  giveWay

def tick : Run Unit := do
  let s ← get
  if s.patience = 0 || s.share = 0 then throw .expired
  set { s with patience := s.patience - 1, share := s.share - 1, now := s.now + 1 }
  giveWay

def pace : Nat := 5000

/-- What it takes to start a process, until it has begun, until it has become a program, and until
its end is known. -/
def forking : Nat := 8

def beginning : Nat := 4

def becoming : Nat := 50

def ending : Nat := 2

def dying : Nat := 5

def complaining : Nat := 20

def searching : Nat := 6

def present : Run Unit := modify fun s =>
  { s with files := s.files.setClock (s.origin + 1000000 * (s.now / pace)) }

def elapse (milliseconds : Nat) : Run Unit := do
  let s ← get
  await (.time (s.now + milliseconds * pace))

def iterate {σ : Type} (step : σ → Run (σ × Bool)) : Nat → σ → Run σ
  | 0, _ => throw .expired
  | n + 1, a => do
    let (b, again) ← step a
    if again then iterate step n b else pure b

def repeated {σ : Type} (step : σ → Run (σ × Bool)) (a : σ) : Run σ := do
  iterate step ((← get).patience + 1) a

end Run

end PoolCheck.Script
