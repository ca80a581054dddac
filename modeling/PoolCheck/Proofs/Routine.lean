import PoolCheck.Proofs.Action

/-!
# Actions step by step

An action takes files to other files at once, as if it were alone with them. A routine does one
thing after the other, and what it saw last decides how it goes on, so others may change the files
between two of its steps. Left alone with the files, it does what an action does.
-/

set_option autoImplicit false

namespace PoolCheck

inductive Routine (α : Type) where
  | done (result : α)
  | step (change : FileSystem → FileSystem) (next : FileSystem → Routine α)

namespace Routine

variable {α β : Type} {fs mid fs' : FileSystem}

def run : Routine α → FileSystem → α × FileSystem
  | done result, fs => (result, fs)
  | step change next, fs => (next fs).run (change fs)

def bind : Routine α → (α → Routine β) → Routine β
  | done result, f => f result
  | step change next, f => step change fun fs => (next fs).bind f

instance : Monad Routine where
  pure := done
  bind := bind

theorem run_bind (r : Routine α) (f : α → Routine β) (fs : FileSystem) :
    (r >>= f).run fs = (f (r.run fs).1).run (r.run fs).2 := by
  induction r generalizing fs with
  | done result => rfl
  | step change next ih => exact ih fs (change fs)

theorem run_map (g : α → β) (r : Routine α) (fs : FileSystem) :
    (g <$> r).run fs = (g (r.run fs).1, (r.run fs).2) := run_bind r _ fs

def once (a : FileSystem → α × FileSystem) : Routine α :=
  step (fun fs => (a fs).2) fun fs => done (a fs).1

/-- The routine until it is stopped after some steps, if it is not done before. -/
def cut : Option Nat → Routine α → Routine (Option α)
  | _, done result => done (some result)
  | some 0, step _ _ => done none
  | some (n + 1), step change next => step change fun fs => (next fs).cut (some n)
  | none, step change next => step change fun fs => (next fs).cut none

theorem run_cut_none (r : Routine α) (fs : FileSystem) :
    (r.cut none).run fs = (some (r.run fs).1, (r.run fs).2) := by
  induction r generalizing fs with
  | done result => rfl
  | step change next ih => exact ih fs (change fs)

/-! ## Single steps -/

/-- One step, from the files before it to those after it. -/
inductive Moves : Routine α → FileSystem → Routine α → FileSystem → Prop where
  | intro (change : FileSystem → FileSystem) (next : FileSystem → Routine α) (fs : FileSystem) :
    Moves (step change next) fs (next fs) (change fs)

inductive Leads (r : Routine α) (fs : FileSystem) : Routine α → FileSystem → Prop where
  | start : Leads r fs r fs
  | next {r' r'' : Routine α} {mid fs' : FileSystem} (before : Leads r fs r' mid)
    (last : Moves r' mid r'' fs') : Leads r fs r'' fs'

theorem Leads.run_eq {r r' : Routine α} (h : Leads r fs r' fs') : r.run fs = r'.run fs' := by
  induction h with
  | start => rfl
  | next _ last ih =>
    cases last
    exact ih

end Routine

/-- A routine that may fail. -/
abbrev Course (ε α : Type) := ExceptT ε Routine α

namespace Course

open PoolCheck.Action

variable {ε ε' α β : Type}

def action (c : Course ε α) : Action ε α := Routine.run c

def atom (a : Action ε α) : Course ε α := Routine.once a.exec

def look (f : FileSystem → Except ε α) : Course ε α := atom (ask f)

def settle (r : Except ε α) : Course ε α := Routine.done r

def call (r : Routine α) : Course ε α := (Except.ok <$> r : Routine (Except ε α))

def mapFault (g : ε → ε') (c : Course ε α) : Course ε' α :=
  (Except.mapError g <$> ExceptT.run c : Routine (Except ε' α))

@[simp] theorem action_atom (a : Action ε α) : (atom a).action = a := rfl

@[simp] theorem action_look (f : FileSystem → Except ε α) : (look f).action = ask f := rfl

@[simp] theorem action_settle (r : Except ε α) : (settle r).action = ask fun _ => r := rfl

@[simp] theorem action_pure (x : α) : (pure x : Course ε α).action = pure x := rfl

@[simp] theorem action_throw (e : ε) : (throw e : Course ε α).action = throw e := rfl

@[simp] theorem action_call (r : Routine α) :
    (call r : Course ε α).action = fun fs => (.ok (r.run fs).1, (r.run fs).2) :=
  funext fun fs => r.run_map Except.ok fs

@[simp] theorem action_mapFault (g : ε → ε') (c : Course ε α) :
    (c.mapFault g).action = c.action.mapFault g :=
  funext fun fs => Routine.run_map (Except.mapError g) c fs

@[simp] theorem action_bind (c : Course ε α) (f : α → Course ε β) :
    (c >>= f).action = c.action >>= fun x => (f x).action := by
  funext fs
  have hb : (c >>= f).action fs = (ExceptT.bindCont f (c.action fs).1).run (c.action fs).2 :=
    Routine.run_bind c (ExceptT.bindCont f) fs
  show (c >>= f).action fs = (c.action >>= fun x => (f x).action).exec fs
  rw [hb, exec_bind]
  unfold exec
  cases c.action fs with
  | mk r mid => cases r <;> rfl

end Course

end PoolCheck
