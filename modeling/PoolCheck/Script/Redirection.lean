import PoolCheck.Script.Starting

/-!
# Redirections

Descriptors are connected to files, to other descriptors or to documents, one redirection after
the other. Afterwards those that were redirected are as they were before.
-/

set_option autoImplicit false

namespace PoolCheck.Script

open Run

inductive Connection where
  | file (descriptor : Nat) (mode : FileMode) (path : Chars)
  | duplicate (descriptor source : Nat)
  | close (descriptor : Nat)
  | document (descriptor : Nat) (w : Word)

def Redirect.descriptor : Redirect → Nat
  | .file d _ _ => d
  | .duplicate d _ => d
  | .document d _ => d

section

variable (self : Task → Run Unit)

def badDescriptor {α : Type} : Run α := do
  changeShell fun sh => { sh with line := sh.reached }
  faultText "Syntax error: Bad fd number"

def connectionOf (r : Redirect) : Run Connection := do
  match r with
  | .file d mode name => pure (.file d mode (← wordText (substitute self) name))
  | .document d number => pure (.document d ((← get).documents.getD number []))
  | .duplicate d source =>
    match ← wordFields (substitute self) source with
    | [] => faultText "redir error"
    | cs :: _ =>
      match cs with
      | ['-'] => pure (.close d)
      | [c] =>
        if c.isDigit then pure (.duplicate d (c.toNat - 48))
        else badDescriptor
      | _ => badDescriptor

def establish : Connection → Run Bool
  | .close d => do
    disconnect d
    pure true
  | .duplicate d source => do
    match ← openFile? source with
    | some (i, _) =>
      connect d i
      pure true
    | none =>
      complain (numberChars source ++ ": Bad file descriptor".toList)
      pure false
  | .document d w => do
    match ← attempt (wordText (substitute self) w) with
    | .ok cs =>
      connect d (← newMemory (Chars.bytes cs))
      pure true
    | .error .fault => pure false
    | .error h => throw h
  | .file d mode path => do
    match ← openPath (Chars.text path) mode ((← shell).hasOption 'C') with
    | .ok i =>
      connect d i
      pure true
    | .error e =>
      let creates := mode ≠ .read && mode ≠ .both
      let verb := if creates then "cannot create " else "cannot open "
      complain (verb.toList ++ path ++ ": ".toList ++ (e.text (mode ≠ .read)).toList)
      pure false

def establishAll : List Connection → Run Bool
  | [] => pure true
  | c :: cs => do
    if ← establish self c then establishAll cs
    else
      setStatus 2
      pure false

/-- The descriptors of some redirections, as they are now. What is behind them is kept. -/
def remember (rs : List Redirect) : Run (List (Nat × Option Nat)) := do
  let sh ← shell
  let old := rs.map fun r => (r.descriptor, sh.descriptors.lookup r.descriptor)
  if rs ≠ [] then changeShell fun sh => { sh with held := old.filterMap Prod.snd ++ sh.held }
  pure old

def putBack (old : List (Nat × Option Nat)) : Run Unit := do
  old.reverse.forM fun (d, i) =>
    match i with
    | some i => connect d i
    | none => disconnect d
  if !old.isEmpty then
    changeShell fun sh => { sh with held := sh.held.drop (old.filterMap Prod.snd).length }

/-- Runs something with redirections. Without them if one could not be made, nothing is run. -/
def redirected (rs : List Redirect) (act : Run Unit) : Run Unit := do
  let connections ← rs.mapM (connectionOf self)
  let old ← remember rs
  ensuring (do if ← establishAll self connections then act) (putBack old)

end

end PoolCheck.Script
