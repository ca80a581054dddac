import PoolCheck.Script.Builtin.Argument
import PoolCheck.Script.Builtin.Directory
import PoolCheck.Script.Builtin.Job
import PoolCheck.Script.Builtin.Limit
import PoolCheck.Script.Builtin.Mask
import PoolCheck.Script.Builtin.Printing
import PoolCheck.Script.Builtin.Reading
import PoolCheck.Script.Builtin.Signal

/-!
# Builtin commands by name

All of them that need no others, with those that leave loops, functions and the shell.
-/

set_option autoImplicit false

namespace PoolCheck.Script.Builtin

open Run

def jump (again : Bool) : Behaviour := fun args => do
  let n ← match args with
    | [] => pure 1
    | arg :: _ =>
      let n ← number arg
      if n = 0 then badNumber arg else pure n
  setStatus 0
  let loops := (← shell).loops
  if loops ≠ 0 then throw (.jump again (min n loops))

def leave : Behaviour := fun args => do
  match args with
  | [] => throw (.exit (← shell).interrupted)
  | arg :: _ => throw (.exit (some (← number arg)))

def back : Behaviour := fun args => do
  match args with
  | [] => throw (.back none)
  | arg :: _ => throw (.back (some (← number arg)))

def times : Behaviour := fun _ =>
  give (chars "0m0.000000s 0m0.000000s\n0m0.000000s 0m0.000000s\n") 0

/-- A builtin is special if its faults end the shell and assignments in front of it last. Some
take assignments as arguments. -/
structure Entry where
  name : String
  special : Bool
  assigns : Bool
  run : Behaviour

def entries : List Entry :=
  [⟨":", true, false, nothing⟩, ⟨"true", false, false, nothing⟩,
    ⟨"false", false, false, failing⟩, ⟨"echo", false, false, echo⟩,
    ⟨"printf", false, false, printf⟩, ⟨"test", false, false, test⟩,
    ⟨"[", false, false, bracket⟩, ⟨"export", true, true, exporting⟩,
    ⟨"readonly", true, true, protecting⟩, ⟨"unset", true, false, unset⟩,
    ⟨"local", true, true, localize⟩, ⟨"set", true, false, set⟩,
    ⟨"shift", true, false, shift⟩, ⟨"getopts", false, false, getopts⟩,
    ⟨"cd", false, false, cd⟩, ⟨"chdir", false, false, cd⟩, ⟨"pwd", false, false, pwd⟩,
    ⟨"read", false, false, read⟩, ⟨"trap", true, false, trap⟩, ⟨"kill", false, false, kill⟩,
    ⟨"break", true, false, jump false⟩, ⟨"continue", true, false, jump true⟩,
    ⟨"exit", true, false, leave⟩, ⟨"return", true, false, back⟩,
    ⟨"umask", false, false, umask⟩, ⟨"times", true, false, times⟩,
    ⟨"ulimit", false, false, ulimit⟩, ⟨"alias", false, true, aliasing⟩,
    ⟨"unalias", false, false, unaliasing⟩, ⟨"jobs", false, false, jobs⟩,
    ⟨"fg", false, false, resumeJob⟩, ⟨"bg", false, false, resumeJob⟩]

end PoolCheck.Script.Builtin
