import PoolCheck.Script.Builtin.Basic
import PoolCheck.Script.Condition
import PoolCheck.Script.Format

/-!
# Printing and testing
-/

set_option autoImplicit false

namespace PoolCheck.Script.Builtin

open Run

def nothing : Behaviour := fun _ => setStatus 0

def failing : Behaviour := fun _ => setStatus 1

def echo : Behaviour := fun args => give (Format.echoed args) 0

def printf : Behaviour := fun args => do
  match ← operands args with
  | [] => faultText "usage: printf format [arg ...]"
  | fmt :: rest =>
    let p := Format.print fmt rest
    p.complaints.reverse.forM complain
    give p.out.reverse p.status
    if 2 ≤ p.status then throw .fault

def testWords (words : List Chars) : Run Unit := do
  match Condition.holds (← get).files words with
  | .ok b => setStatus (if b then 0 else 1)
  | .error e => fault e.text

def test : Behaviour := testWords

def bracket : Behaviour := fun args =>
  if args.getLast?.bind List.head? = some ']' then testWords args.dropLast
  else faultText "missing ]"

end PoolCheck.Script.Builtin
