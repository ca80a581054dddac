import PoolCheck.Script.Basic

/-!
# Permissions

Permissions are bits: three for each of the owner, the group and the others, and three special ones
above. A change of them is written in octal digits, or in clauses of the kind `u+rwx,go=r`.
-/

set_option autoImplicit false

namespace PoolCheck.Script

/-- How permissions are changed: the bits of some classes of users, or of all that may get any if
no class is named. -/
structure ModeChange where
  op : Char
  classes : Nat
  bits : Nat
  /-- The bits are copied from the class that has them. -/
  copies : Bool
  /-- Bits to execute go to what has some already, and to directories. -/
  guarded : Bool
  /-- The special bits that are named. Others of a directory stay as they are. -/
  named : Nat

namespace ModeChange

def all : Nat := 0o7777

def without (a b : Nat) : Nat := a - (a &&& b)

def spread (bits : Nat) : Nat := 0o111 * bits

def classOf? : Char → Option Nat
  | 'u' => some 0o4700
  | 'g' => some 0o2070
  | 'o' => some 0o1007
  | 'a' => some all
  | _ => none

def permission? : Char → Option Nat
  | 'r' => some (spread 4)
  | 'w' => some (spread 2)
  | 'x' => some (spread 1)
  | 's' => some 0o6000
  | 't' => some 0o1000
  | 'X' => some 0
  | _ => none

def isOctal (c : Char) : Bool := '0' ≤ c && c ≤ '7'

def isSign (c : Char) : Bool := c = '=' || c = '+' || c = '-'

def octal? (ds : Chars) : Option Nat :=
  let n := ds.foldl (fun n c => 8 * n + (c.toNat - 48)) 0
  if n ≤ all then some n else none

def joined (ns : List Nat) : Nat := ns.foldl (· ||| ·) 0

def one? (classes : Nat) (op : Char) (cs : Chars) : Option (ModeChange × Chars) :=
  let ds := cs.takeWhile isOctal
  if ds ≠ [] then
    let rest := cs.drop ds.length
    if classes = 0 && (rest = [] || rest.head? = some ',') then
      (octal? ds).map fun n => (⟨op, all, n, false, false, all⟩, rest)
    else none
  else
    let named (bits : Nat) : Nat := if classes = 0 then bits else classes &&& bits
    match cs with
    | 'u' :: rest => some (⟨op, classes, 0o700, true, false, named 0o700⟩, rest)
    | 'g' :: rest => some (⟨op, classes, 0o070, true, false, named 0o070⟩, rest)
    | 'o' :: rest => some (⟨op, classes, 0o007, true, false, named 0o007⟩, rest)
    | cs =>
      let ls := cs.takeWhile fun c => (permission? c).isSome
      let bits := joined (ls.filterMap permission?)
      some (⟨op, classes, bits, false, ls.contains 'X', named bits⟩, cs.drop ls.length)

def someFrom (classes : Nat) : Nat → Chars → Option (List ModeChange × Chars)
  | n + 1, op :: cs =>
    if isSign op then do
      let (m, rest) ← one? classes op cs
      let (ms, rest) ← someFrom classes n rest
      pure (m :: ms, rest)
    else some ([], op :: cs)
  | _, cs => some ([], cs)

def clause? (cs : Chars) : Option (List ModeChange) := do
  let front := cs.takeWhile fun c => (classOf? c).isSome
  let (ms, rest) ← someFrom (joined (front.filterMap classOf?)) cs.length (cs.drop front.length)
  if ms.isEmpty || !rest.isEmpty then none else pure ms

def list? (cs : Chars) : Option (List ModeChange) :=
  if cs.head?.any isOctal then
    if cs.all isOctal then
      (octal? cs).map fun n =>
        [⟨'=', all, n, false, false, if cs.length < 5 then (n &&& 0o7000) ||| 0o777 else all⟩]
    else none
  else ((Text.split ',' cs).mapM clause?).map List.flatten

def copied (bits : Nat) : Nat :=
  joined ([1, 2, 4].map fun b => if bits &&& spread b = 0 then 0 else spread b)

def apply (isDirectory : Bool) (mask mode : Nat) (m : ModeChange) : Nat :=
  let kept := if isDirectory then without 0o6000 m.named else 0
  let bits :=
    if m.copies then copied (m.bits &&& mode)
    else if m.guarded && (isDirectory || mode &&& 0o111 ≠ 0) then m.bits ||| 0o111
    else m.bits
  let bits := without (if m.classes = 0 then without bits mask else bits &&& m.classes) kept
  if m.op = '+' then mode ||| bits
  else if m.op = '-' then without mode bits
  else
    let preserved := (if m.classes = 0 then 0 else without all m.classes) ||| kept
    (mode &&& preserved) ||| bits

def applyAll (isDirectory : Bool) (mask mode : Nat) (ms : List ModeChange) : Nat :=
  ms.foldl (apply isDirectory mask) mode

end ModeChange

end PoolCheck.Script
