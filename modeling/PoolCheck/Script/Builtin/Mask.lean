import PoolCheck.Script.Builtin.Basic
import PoolCheck.Script.Format

/-!
# Masks

A mask has the permissions that new files do not get. It is set as a number, or by clauses that
change what is permitted.
-/

set_option autoImplicit false

namespace PoolCheck.Script.Builtin

open Run

def everyone : Nat := 0o777

def isSign (c : Char) : Bool := c = '+' || c = '-' || c = '='

def classBits? : Char → Option Nat
  | 'u' => some 0o700
  | 'g' => some 0o070
  | 'o' => some 0o007
  | 'a' => some everyone
  | _ => none

/-- The bits that a letter stands for. Classes stand for what they were permitted before. -/
def letterBits? (old : Nat) : Char → Option Nat
  | 'r' => some 0o444
  | 'w' => some 0o222
  | 'x' => some 0o111
  | 'X' => some (if old &&& 0o111 = 0 then 0 else 0o111)
  | 's' => some 0
  | 'u' => some (0o111 * (old / 64 % 8))
  | 'g' => some (0o111 * (old / 8 % 8))
  | 'o' => some (0o111 * (old % 8))
  | _ => none

def changePermitted (op : Char) (who bits now : Nat) : Nat :=
  let removed (a b : Nat) : Nat := a - (a &&& b)
  if op = '+' then now ||| (bits &&& who)
  else if op = '-' then removed now (bits &&& who)
  else removed now who ||| (bits &&& who)

def signedChanges (old who : Nat) : Nat → Nat → Chars → Nat × Chars
  | n + 1, now, op :: cs =>
    if isSign op then
      let letters := cs.takeWhile fun c => (letterBits? old c).isSome
      let bits := (letters.filterMap (letterBits? old)).foldl (· ||| ·) 0
      signedChanges old who n (changePermitted op who bits now) (cs.drop letters.length)
    else (now, op :: cs)
  | _, now, cs => (now, cs)

def clauseChange? (old now : Nat) (clause : Chars) : Option Nat :=
  let front := clause.takeWhile fun c => (classBits? c).isSome
  let who := (front.filterMap classBits?).foldl (· ||| ·) 0
  let signs := clause.drop front.length
  let (now, rest) := signedChanges old (if who = 0 then everyone else who) clause.length now signs
  if rest ≠ [] then none else some now

/-- What clauses make of the permissions. Only the last one may be without a sign. -/
def permitted? (old : Nat) (cs : Chars) : Option Nat :=
  let clauses := Text.split ',' cs
  if clauses.dropLast.all (·.any isSign) then clauses.foldlM (clauseChange? old) old else none

def permissions (n : Nat) : Chars :=
  (if n / 4 % 2 = 0 then ['r'] else []) ++ (if n / 2 % 2 = 0 then ['w'] else []) ++
    (if n % 2 = 0 then ['x'] else [])

def umask : Behaviour := fun args => do
  let (given, rest) ← options "S" "" args
  let mask := (← shell).mask
  let setMask (n : Nat) : Run Unit := do
    changeShell fun sh => { sh with mask := n }
    setStatus 0
  match rest with
  | [] =>
    if given = [] then
      let ds := Nat.toDigits 8 mask
      giveLine (List.replicate (4 - ds.length) '0' ++ ds)
    else
      giveLine (chars "u=" ++ permissions (mask / 64 % 8) ++ chars ",g=" ++
        permissions (mask / 8 % 8) ++ chars ",o=" ++ permissions (mask % 8))
  | arg :: _ =>
    if arg.head?.any Char.isDigit then
      if arg.all Format.isOctal then setMask (Arithmetic.valueOf 8 arg % 512) else badNumber arg
    else
      match permitted? (everyone - mask) arg with
      | some n => setMask (everyone - n)
      | none => fault (chars "Illegal mode: " ++ arg)

end PoolCheck.Script.Builtin
