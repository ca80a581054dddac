import PoolCheck.Script.Builtin.Basic

/-!
# Limits

Limits on what a shell and its commands may use. A lower one binds, up to a higher one that cannot
be raised again. They are known by letters.
-/

set_option autoImplicit false

namespace PoolCheck.Script.Builtin

open Run

structure LimitKind where
  letter : Char
  name : String
  unit : Nat
  usual : Limit

def boundless : Nat := 18446744073709551615

def limitKinds : List LimitKind :=
  let free : Limit := ⟨boundless, boundless⟩
  [⟨'t', "time(seconds)", 1, free⟩, ⟨'f', "file(blocks)", 512, free⟩,
    ⟨'d', "data(kbytes)", 1024, free⟩, ⟨'s', "stack(kbytes)", 1024, ⟨8388608, boundless⟩⟩,
    ⟨'c', "coredump(blocks)", 512, free⟩, ⟨'m', "memory(kbytes)", 1024, free⟩,
    ⟨'l', "locked memory(kbytes)", 1024, ⟨8388608, 8388608⟩⟩, ⟨'p', "process", 1, free⟩,
    ⟨'n', "nofiles", 1, ⟨1048576, 1048576⟩⟩, ⟨'v', "vmemory(kbytes)", 1024, free⟩,
    ⟨'w', "locks", 1, free⟩, ⟨'r', "rtprio", 1, ⟨0, 0⟩⟩]

def limitOf (sh : Shell) (k : LimitKind) : Limit := (sh.limits.lookup k.letter).getD k.usual

def limitText (hard soft : Bool) (k : LimitKind) (l : Limit) : Chars :=
  let n := if soft || !hard then l.soft else l.hard
  if n = boundless then chars "unlimited" else numberChars (n / k.unit)

/-- A limit as it is written, in words of the machine. -/
def limitValue (k : LimitKind) (cs : Chars) : Run Nat := do
  if cs = chars "unlimited" then pure boundless
  else if !cs.all Char.isDigit then faultText "bad number"
  else pure (Nat.ofDigitChars 10 cs 0 * k.unit % wordLimit)

def setLimit (hard soft : Bool) (k : LimitKind) (value : Nat) : Run Unit := do
  let old := limitOf (← shell) k
  let both := hard = soft
  let new : Limit := ⟨if soft || both then value else old.soft,
    if hard || both then value else old.hard⟩
  if new.hard < new.soft then faultText "error setting limit (Invalid argument)"
  if old.hard < new.hard then faultText "error setting limit (Operation not permitted)"
  changeShell fun sh => { sh with limits := (k.letter, new) :: sh.limits }
  setStatus 0

def padded (width : Nat) (s : String) : Chars :=
  s.toList ++ List.replicate (width - s.length) ' '

def ulimit : Behaviour := fun args => do
  let letters := limitKinds.map LimitKind.letter
  let (given, rest) ← options ("HSa" ++ String.ofList letters) "" args
  let side := given.find? fun g => g.1 = 'H' || g.1 = 'S'
  let hard := side.any fun g => g.1 = 'H'
  let soft := side.any fun g => g.1 = 'S'
  let isAll := given.any fun g => g.1 = 'a'
  let letter := ((given.find? fun g => letters.contains g.1).map Prod.fst).getD 'f'
  let sh ← shell
  match limitKinds.find? (fun k => k.letter = letter), rest with
  | some k, arg :: more =>
    if isAll || more ≠ [] then faultText "too many arguments"
    setLimit hard soft k (← limitValue k arg)
  | some k, [] =>
    if isAll then
      give (limitKinds.flatMap fun k =>
        padded 20 k.name ++ ' ' :: limitText hard soft k (limitOf sh k) ++ ['\n']) 0
    else giveLine (limitText hard soft k (limitOf sh k))
  | none, _ => pure ()

end PoolCheck.Script.Builtin
