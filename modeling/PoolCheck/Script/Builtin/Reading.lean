import PoolCheck.Script.Builtin.Variable
import PoolCheck.Script.Expansion

/-!
# Reading lines

A line is cut into fields as expansions are. What stands behind a backslash is kept as it is.
-/

set_option autoImplicit false

namespace PoolCheck.Script.Builtin

open Run

/-- A line on its way. Escaped characters are kept from being cut. -/
structure Line where
  chunks : List Chunk
  taken : Nat
  ended : Bool

def readLine (raw : Bool) (acc : List Chunk) (taken : Nat) : Nat → Chars → Line
  | 0, _ => ⟨acc.reverse, taken, false⟩
  | _, [] => ⟨acc.reverse, taken, false⟩
  | n + 1, c :: cs =>
    if c = '\x00' then readLine raw acc (taken + 1) n cs
    else if c = '\n' then ⟨acc.reverse, taken + 1, true⟩
    else if c = '\\' && !raw then
      match cs with
      | [] => ⟨acc.reverse, taken + 1, false⟩
      | d :: cs =>
        if d = '\n' then readLine raw acc (taken + 2) n cs
        else readLine raw (⟨[.quoted d], .never⟩ :: acc) (taken + 2) n cs
    else
      match acc with
      | ⟨glyphs, .separators⟩ :: rest =>
        readLine raw (⟨.plain c :: glyphs, .separators⟩ :: rest) (taken + 1) n cs
      | _ => readLine raw (⟨[.plain c], .separators⟩ :: acc) (taken + 1) n cs

def setFields : List Chars → List (List Glyph) → Run Unit
  | [], _ => pure ()
  | name :: names, [] => do
    setChecked name [] false
    setFields names []
  | name :: names, field :: fields => do
    setChecked name (Glyph.chars field) false
    setFields names fields

def read : Behaviour := fun args => do
  let (given, names) ← options "r" "p" args
  if names = [] then faultText "arg count"
  let raw := given.any fun g => g.1 = 'r'
  let lineOf (bytes : Option ByteArray) : Line :=
    let input := Chars.ofBytes (bytes.getD .empty)
    readLine raw [] 0 (input.length + 1) input
  let first := lineOf (← lineInput? 0)
  let line ← if first.ended then pure first else do pure (lineOf (← input? 0))
  consume 0 line.taken
  let chunks := line.chunks.map fun c =>
    if c.cutting = .separators then { c with glyphs := c.glyphs.reverse } else c
  setFields names (cutFields (← shell).separators (some names.length) chunks)
  setStatus (if line.ended then 0 else 1)

end PoolCheck.Script.Builtin
