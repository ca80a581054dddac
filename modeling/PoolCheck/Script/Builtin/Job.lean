import PoolCheck.Script.Builtin.Basic
import PoolCheck.Script.Signal

/-!
# Jobs of a shell

Jobs by their names, and what is told about them. No job can be brought to the front or back.
-/

set_option autoImplicit false

namespace PoolCheck.Script.Builtin

open Run

def childOf (word : Option Chars) : Run Child := do
  let known := (← shell).children
  let orFault (c : Option Child) (text : String) : Run Child :=
    match c with
    | some c => pure c
    | none => faultText text
  match word with
  | none | some ['%'] | some ['%', '+'] | some ['%', '%'] =>
    orFault known.head? "No current job"
  | some ['%', '-'] => orFault known.tail.head? "No previous job"
  | some w =>
    let missing : Run Child := fault (chars "No such job: " ++ w)
    match w with
    | '%' :: ds =>
      let isNumber := ds ≠ [] && ds.all Char.isDigit
      match known.filter fun c =>
        ds = ['?'] || (isNumber && c.number = Nat.ofDigitChars 10 ds 0) with
      | [] => missing
      | [c] => pure c
      | _ => fault (w ++ chars ": ambiguous")
    | _ => missing

/-! ## Telling about jobs -/

def childState (c : Child) : Chars :=
  match c.finish with
  | none => chars "Running"
  | some (.exited 0) => chars "Done"
  | some (.exited n) => chars "Done(" ++ numberChars n ++ [')']
  | some (.killed n) => chars (Signal.description n)

def childLines (known : List Child) (withProcess : Bool) (c : Child) : Chars :=
  let isAt (place : Option Child) : Bool := place.any fun d => d.number = c.number
  let mark := if isAt known.head? then '+' else if isAt known.tail.head? then '-' else ' '
  let process (n : Nat) : Chars := if withProcess then numberChars n ++ [' '] else []
  let padded (cs : Chars) : Chars := cs ++ List.replicate (max 1 (33 - cs.length)) ' '
  let first := c.process + 1 - c.stages
  let front := '[' :: numberChars c.number ++ [']', ' ', mark, ' ']
  let others := (List.range c.stages).tail.flatMap fun n =>
    if withProcess then
      chars " |\n" ++ padded (List.replicate front.length ' ' ++ process (first + n))
    else chars " | "
  padded (front ++ process first ++ childState c) ++ others ++ ['\n']

def tellOf (letter : Option Char) (c : Child) : Run Unit := do
  let known := (← shell).children
  if letter = some 'p' then
    let _ ← writeChars 1 (numberChars (c.process + 1 - c.stages) ++ ['\n'])
  else
    let _ ← writeChars 1 (childLines known (letter = some 'l') c)
    if c.finish.isSome then
      changeShell fun sh => { sh with
        children := sh.children.filter fun d => d.number ≠ c.number }

def jobs : Behaviour := fun args => do
  let (given, words) ← options "lp" "" args
  let letter := given.head?.map Prod.fst
  setStatus 0
  if words = [] then
    lookAtChildren
    (← shell).children.forM (tellOf letter)
  else words.forM fun w => do tellOf letter (← childOf (some w))

def resumeJob : Behaviour := fun args => do
  let word := (← operands args).head?
  let _ ← childOf word
  fault (chars "job " ++ word.getD (chars "(null)") ++ chars " not created under job control")

end PoolCheck.Script.Builtin
