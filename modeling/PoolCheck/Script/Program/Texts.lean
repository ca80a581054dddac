import PoolCheck.Script.Condition
import PoolCheck.Script.Format
import PoolCheck.Script.Program.Options

/-!
# Programs on texts and time

Printing, cutting names, counting lines, and letting time pass.
-/

set_option autoImplicit false

namespace PoolCheck.Script.Program

def truth : Program := fun _ => pure ()

def falsehood : Program := fun _ => setStatus 1

/-! ## Printing -/

def echoOptions (newline escapes : Bool) : List Chars → Bool × Bool × List Chars
  | [] => (newline, escapes, [])
  | arg :: rest =>
    match arg with
    | '-' :: c :: cs =>
      if (c :: cs).all fun d => d = 'n' || d = 'e' || d = 'E' then
        let all := c :: cs
        let last := (all.filter fun d => d ≠ 'n').getLast?
        echoOptions (newline && !all.contains 'n')
          (match last with
            | some d => d = 'e'
            | none => escapes) rest
      else (newline, escapes, arg :: rest)
    | _ => (newline, escapes, arg :: rest)

/-- The text with its escapes carried out, and whether one of them ends it. A code is given in at
most two digits behind an `x`, or in at most three octal ones that may follow a zero. -/
def echoUnescaped : Nat → Chars → Chars × Bool
  | n + 1, '\\' :: d :: rest =>
    let after (cs out : Chars) : Chars × Bool :=
      let (more, stop) := echoUnescaped n cs
      (out ++ more, stop)
    let isHex (c : Char) : Bool := Arithmetic.isDigitOf 16 c
    if d = 'c' then ([], true)
    else if d = 'x' && rest.head?.any isHex then
      let ds := (rest.take 2).takeWhile isHex
      after (rest.drop ds.length) [Char.ofNat (Arithmetic.valueOf 16 ds)]
    else if Format.isOctal d then
      let digits := if d = '0' then rest else d :: rest
      let ds := (digits.take 3).takeWhile Format.isOctal
      after (digits.drop ds.length) [Char.ofNat (Arithmetic.valueOf 8 ds % 256)]
    else
      match Format.control? d with
      | some code => after rest [Char.ofNat code]
      | none => after rest ['\\', d]
  | n + 1, c :: rest =>
    let (more, stop) := echoUnescaped n rest
    (c :: more, stop)
  | _, cs => (cs, false)

def echo : Program := fun c => do
  let (newline, escapes, words) := echoOptions true false c.arguments
  let cs := Text.join [' '] words
  let (cs, stop) := if escapes then echoUnescaped (cs.length + 1) cs else (cs, false)
  print (if newline && !stop then cs ++ ['\n'] else cs)

/-! ## Names -/

def basenameOf (suffix path : Chars) : Chars :=
  let cs := withoutSlashes path
  let last := if cs = ['/'] then cs else lastName path
  match Text.stripBack? suffix last with
  | some [] => last
  | some front => front
  | none => last

def basenameGrammar : Grammar where
  flags := "az"
  valued := "s"
  long := [⟨"multiple", "a", .nothing⟩, ⟨"suffix", "s", .value⟩, ⟨"zero", "z", .nothing⟩]
  anywhere := false

def basename : Program := fun c => withOptions basenameGrammar c fun o =>
  let give (suffix path : Chars) : StateM Effect Unit :=
    print (basenameOf suffix path ++ [if o.has "z" then '\x00' else '\n'])
  match o.operands with
  | [] => misuse c (text "missing operand")
  | operands =>
    if o.has "a" || o.has "s" then operands.forM (give ((o.value? "s").getD []))
    else
      match operands with
      | [path] => give [] path
      | [path, suffix] => give suffix path
      | _ => misuse c (text "extra operand " ++ quoted (operands[2]?.getD []))

def dirnameOf (path : Chars) : Chars :=
  let front := (withoutSlashes path).reverse.dropWhile (· ≠ '/')
  match front with
  | [] => if path.head? = some '/' then ['/'] else ['.']
  | front => withoutSlashes front.reverse

def dirnameGrammar : Grammar := ⟨"z", "", [⟨"zero", "z", .nothing⟩], false⟩

def dirname : Program := fun c => withOptions dirnameGrammar c fun o =>
  if o.operands = [] then misuse c (text "missing operand")
  else o.operands.forM fun path => print (dirnameOf path ++ [if o.has "z" then '\x00' else '\n'])

def pwdGrammar : Grammar where
  flags := "LP"
  valued := ""
  long := [⟨"logical", "L", .nothing⟩, ⟨"physical", "P", .nothing⟩]
  anywhere := true

def namesHere (fs : FileSystem) (path : Chars) : Bool :=
  path.head? = some '/' && Condition.isSameFile fs path ['.'] &&
    (Text.split '/' path).all fun s => s ≠ ['.'] && s ≠ ['.', '.']

def pwd : Program := fun c => withOptions pwdGrammar c fun o => do
  if o.operands ≠ [] then
    complain (c.name ++ text ": ignoring non-option arguments\n")
  let isLogical := match o.given.reverse.find? fun e => e.1 = "L" || e.1 = "P" with
    | some (key, _) => key = "L"
    | none => (c.environment.lookup "POSIXLY_CORRECT").isSome
  let fs ← files
  let named := (c.environment.lookup "PWD").filter fun d => isLogical && namesHere fs d
  match named, fs.locate "." with
  | some d, _ => print (d ++ ['\n'])
  | none, .ok place => print (text ("/" ++ String.intercalate "/" place ++ "\n"))
  | none, .error _ => refuse c (text "couldn't find directory entry in '..' with matching i-node")

/-! ## Time -/

inductive Span where
  | milliseconds (n : Nat)
  | endless

def unitOf? : Chars → Option Nat
  | [] => some 1
  | [c] =>
    if c = 's' then some 1
    else if c = 'm' then some 60
    else if c = 'h' then some 3600
    else if c = 'd' then some 86400
    else none
  | _ => none

def span? (cs : Chars) : Option Span := do
  let (r, rest, _) ← Fraction.ofFront? .extended cs
  let unit ← unitOf? rest
  match r with
  | .finite negative a b =>
    if negative && a ≠ 0 then none else some (.milliseconds (a * 1000 * unit / b))
  | .infinite negative => if negative then none else some .endless
  | .undefined => none

def sleep : Program := fun c => withOptions ⟨"", "", [], true⟩ c fun o => do
  if o.operands = [] then misuse c (text "missing operand")
  else
    let bad := o.operands.filter fun a => (span? a).isNone
    if bad ≠ [] then
      bad.forM fun a => refuse c (text "invalid time interval " ++ quoted a)
      hint c
    else
      o.operands.forM fun a =>
        match span? a with
        | some (.milliseconds n) =>
          modify fun e => { e with milliseconds := e.milliseconds + n }
        | some .endless => modify fun e => { e with endless := true }
        | none => pure ()

def printEnvironment : Program := fun c =>
  c.environment.forM fun (name, value) => print (name.toList ++ '=' :: value ++ ['\n'])

end PoolCheck.Script.Program
