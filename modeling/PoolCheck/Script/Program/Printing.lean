import PoolCheck.Script.Format
import PoolCheck.Script.Program.Options

/-!
# The program that prints by a format

It knows more escapes and conversions than the builtin command of a shell, and ends at the first
that it does not know.
-/

set_option autoImplicit false

namespace PoolCheck.Script.Program

/-- Printing with arguments that are not used yet. What is thrown ends it. -/
abbrev Printer := ExceptT Unit (StateT (List Chars) (StateM Effect))

namespace Printer

def put (cs : Chars) : Printer Unit := liftM (print cs)

def doubt (c : Call) (cause : Chars) : Printer Unit := liftM (refuse c cause)

def warn (c : Call) (cause : Chars) : Printer Unit :=
  liftM (complain (c.name ++ text ": warning: " ++ cause ++ ['\n']))

def stop {α : Type} (c : Call) (cause : Chars) : Printer α := do
  doubt c cause
  throw ()

def next : Printer Chars := modifyGet fun args => (args.head?.getD [], args.tail)

/-! ## Escapes -/

def isHex (c : Char) : Bool := Arithmetic.isDigitOf 16 c

def isLoneSurrogate (n : Nat) : Bool := 55296 ≤ n && n ≤ 57343

def hexPadded (width n : Nat) : Chars :=
  let ds := Nat.toDigits 16 n
  List.replicate (width - ds.length) '0' ++ ds

def codePoint (c : Call) (letter : Char) (cs : Chars) : Printer Chars := do
  let width := if letter = 'u' then 4 else 8
  let ds := (cs.take width).takeWhile isHex
  if ds.length < width then stop c (text "missing hexadecimal number in escape")
  else
    let n := Arithmetic.valueOf 16 ds
    if isLoneSurrogate n then
      stop c (text "invalid universal character name \\" ++ letter :: hexPadded width n)
    else
      put (if n < 128 then [Char.ofNat n]
        else if n < 65536 then '\\' :: 'u' :: (hexPadded 4 n).map Char.toUpper
        else '\\' :: 'U' :: (hexPadded 8 n).map Char.toUpper)
      pure (cs.drop width)

/-- Prints an escape behind its backslash and gives what follows. A zero may stand in front of the
digits of a code if `zeroFirst` says so. -/
def escape (c : Call) (zeroFirst : Bool) (cs : Chars) : Printer Chars := do
  match cs with
  | [] =>
    put ['\\']
    pure []
  | d :: rest =>
    if d = 'x' then
      let ds := (rest.take 2).takeWhile isHex
      if ds = [] then stop c (text "missing hexadecimal number in escape")
      else
        put [Char.ofNat (Arithmetic.valueOf 16 ds)]
        pure (rest.drop ds.length)
    else if Format.isOctal d then
      let digits := if zeroFirst && d = '0' then rest else cs
      let ds := (digits.take 3).takeWhile Format.isOctal
      put [Char.ofNat (Arithmetic.valueOf 8 ds % 256)]
      pure (digits.drop ds.length)
    else if d = 'c' then throw ()
    else if d = '"' then
      put ['"']
      pure rest
    else if d = 'u' || d = 'U' then codePoint c d rest
    else
      put (match Format.control? d with
        | some n => [Char.ofNat n]
        | none => ['\\', d])
      pure rest

def escapedText (c : Call) : Nat → Chars → Printer Unit
  | n + 1, d :: rest => do
    if d = '\\' then escapedText c n (← escape c true rest)
    else
      put [d]
      escapedText c n rest
  | _, _ => pure ()

/-! ## Numbers -/

def check (c : Call) (arg : Chars) (found misfit : Bool) (rest : Chars) : Printer Unit := do
  if misfit then doubt c (quoted arg ++ text ": Numerical result out of range")
  else if rest ≠ [] then
    doubt c (quoted arg ++ text (if found then ": value not completely converted"
      else ": expected a numeric value"))

def code? (c : Call) (arg : Chars) : Printer (Option Nat) := do
  match arg with
  | q :: d :: rest =>
    if q = '\'' || q = '"' then
      if rest ≠ [] then
        warn c (rest ++ text ": character(s) following character constant have been ignored")
      pure (some d.toNat)
    else pure none
  | _ => pure none

def whole (c : Call) (signed : Bool) (arg : Chars) : Printer Int := do
  match ← code? c arg, Arithmetic.integer? arg with
  | some n, _ => pure n
  | none, none =>
    if arg ≠ [] then check c arg false false arg
    pure 0
  | none, some (n, rest) =>
    let bounded := Format.bounded signed n
    check c arg true (bounded ≠ n) rest
    pure bounded

def fraction (c : Call) (arg : Chars) : Printer Fraction := do
  match ← code? c arg, Fraction.ofFront? .extended arg with
  | some n, _ => pure (.finite false n 1)
  | none, none =>
    if arg ≠ [] then check c arg false false arg
    pure (.finite false 0 1)
  | none, some (r, rest, misfit) =>
    check c arg true misfit rest
    pure r

/-! ## Conversions -/

def excluded (flag : Char) : Chars :=
  if flag = '#' then "cdisu".toList
  else if flag = '0' then "cs".toList
  else if flag = '\'' || flag = 'I' then "aAceEosxX".toList
  else []

def amount (c : Call) (cs : Chars) : Printer (Option Int × Chars) := do
  match cs with
  | '*' :: rest => do
    let arg ← next
    pure (some (← whole c true arg), rest)
  | cs =>
    let ds := cs.takeWhile Char.isDigit
    pure (if ds = [] then none else some (Nat.ofDigitChars 10 ds 0 : Nat), cs.drop ds.length)

def convert (c : Call) (flags : Chars) (width precision : Option Int) (letter : Char) :
    Printer Unit := do
  let width := width.getD 0
  let precision := precision.bind fun n => if n < 0 then none else some n.toNat
  let left := flags.contains '-' || width < 0
  let f : Format.Filling := ⟨left, flags.contains '0' && !left, width.natAbs⟩
  let arg ← next
  if letter = 's' then put (Format.fill f [] (arg.take (precision.getD arg.length)))
  else if letter = 'c' then put (Format.fill f [] [arg.head?.getD '\x00'])
  else if "eEfFgG".toList.contains letter then
    put (Format.realText f flags precision letter (← fraction c arg))
  else
    let signed := letter = 'd' || letter = 'i'
    put (Format.wholeText f flags precision letter (← whole c signed arg))

def directive (c : Call) (cs : Chars) : Printer Chars := do
  match cs with
  | '%' :: rest =>
    put ['%']
    pure rest
  | 'b' :: rest =>
    let arg ← next
    escapedText c (arg.length + 1) arg
    pure rest
  | 'q' :: rest =>
    put (shownName (← next))
    pure rest
  | cs =>
    let flags := cs.takeWhile fun d => "'I-+ #0".toList.contains d
    let (width, behind) ← amount c (cs.drop flags.length)
    let (precision, behind) ← match behind with
      | '.' :: behind => do
        let (n, behind) ← amount c behind
        pure (some (n.getD 0), behind)
      | behind => pure (none, behind)
    let behind := behind.dropWhile fun d => "lLhjtz".toList.contains d
    let banned := flags.flatMap excluded ++ if precision.isSome then ['c'] else []
    match behind with
    | [] => stop c ('%' :: cs ++ text ": invalid conversion specification")
    | d :: rest =>
      if !"cdeEfFgGiosuxX".toList.contains d || banned.contains d then
        stop c ('%' :: cs.take (cs.length - rest.length) ++
          text ": invalid conversion specification")
      else
        convert c flags width precision d
        pure rest

def pass (c : Call) : Nat → Chars → Printer Unit
  | n + 1, d :: rest => do
    if d = '%' then pass c n (← directive c rest)
    else if d = '\\' then pass c n (← escape c false rest)
    else
      put [d]
      pass c n rest
  | _, _ => pure ()

def passes (c : Call) (format : Chars) : Nat → Printer Unit
  | 0 => pure ()
  | n + 1 => do
    let before := (← get).length
    pass c (format.length + 1) format
    let left ← get
    if left ≠ [] then
      if left.length < before then passes c format n
      else
        warn c (text "ignoring excess arguments, starting with " ++ quoted (left.head?.getD []))

end Printer

def printf : Program := fun c => do
  match if c.arguments.head? = some ['-', '-'] then c.arguments.tail else c.arguments with
  | [] => misuse c (text "missing operand")
  | format :: args =>
    let _ ← ((Printer.passes c format (args.length + 1)).run.run args)

end PoolCheck.Script.Program
