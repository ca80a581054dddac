import PoolCheck.Script.Fraction

/-!
# Formatted output

Formats with conversions of texts and numbers. A format is used again until its arguments are used
up, and missing arguments are empty. Numbers with a fraction are printed exactly.
-/

set_option autoImplicit false

namespace PoolCheck.Script.Format

/-! ## Escapes -/

def control? (c : Char) : Option Nat :=
  if c = 'n' then some 10
  else if c = 't' then some 9
  else if c = 'r' then some 13
  else if c = 'a' then some 7
  else if c = 'b' then some 8
  else if c = 'f' then some 12
  else if c = 'v' then some 11
  else if c = 'e' then some 27
  else if c = '\\' then some 92
  else none

def isOctal (c : Char) : Bool := '0' ≤ c && c ≤ '7'

def escape (cs : Chars) : Char × Chars :=
  match cs with
  | [] => ('\\', [])
  | c :: rest =>
    match control? c with
    | some n => (Char.ofNat n, rest)
    | none =>
      let ds := (cs.take 3).takeWhile isOctal
      if ds = [] then ('\\', cs)
      else (Char.ofNat (Arithmetic.valueOf 8 ds % 256), cs.drop ds.length)

/-- The characters of a text with escapes. The flag tells that output ends here. -/
def unescape : Nat → Chars → Chars × Bool
  | 0, _ => ([], false)
  | _, [] => ([], false)
  | n + 1, '\\' :: cs =>
    match cs with
    | 'c' :: _ => ([], true)
    | _ =>
      let cs := match cs with
        | '0' :: d :: rest => if isOctal d then d :: rest else cs
        | cs => cs
      let (c, rest) := escape cs
      let (more, stop) := unescape n rest
      (c :: more, stop)
  | n + 1, c :: cs =>
    let (more, stop) := unescape n cs
    (c :: more, stop)

def unescaped (cs : Chars) : Chars × Bool := unescape (cs.length + 1) cs

/-! ## Conversions -/

inductive Amount where
  | given (n : Nat)
  | argument
  deriving DecidableEq

structure Conversion where
  flags : Chars
  width : Amount
  precision : Option Amount
  letter : Char

structure Filling where
  left : Bool
  zero : Bool
  width : Nat

def digitsOf (base : Nat) (n : Nat) : Chars := Nat.toDigits base n

def fill (f : Filling) (sign body : Chars) : Chars :=
  let missing := f.width - (sign.length + body.length)
  if f.left then sign ++ body ++ List.replicate missing ' '
  else if f.zero then sign ++ List.replicate missing '0' ++ body
  else List.replicate missing ' ' ++ sign ++ body

def signOf (flags : Chars) (negative : Bool) : Chars :=
  if negative then ['-'] else if flags.contains '+' then ['+']
  else if flags.contains ' ' then [' '] else []

def upper (cs : Chars) : Chars := cs.map Char.toUpper

/-- At least so many digits; none for zero if none are asked for. -/
def padded (precision : Option Nat) (n : Nat) (digits : Chars) : Chars :=
  match precision with
  | some p => if p = 0 && n = 0 then [] else List.replicate (p - digits.length) '0' ++ digits
  | none => digits

def wholeText (f : Filling) (flags : Chars) (precision : Option Nat) (letter : Char) (n : Int) :
    Chars :=
  let f := { f with zero := f.zero && precision.isNone }
  if letter = 'd' || letter = 'i' then
    fill f (signOf flags (n < 0)) (padded precision n.natAbs (digitsOf 10 n.natAbs))
  else
    let m := (n % (wordLimit : Int)).toNat
    let alternate := flags.contains '#'
    if letter = 'o' then
      let ds := padded precision m (digitsOf 8 m)
      fill f [] (if alternate && ds.head? ≠ some '0' then '0' :: ds else ds)
    else if letter = 'u' then fill f [] (padded precision m (digitsOf 10 m))
    else
      let ds := padded precision m (digitsOf 16 m)
      let front := if alternate && m ≠ 0 then ['0', 'x'] else []
      if letter = 'X' then fill f (upper front) (upper ds) else fill f front ds

def fixedDigits (a b places : Nat) (point : Bool) : Chars :=
  let n := Fraction.roundHalfEven (a * Nat.pow 10 places) b
  let ds := digitsOf 10 n
  let ds := List.replicate (places + 1 - ds.length) '0' ++ ds
  let whole := ds.take (ds.length - places)
  if places = 0 then if point then whole ++ ['.'] else whole
  else whole ++ '.' :: ds.drop (ds.length - places)

def scaled (a b places : Nat) : Int × Nat :=
  if a = 0 then (0, 0)
  else
    let digitsAt (e : Int) : Nat :=
      let shift := (places : Int) - e
      if 0 ≤ shift then Fraction.roundHalfEven (a * Nat.pow 10 shift.toNat) b
      else Fraction.roundHalfEven a (b * Nat.pow 10 (-shift).toNat)
    let guess : Int := ((digitsOf 10 a).length : Int) - (digitsOf 10 b).length
    let isHigh (e : Int) : Bool :=
      if 0 ≤ e then a < b * Nat.pow 10 e.toNat else a * Nat.pow 10 (-e).toNat < b
    let e := if isHigh guess then guess - 1 else guess
    let n := digitsAt e
    if Nat.pow 10 (places + 1) ≤ n then (e + 1, digitsAt (e + 1)) else (e, n)

def exponentText (letter : Char) (e : Int) : Chars :=
  let ds := digitsOf 10 e.natAbs
  letter :: (if e < 0 then '-' else '+') :: (if ds.length < 2 then '0' :: ds else ds)

def scaledDigits (a b places : Nat) (point : Bool) (letter : Char) : Chars :=
  let (e, n) := scaled a b places
  let ds := digitsOf 10 n
  let ds := List.replicate (places + 1 - ds.length) '0' ++ ds
  let tail := if places = 0 then if point then ['.'] else [] else '.' :: ds.drop 1
  ds.take 1 ++ tail ++ exponentText letter e

def trimFraction (cs : Chars) : Chars :=
  if cs.contains '.' then
    let kept := (cs.reverse.dropWhile (· = '0')).reverse
    if kept.getLast? = some '.' then kept.dropLast else kept
  else cs

def generalDigits (a b : Nat) (precision : Nat) (alternate : Bool) (letter : Char) : Chars :=
  let p := max precision 1
  let (e, _) := scaled a b (p - 1)
  if e < -4 || (p : Int) ≤ e then
    let text := scaledDigits a b (p - 1) alternate letter
    if alternate then text
    else
      let mantissa := text.takeWhile (· ≠ letter)
      trimFraction mantissa ++ text.drop mantissa.length
  else
    let text := fixedDigits a b ((p : Int) - 1 - e).toNat alternate
    if alternate then text else trimFraction text

def realText (f : Filling) (flags : Chars) (precision : Option Nat) (letter : Char) (r : Fraction) :
    Chars :=
  let lower := letter.toLower
  let cased (cs : Chars) : Chars := if letter.isUpper then upper cs else cs
  match r with
  | .undefined => fill { f with zero := false } (signOf flags false) (cased "nan".toList)
  | .infinite negative =>
    fill { f with zero := false } (signOf flags negative) (cased "inf".toList)
  | .finite negative a b =>
    let p := precision.getD 6
    let point := flags.contains '#'
    let body :=
      if lower = 'f' then fixedDigits a b p point
      else if lower = 'e' then scaledDigits a b p point 'e'
      else generalDigits a b p point 'e'
    fill f (signOf flags negative) (cased body)

/-! ## Formats -/

inductive Directive where
  | text (c : Char)
  | convert (c : Conversion)
  | invalid (source : Chars)
  | unfinished

def amount (cs : Chars) : Amount × Chars :=
  match cs with
  | '*' :: rest => (.argument, rest)
  | cs => (.given (Nat.ofDigitChars 10 (cs.takeWhile Char.isDigit) 0), cs.dropWhile Char.isDigit)

def letters : Chars := "bcsdiouxXeEfFgG".toList

def conversion (cs : Chars) : Directive × Chars :=
  let flags := cs.takeWhile fun c => "#-+ 0".toList.contains c
  let (width, rest) := amount (cs.drop flags.length)
  let (precision, rest) := match rest with
    | '.' :: rest => let (p, rest) := amount rest; (some p, rest)
    | rest => (none, rest)
  match rest with
  | [] => (.unfinished, [])
  | c :: rest =>
    if letters.contains c then (.convert ⟨flags, width, precision, c⟩, rest)
    else (.invalid ('%' :: cs.take (cs.length - rest.length)), rest)

def directives : Nat → Chars → List Directive
  | 0, _ => []
  | _, [] => []
  | n + 1, '%' :: '%' :: cs => .text '%' :: directives n cs
  | n + 1, '%' :: cs => let (d, rest) := conversion cs; d :: directives n rest
  | n + 1, '\\' :: cs => let (c, rest) := escape cs; .text c :: directives n rest
  | n + 1, c :: cs => .text c :: directives n cs

def bounded (signed : Bool) (n : Int) : Int :=
  if signed then Arithmetic.clamp n
  else if n.natAbs < wordLimit then n else (wordLimit : Int) - 1

structure Printing where
  arguments : List Chars
  used : Bool
  out : Chars
  complaints : List Chars
  status : Nat
  stopped : Bool

namespace Printing

def put (p : Printing) (cs : Chars) : Printing := { p with out := cs.reverse ++ p.out }

def next (p : Printing) : Chars × Printing :=
  (p.arguments.head?.getD [], { p with arguments := p.arguments.tail, used := true })

def complain (p : Printing) (text : Chars) : Printing :=
  { p with complaints := text :: p.complaints, status := 1 }

def stop (p : Printing) (text : Chars) : Printing :=
  { p with complaints := text :: p.complaints, status := 2, stopped := true }

def check (p : Printing) (arg : Chars) (found : Bool) (rest : Chars) (misfit : Bool) : Printing :=
  if rest ≠ [] then
    p.complain (arg ++ (if found then ": not completely converted"
      else ": expected numeric value").toList)
  else if misfit then p.complain (arg ++ ": Numerical result out of range".toList)
  else p

def whole (p : Printing) (signed : Bool) : Int × Printing :=
  let (arg, p) := p.next
  match arg with
  | '\'' :: cs => (((cs.head?.map Char.toNat).getD 0 : Nat), p)
  | '"' :: cs => (((cs.head?.map Char.toNat).getD 0 : Nat), p)
  | arg =>
    match Arithmetic.integer? arg with
    | none => (0, p.check arg false arg false)
    | some (n, rest) =>
      (bounded signed n, p.check arg true rest (bounded signed n ≠ n))

def real (p : Printing) : Fraction × Printing :=
  let (arg, p) := p.next
  match arg with
  | '\'' :: cs => (.finite false ((cs.head?.map Char.toNat).getD 0) 1, p)
  | '"' :: cs => (.finite false ((cs.head?.map Char.toNat).getD 0) 1, p)
  | arg =>
    match Fraction.ofFront? .double arg with
    | none => (.finite false 0 1, p.check arg false arg false)
    | some (r, rest, misfit) => (r, p.check arg true rest misfit)

def amount (p : Printing) : Amount → Int × Printing
  | .given n => (n, p)
  | .argument => p.whole true

def convert (p : Printing) (c : Conversion) : Printing :=
  let (width, p) := p.amount c.width
  let (precision, p) := match c.precision with
    | none => (none, p)
    | some a =>
      let (n, p) := p.amount a
      (if n < 0 then none else some n.toNat, p)
  let left := c.flags.contains '-' || width < 0
  let f : Filling := ⟨left, c.flags.contains '0' && !left, width.natAbs⟩
  let plain : Filling := { f with zero := false }
  if c.letter = 's' then
    let (arg, p) := p.next
    p.put (fill plain [] (arg.take (precision.getD arg.length)))
  else if c.letter = 'b' then
    let (arg, p) := p.next
    let (cs, stop) := unescaped arg
    let p := p.put (fill plain [] (cs.take (precision.getD cs.length)))
    { p with stopped := stop }
  else if c.letter = 'c' then
    let (arg, p) := p.next
    p.put (fill plain [] [arg.head?.getD '\x00'])
  else if "eEfFgG".toList.contains c.letter then
    let (r, p) := p.real
    p.put (realText f c.flags precision c.letter r)
  else
    let (n, p) := p.whole (c.letter = 'd' || c.letter = 'i')
    p.put (wholeText f c.flags precision c.letter n)

def step (p : Printing) (d : Directive) : Printing :=
  if p.stopped then p
  else
    match d with
    | .text c => p.put [c]
    | .convert c => p.convert c
    | .invalid source => p.stop (source ++ ": invalid directive".toList)
    | .unfinished => p.stop "missing format character".toList

end Printing

def passes (ds : List Directive) : Nat → Printing → Printing
  | 0, p => p
  | n + 1, p =>
    let p := ds.foldl Printing.step { p with used := false }
    if p.stopped || !p.used || p.arguments = [] then p else passes ds n p

def print (format : Chars) (arguments : List Chars) : Printing :=
  passes (directives (format.length + 1) format) (arguments.length + 1)
    ⟨arguments, false, [], [], 0, false⟩

def echoed (arguments : List Chars) : Chars :=
  let (newline, words) := match arguments with
    | ['-', 'n'] :: rest => (false, rest)
    | _ => (true, arguments)
  let (cs, stop) := unescaped (Text.join [' '] words)
  if newline && !stop then cs ++ ['\n'] else cs

end PoolCheck.Script.Format
