import PoolCheck.Script.Arithmetic

/-!
# Numbers with a fraction

The notation of numbers with a fraction or an exponent, in tens or in sixteens, and the floats
that such numbers are rounded to.
-/

set_option autoImplicit false

namespace PoolCheck.Script

/-- How many bits a float has, and the exponents of its smallest and largest normal values. -/
structure FloatKind where
  bits : Nat
  lowest : Int
  highest : Int

namespace FloatKind

def double : FloatKind := ⟨53, -1022, 1023⟩

def extended : FloatKind := ⟨64, -16382, 16383⟩

end FloatKind

inductive Fraction where
  | finite (negative : Bool) (numerator denominator : Nat)
  | infinite (negative : Bool)
  | undefined

namespace Fraction

def roundHalfEven (a b : Nat) : Nat :=
  let q := a / b
  let r := a % b
  if 2 * r < b then q else if b < 2 * r then q + 1 else q + q % 2

def scale (a b base : Nat) (e : Int) : Nat × Nat :=
  if 0 ≤ e then (a * Nat.pow base e.toNat, b) else (a, b * Nat.pow base (-e).toNat)

def floorLog (a b : Nat) : Int :=
  let e : Int := (Nat.log2 a : Int) - Nat.log2 b
  let (p, q) := scale a b 2 (-e)
  if q ≤ p then e else e - 1

/-- The nearest float to a quotient. The flag tells that the quotient is too large, or too small
for all bits of its float and not exactly it. -/
def nearest (k : FloatKind) (negative : Bool) (a b : Nat) : Fraction × Bool :=
  if a = 0 then (finite negative 0 1, false)
  else
    let log := floorLog a b
    let e := max log k.lowest - (k.bits - 1 : Nat)
    let (p, q) := scale a b 2 (-e)
    let m := roundHalfEven p q
    let (n, d) := scale m 1 2 e
    if k.highest < floorLog n d then (infinite negative, true)
    else (finite negative n d, log < k.lowest && m * q ≠ p)

/-! ## Notation -/

/-- Digits with perhaps a point among them: their value without it, how many stand behind it, and
what follows. -/
def pointed? (base : Nat) (cs : Chars) : Option (Nat × Nat × Chars) :=
  let isDigit := Arithmetic.isDigitOf base
  let whole := cs.takeWhile isDigit
  let (fraction, rest) := match cs.drop whole.length with
    | '.' :: rest => (rest.takeWhile isDigit, rest.dropWhile isDigit)
    | rest => ([], rest)
  if whole = [] ∧ fraction = [] then none
  else some (Arithmetic.valueOf base (whole ++ fraction), fraction.length, rest)

/-- An exponent behind its letter, if there is one. It is bounded, which no float notices. -/
def exponent (letter : Char) (cs : Chars) : Int × Chars :=
  match cs with
  | [] => (0, [])
  | c :: after =>
    let (negative, ds) := match after with
      | '-' :: ds => (true, ds)
      | '+' :: ds => (false, ds)
      | ds => (false, ds)
    let digits := ds.takeWhile Char.isDigit
    if c.toLower ≠ letter || digits = [] then (0, cs)
    else
      let n : Int := min (Nat.ofDigitChars 10 digits 0) 1000000
      (if negative then -n else n, ds.drop digits.length)

def ofPower (k : FloatKind) (negative : Bool) (m base : Nat) (e : Int) : Fraction × Bool :=
  let log := (Nat.log2 m : Int) + e * Nat.log2 base
  if m = 0 then (finite negative 0 1, false)
  else if 0 ≤ e ∧ k.highest < log then (infinite negative, true)
  else if e < 0 ∧ log + 1 < k.lowest - k.bits then (finite negative 0 1, true)
  else
    let (a, b) := scale m 1 base e
    nearest k negative a b

def skipLabel (cs : Chars) : Chars :=
  match cs with
  | '(' :: rest =>
    match rest.dropWhile isNameChar with
    | ')' :: rest => rest
    | _ => cs
  | _ => cs

def unsigned? (k : FloatKind) (negative : Bool) (cs : Chars) :
    Option (Fraction × Chars × Bool) :=
  let lower := cs.map Char.toLower
  let behind? (word : String) : Option Chars :=
    (Text.stripFront? word.toList lower).map fun _ => cs.drop word.length
  let sixteens := match lower with
    | '0' :: 'x' :: _ => pointed? 16 (cs.drop 2)
    | _ => none
  match behind? "infinity", behind? "inf", behind? "nan", sixteens with
  | some rest, _, _, _ => some (infinite negative, rest, false)
  | _, some rest, _, _ => some (infinite negative, rest, false)
  | _, _, some rest, _ => some (undefined, skipLabel rest, false)
  | _, _, _, some (m, behind, rest) =>
    let (e, rest) := exponent 'p' rest
    let (r, misfit) := ofPower k negative m 2 (e - 4 * behind)
    some (r, rest, misfit)
  | _, _, _, _ =>
    (pointed? 10 cs).map fun (m, behind, rest) =>
      let (e, rest) := exponent 'e' rest
      let (r, misfit) := ofPower k negative m 10 (e - behind)
      (r, rest, misfit)

def ofFront? (k : FloatKind) (cs : Chars) : Option (Fraction × Chars × Bool) :=
  match cs.dropWhile Arithmetic.isSpace with
  | '-' :: rest => unsigned? k true rest
  | '+' :: rest => unsigned? k false rest
  | rest => unsigned? k false rest

end Fraction

end PoolCheck.Script
