import PoolCheck.Binary32.Shortest

/-!
# Written decimal numbers

A literal is what is written: a sign, whole digits, digits after the point, an exponent of ten. A
style decides how a shortest decimal is laid out as a literal; each text form of the program is
one style.
-/

set_option autoImplicit false

namespace PoolCheck

structure Literal where
  negative : Bool
  whole : List Char
  fraction : List Char
  exponent : Option Int
  deriving DecidableEq, Inhabited

def integerText (x : Int) : List Char :=
  if x < 0 then '-' :: Nat.toDigits 10 x.natAbs else Nat.toDigits 10 x.natAbs

namespace Literal

def ofNat (n : Nat) : Literal := ⟨false, Nat.toDigits 10 n, [], none⟩

/-- `plus` asks for a sign before a positive exponent. -/
def chars (plus : Bool) (l : Literal) : List Char :=
  (if l.negative then ['-'] else []) ++ l.whole ++
  (if l.fraction = [] then [] else '.' :: l.fraction) ++
  match l.exponent with
  | none => []
  | some e => 'e' :: ((if plus && 0 ≤ e then ['+'] else []) ++ integerText e)

end Literal

/-- How a decimal is laid out. `positional` says which leading exponents are written without an
exponent part, `pointZero` whether a whole number written so still gets one digit after the
point. -/
structure NumberStyle where
  tie : Tie
  positional : Int → Bool
  pointZero : Bool
  plus : Bool

namespace NumberStyle

def exchange : NumberStyle := ⟨.even, fun e => -6 ≤ e && e ≤ 12, true, true⟩

def scientific : NumberStyle := ⟨.up, fun _ => false, false, false⟩

def plain : NumberStyle := ⟨.up, fun _ => true, false, false⟩

def layout (style : NumberStyle) (negative : Bool) (d : Decimal) : Literal :=
  let ds := Nat.toDigits 10 d.significand
  let e := d.leading
  if style.positional e then
    let (whole, fraction) :=
      if 0 ≤ e then
        let n := e.toNat + 1
        (ds.take n ++ List.replicate (n - ds.length) '0', ds.drop n)
      else (['0'], List.replicate ((-e).toNat - 1) '0' ++ ds)
    ⟨negative, whole, if fraction = [] && style.pointZero then ['0'] else fraction, none⟩
  else ⟨negative, ds.take 1, ds.drop 1, some e⟩

end NumberStyle

namespace Binary32

def literal (style : NumberStyle) (x : Binary32) : Literal :=
  style.layout x.isNegative (x.magnitude.shortest style.tie)

def unwritable (x : Binary32) : String :=
  if x.isNaN then "NaN" else if x.isNegative then "-inf" else "inf"

def text (style : NumberStyle) (x : Binary32) : String :=
  if x.isFinite then String.ofList ((x.literal style).chars style.plus) else x.unwritable

def fixedText (x : Binary32) : String :=
  if x.isFinite then
    let n := x.magnitude.roundToPlaces 4
    let fraction := (Nat.toDigits 10 (n % 10000)).leftpad 4 '0'
    String.ofList
      (Literal.chars false ⟨x.isNegative, Nat.toDigits 10 (n / 10000), fraction, none⟩)
  else x.unwritable

end Binary32

def padLeft (width : Nat) (s : String) : String :=
  String.ofList (List.replicate (width - s.length) ' ') ++ s

end PoolCheck
