import PoolCheck.Binary32.Literal
import PoolCheck.Word

/-!
# Reading written numbers

There are two readings of a literal. In exchanged documents a whole number is converted directly
when it fits a word; any other number goes through double precision: its digits are gathered into
one 64-bit significand, as many as fit, which is then multiplied or divided by one power of ten.
On the command line a literal is the single-precision value nearest to it.
-/

set_option autoImplicit false

namespace PoolCheck

open Float.Model (UnpackedFloat)

namespace Binary32

def ofUnpacked (x : UnpackedFloat) : Binary32 := ⟨⟨UnpackedFloat.pack .binary32 x⟩⟩

def ofDouble (x : Float) : Binary32 :=
  match UnpackedFloat.unpack .binary64 x.toBits.toBitVec with
  | .finite sign mantissa exponent _ => ofUnpacked (.round .binary32 sign mantissa exponent)
  | other => ofUnpacked other

def ofDecimal (d : Decimal) : Binary32 :=
  ofUnpacked (.ofScientific .binary32 d.significand d.exponent)

end Binary32

/-- A significand that fits a word, and an exponent of ten. -/
structure Gathered where
  significand : Nat
  exponent : Int
  deriving DecidableEq

namespace Gathered

def push (g : Gathered) (c : Char) : Nat := Nat.ofDigitChars 10 [c] g.significand

def fits (g : Gathered) (c : Char) : Bool := g.push c < wordLimit

/-- Adds whole digits. From the first digit that does not fit, each one only scales. -/
def whole (g : Gathered) : List Char → Gathered
  | [] => g
  | c :: cs =>
    if g.fits c then whole ⟨g.push c, g.exponent⟩ cs
    else ⟨g.significand, g.exponent + (cs.length + 1 : Nat)⟩

/-- Adds digits after the point. From the first digit that does not fit, all are dropped. -/
def fraction (g : Gathered) : List Char → Gathered
  | [] => g
  | c :: cs => if g.fits c then fraction ⟨g.push c, g.exponent - 1⟩ cs else g

def powerOfTen (e : Nat) : Float := .ofScientific 1 false e

def shrink (x : Float) (e : Nat) : Float :=
  if e ≤ 308 then x / powerOfTen e
  else if x == 0.0 then x
  else shrink (x / powerOfTen 308) (e - 308)
termination_by e

def double? (g : Gathered) : Option Float :=
  let x := (UInt64.ofNat g.significand).toFloat
  if 0 ≤ g.exponent then
    if g.exponent ≤ 308 then
      let y := x * powerOfTen g.exponent.toNat
      if y.isInf then none else some y
    else if g.significand = 0 then some x
    else none
  else some (shrink x g.exponent.natAbs)

end Gathered

namespace Literal

def isWhole (l : Literal) : Bool := l.fraction = [] && l.exponent = none

def wholeValue (ds : List Char) : Nat := Nat.ofDigitChars 10 ds 0

def nat? (l : Literal) : Option Nat :=
  if l.isWhole && !l.negative then some (wholeValue l.whole) else none

def gathered (l : Literal) : Gathered :=
  let g := (Gathered.whole ⟨0, 0⟩ l.whole).fraction l.fraction
  ⟨g.significand, g.exponent + l.exponent.getD 0⟩

def value? (l : Literal) : Option Binary32 :=
  let n := wholeValue l.whole
  let direct := l.isWhole && if l.negative then 0 < n && n ≤ signLimit else n < wordLimit
  let signed (x : Binary32) := if l.negative then x.negate else x
  if direct then some (signed (.ofCount n))
  else l.gathered.double?.map fun x => signed (.ofDouble x)

def nearest (l : Literal) : Binary32 :=
  let x := Binary32.ofDecimal
    ⟨wholeValue (l.whole ++ l.fraction), l.exponent.getD 0 - (l.fraction.length : Int)⟩
  if l.negative then x.negate else x

end Literal

end PoolCheck
