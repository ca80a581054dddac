import PoolCheck.Binary32

/-!
# The shortest decimal that reads back

Every real number strictly between the two midpoints around a value rounds to that value, and so
do the midpoints themselves when the mantissa is even. Decimal grids are tried from coarse to
fine: on each, only the two points next to the value can lie in that interval. The first grid with
a hit wins, and of two hits the nearer one.
-/

set_option autoImplicit false

namespace PoolCheck

/-- The number `significand * 10 ^ exponent`. -/
structure Decimal where
  significand : Nat
  exponent : Int
  deriving DecidableEq, Inhabited

inductive Tie where
  | even
  | up
  deriving DecidableEq

def digitCount (n : Nat) : Nat := (Nat.toDigits 10 n).length

namespace Decimal

def trim : Nat → Decimal → Decimal
  | 0, d => d
  | fuel + 1, d =>
    if d.significand ≠ 0 ∧ d.significand % 10 = 0 then
      trim fuel ⟨d.significand / 10, d.exponent + 1⟩
    else d

def leading (d : Decimal) : Int :=
  d.exponent + (digitCount d.significand : Int) - 1

end Decimal

namespace Binary32.Magnitude

/-- The exponent of ten of the leading digit of a value that is not zero. Multiplying by `10 ^ 46`
makes every such value at least one. -/
def leadingExponent (v : Magnitude) : Int :=
  let raised := v.mantissa * Nat.pow 10 46 * Nat.pow 2 v.exponent.toNat
  (digitCount (raised / Nat.pow 2 (-v.exponent).toNat) : Int) - 47

/-- The hit on the grid of multiples of `10 ^ p`, if there is one. All quantities are multiplied
by one common factor that makes them whole. -/
def hit? (tie : Tie) (v : Magnitude) (p : Int) : Option Nat :=
  let quarter := Nat.pow 2 (v.exponent - 2).toNat * Nat.pow 10 (-p).toNat
  let unit := Nat.pow 10 p.toNat * Nat.pow 2 (2 - v.exponent).toNat
  let value := 4 * v.mantissa * quarter
  let low := (4 * v.mantissa - if v.narrow then 1 else 2) * quarter
  let high := (4 * v.mantissa + 2) * quarter
  let inside (x : Nat) : Bool :=
    if v.mantissa % 2 = 0 then low ≤ x && x ≤ high else low < x && x < high
  let below := value / unit
  let down := value - below * unit
  let up := (below + 1) * unit - value
  let preferDown : Bool :=
    down < up || (down == up && (match tie with | .even => below % 2 == 0 | .up => false))
  match inside (below * unit), inside ((below + 1) * unit) with
  | true, true => some (if preferDown then below else below + 1)
  | true, false => some below
  | false, true => some (below + 1)
  | false, false => none

/-- Nine digits always suffice. -/
def shortest (tie : Tie) (v : Magnitude) : Decimal :=
  if v.mantissa = 0 then ⟨0, 0⟩
  else
    let top := v.leadingExponent
    let found := (List.range 10).findSome? fun (n : Nat) =>
      (v.hit? tie (top - (n : Int))).map fun c => Decimal.mk c (top - (n : Int))
    (found.getD ⟨v.mantissa, 0⟩).trim 40

/-- The nearest multiple of `10 ^ -places`, counted in such multiples. A tie goes to the even
count. -/
def roundToPlaces (v : Magnitude) (places : Nat) : Nat :=
  let num := v.mantissa * Nat.pow 10 places * Nat.pow 2 v.exponent.toNat
  let den := Nat.pow 2 (-v.exponent).toNat
  let q := num / den
  let r := num % den
  if 2 * r < den then q else if den < 2 * r then q + 1 else q + q % 2

end Binary32.Magnitude

end PoolCheck
