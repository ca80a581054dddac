/-!
# Single-precision values as bit patterns

A value is its 32 bits, so copying one keeps the payload of a NaN and the sign of a zero.
Arithmetic and order are those of `Float32`: IEEE 754, rounding to nearest, ties to even.
-/

set_option autoImplicit false

namespace PoolCheck

structure Binary32 where
  bits : UInt32
  deriving DecidableEq, Inhabited

namespace Binary32

def toFloat32 (x : Binary32) : Float32 := Float32.ofBits x.bits

def ofFloat32 (x : Float32) : Binary32 := ⟨x.toBits⟩

def zero : Binary32 := ⟨0⟩

def one : Binary32 := ⟨0x3f800000⟩

def infinity : Binary32 := ⟨0x7f800000⟩

def negInfinity : Binary32 := ⟨0xff800000⟩

def nan : Binary32 := ⟨0x7fc00000⟩

instance : Add Binary32 := ⟨fun x y => ofFloat32 (x.toFloat32 + y.toFloat32)⟩

instance : Sub Binary32 := ⟨fun x y => ofFloat32 (x.toFloat32 - y.toFloat32)⟩

instance : Mul Binary32 := ⟨fun x y => ofFloat32 (x.toFloat32 * y.toFloat32)⟩

instance : Div Binary32 := ⟨fun x y => ofFloat32 (x.toFloat32 / y.toFloat32)⟩

/-- Numerical equality: the two zeros are equal, and a NaN equals nothing. -/
def equal (x y : Binary32) : Bool := x.toFloat32 == y.toFloat32

def less (x y : Binary32) : Bool := Float32.lt x.toFloat32 y.toFloat32

def lessOrEqual (x y : Binary32) : Bool := Float32.le x.toFloat32 y.toFloat32

def isNegative (x : Binary32) : Bool := 0x80000000 ≤ x.bits

def isNaN (x : Binary32) : Bool := x.toFloat32.isNaN

def isInfinite (x : Binary32) : Bool := x.toFloat32.isInf

def isFinite (x : Binary32) : Bool := x.toFloat32.isFinite

def abs (x : Binary32) : Binary32 := ⟨x.bits &&& 0x7fffffff⟩

def negate (x : Binary32) : Binary32 := ⟨x.bits ^^^ 0x80000000⟩

def larger (x y : Binary32) : Binary32 := if x.less y then y else x

def ofCount (n : Nat) : Binary32 := ofFloat32 (UInt64.ofNat n).toFloat32

/-- A finite value without its sign is `mantissa * 2 ^ exponent`. `narrow` marks a power of two
whose lower neighbour is only half as far away as its upper one. -/
structure Magnitude where
  mantissa : Nat
  exponent : Int
  narrow : Bool
  deriving DecidableEq

def magnitude (x : Binary32) : Magnitude :=
  let fraction := (x.bits &&& 0x7fffff).toNat
  let biased := ((x.bits >>> 23) &&& 0xff).toNat
  if biased = 0 then ⟨fraction, -149, false⟩
  else ⟨fraction + 0x800000, (biased : Int) - 150, fraction = 0 && 1 < biased⟩

end Binary32

end PoolCheck
