import PoolCheck.Pool.Window

/-!
# Feature maps

A feature map is a tensor of rank four: images, channels, rows, columns. It is read by position,
and built from a function of the position.
-/

set_option autoImplicit false

namespace PoolCheck

structure MapShape where
  batch : Nat
  channels : Nat
  height : Nat
  width : Nat
  deriving DecidableEq, Inhabited

namespace MapShape

def toShape (s : MapShape) : Shape := [s.batch, s.channels, s.height, s.width]

/-- The planes an operator can work on: rank four, with at least one row and one column. -/
def forOperator (op : String) : Shape → Except ConfigFault MapShape
  | [n, c, h, w] =>
    if h = 0 ∨ w = 0 then .error (.emptyPlane op [n, c, h, w]) else .ok ⟨n, c, h, w⟩
  | s => .error (.notRankFour op s)

def resize (s : MapShape) (height width : Nat) : MapShape := ⟨s.batch, s.channels, height, width⟩

def place (s : MapShape) (b c i j : Nat) : Nat :=
  ((b * s.channels + c) * s.height + i) * s.width + j

end MapShape

structure FeatureMap where
  shape : MapShape
  data : Array Binary32
  size_eq : data.size = volume shape.toShape

namespace FeatureMap

def entry (x : FeatureMap) (b c i j : Nat) : Binary32 :=
  x.data.getD (x.shape.place b c i j) .zero

def ofFn (s : MapShape) (f : Nat → Nat → Nat → Nat → Binary32) : FeatureMap where
  shape := s
  data := Array.ofFn (n := volume s.toShape) fun k =>
    f (k / s.width / s.height / s.channels) (k / s.width / s.height % s.channels)
      (k / s.width % s.height) (k % s.width)
  size_eq := by simp

def toTensor (x : FeatureMap) : Tensor := ⟨x.shape.toShape, x.data, x.size_eq⟩

end FeatureMap

def Tensor.toFeatureMap? (x : Tensor) : Option FeatureMap :=
  match x with
  | ⟨[n, c, h, w], data, size_eq⟩ => some ⟨⟨n, c, h, w⟩, data, size_eq⟩
  | _ => none

end PoolCheck
