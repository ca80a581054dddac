/-!
# Pooling operators

The two operators of the program and their parameters. Nothing is checked here: an operator may
hold parameters that no plane can be pooled with.
-/

set_option autoImplicit false

namespace PoolCheck

structure Pair where
  h : Nat
  w : Nat
  deriving DecidableEq, Inhabited

def Pair.square (k : Nat) : Pair := ⟨k, k⟩

def Pair.text (p : Pair) : String := s!"({p.h}, {p.w})"

structure Axis where
  kernel : Nat
  stride : Nat
  padding : Nat
  deriving DecidableEq

structure Geometry where
  kernel : Pair
  stride : Pair
  padding : Pair
  ceilMode : Bool
  deriving DecidableEq, Inhabited

namespace Geometry

def ofKernel (kernel : Pair) : Geometry := ⟨kernel, kernel, ⟨0, 0⟩, false⟩

def rows (g : Geometry) : Axis := ⟨g.kernel.h, g.stride.h, g.padding.h⟩

def cols (g : Geometry) : Axis := ⟨g.kernel.w, g.stride.w, g.padding.w⟩

end Geometry

structure AvgPool where
  geometry : Geometry
  countIncludePad : Bool
  divisorOverride : Option Nat
  deriving DecidableEq, Inhabited

structure MaxPool where
  geometry : Geometry
  deriving DecidableEq, Inhabited

def AvgPool.ofKernel (kernel : Pair) : AvgPool := ⟨.ofKernel kernel, true, none⟩

def MaxPool.ofKernel (kernel : Pair) : MaxPool := ⟨.ofKernel kernel⟩

inductive Operator where
  | avg (pool : AvgPool)
  | max (pool : MaxPool)
  deriving DecidableEq, Inhabited

namespace Operator

def geometry : Operator → Geometry
  | avg p => p.geometry
  | max p => p.geometry

def kind : Operator → String
  | avg _ => "AvgPool2d"
  | max _ => "MaxPool2d"

def geometryText (g : Geometry) : String :=
  s!"kernel_size={g.kernel.text}, stride={g.stride.text}, padding={g.padding.text}, " ++
    s!"ceil_mode={g.ceilMode}"

def text : Operator → String
  | avg p =>
    let tail := match p.divisorOverride with
      | some d => s!", divisor_override={d})"
      | none => ")"
    s!"avg_pool2d({geometryText p.geometry}, count_include_pad={p.countIncludePad}" ++ tail
  | max p => s!"max_pool2d({geometryText p.geometry})"

end Operator

/-! ## Parameters that are set one by one -/

inductive Geometry.Setting where
  | stride (p : Pair)
  | padding (p : Pair)
  | ceilMode (b : Bool)
  deriving DecidableEq

def Geometry.set (g : Geometry) : Geometry.Setting → Geometry
  | .stride p => { g with stride := p }
  | .padding p => { g with padding := p }
  | .ceilMode b => { g with ceilMode := b }

inductive AvgPool.Setting where
  | geometry (s : Geometry.Setting)
  | countIncludePad (b : Bool)
  | divisorOverride (d : Nat)
  deriving DecidableEq

def AvgPool.set (p : AvgPool) : AvgPool.Setting → AvgPool
  | .geometry s => { p with geometry := p.geometry.set s }
  | .countIncludePad b => { p with countIncludePad := b }
  | .divisorOverride d => { p with divisorOverride := some d }

def MaxPool.set (p : MaxPool) (s : Geometry.Setting) : MaxPool := ⟨p.geometry.set s⟩

end PoolCheck
