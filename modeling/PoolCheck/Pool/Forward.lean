import PoolCheck.FeatureMap

/-!
# Pooling by cutting windows

The trusted meaning of the operators. Each element of the result is computed from the elements of
one plane that lie in one window, row by row. Nothing is padded: the windows are cut instead.
-/

set_option autoImplicit false

namespace PoolCheck

namespace Geometry

def output (g : Geometry) (s : MapShape) : Except ConfigFault MapShape := do
  let h ← g.rows.extent g.ceilMode s.height
  let w ← g.cols.extent g.ceilMode s.width
  pure (s.resize h w)

end Geometry

/-- The elements of a plane in a rectangle, in row-major order. -/
def patch (rows cols : Window) (plane : Nat → Nat → Binary32) : List Binary32 :=
  rows.positions.flatMap fun i => cols.positions.map (plane i)

def sum (xs : List Binary32) : Binary32 := xs.foldl (· + ·) .zero

/-- The larger of a maximum so far and the next element; a NaN is taken. -/
def maxStep (m x : Binary32) : Binary32 := if m.less x || x.isNaN then x else m

def maximum (xs : List Binary32) : Binary32 := xs.foldl maxStep .negInfinity

namespace AvgPool

def divisor (p : AvgPool) (rows cols : Window) : Nat :=
  match p.divisorOverride with
  | some d => d
  | none =>
    if p.countIncludePad then rows.paddedLength * cols.paddedLength
    else rows.length * cols.length

/-- Whether a word holds the divisor for each row window and each column window. -/
def divisorsFit (p : AvgPool) (rows cols : List Window) : Bool :=
  let most (f : Window → Nat) (ws : List Window) : Nat := ws.foldl (fun n w => Nat.max n (f w)) 0
  let fits (f : Window → Nat) : Bool := most f rows * most f cols < wordLimit
  p.divisorOverride.isSome ||
    fits (if p.countIncludePad then Window.paddedLength else Window.length)

def pool (p : AvgPool) (rows cols : Window) (plane : Nat → Nat → Binary32) : Binary32 :=
  if rows.isEmpty || cols.isEmpty then .zero
  else sum (patch rows cols plane) / .ofCount (p.divisor rows cols)

end AvgPool

namespace Operator

def outputShape (op : Operator) (s : Shape) : Except ConfigFault Shape := do
  let plane ← MapShape.forOperator op.kind s
  let out ← op.geometry.output plane
  pure out.toShape

def pool : Operator → Window → Window → (Nat → Nat → Binary32) → Binary32
  | avg p, rows, cols, plane => p.pool rows cols plane
  | max _, rows, cols, plane => maximum (patch rows cols plane)

def poolMap (op : Operator) (x : FeatureMap) (out : MapShape) : FeatureMap :=
  let g := op.geometry
  FeatureMap.ofFn out fun b c i j =>
    op.pool (g.rows.window x.shape.height i) (g.cols.window x.shape.width j) (x.entry b c)

def windowSize : Nat := 24

/-- Whether the windows that an operator keeps while it works can be made and held. -/
def windowsFit (g : Geometry) (s out : MapShape) : Bool :=
  fitsMemory out.height windowSize && fitsMemory out.width windowSize &&
    g.rows.windowsFit s.height out.height && g.cols.windowsFit s.width out.width

/-- Whether the divisors of an average over planes of a shape are words. Windows that see nothing
are not divided. -/
def divisorsFit (s out : MapShape) : Operator → Bool
  | avg p =>
    let g := p.geometry
    let seeing (ws : List Window) : List Window := ws.filter fun w => !w.isEmpty
    s.batch * s.channels = 0 || p.divisorsFit (seeing (g.rows.windows s.height out.height))
      (seeing (g.cols.windows s.width out.width))
  | max _ => true

def forward (op : Operator) (x : Tensor) : Except Fault Tensor := do
  op.check.mapError .configuration
  let plane ← (MapShape.forOperator op.kind x.shape).mapError .configuration
  let out ← (op.geometry.output plane).mapError .configuration
  if !(windowsFit op.geometry plane out && op.divisorsFit plane out) then
    throw (.tensor .tooLarge)
  if !addressable out.toShape then throw (.tensor .unaddressable)
  match x.toFeatureMap? with
  | some map => pure (op.poolMap map out).toTensor
  | none => throw (.configuration (.notRankFour op.kind x.shape))

end Operator

end PoolCheck
