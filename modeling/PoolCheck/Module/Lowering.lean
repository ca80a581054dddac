import PoolCheck.Module.Basic

/-!
# Lowering

What the converter of this program does: every operator becomes one stage. Padding becomes
explicit, and the divisors of an average are computed once and stored as a table.
-/

set_option autoImplicit false

namespace PoolCheck

namespace AvgPool

def divisorTable (p : AvgPool) (s out : MapShape) : Array Binary32 :=
  ((List.range out.height).flatMap fun i => (List.range out.width).map fun j =>
    .ofCount (p.divisor (p.geometry.rows.window s.height i)
      (p.geometry.cols.window s.width j))).toArray

end AvgPool

namespace Operator

/-- Padding such that unpadded windows end where the padded plane does. -/
def padding (g : Geometry) (s out : MapShape) (value : PadValue) : Primitive :=
  .pad g.padding.h (g.rows.trailing s.height out.height)
    g.padding.w (g.cols.trailing s.width out.width) value

def primitives (s out : MapShape) : Operator → List Primitive
  | avg p =>
    let g := p.geometry
    [padding g s out .zero, .windowSum g.kernel g.stride,
      match p.divisorOverride with
      | some d => .divideByScalar (.ofCount d)
      | none => .divideByMap out.height out.width (p.divisorTable s out)]
  | max p =>
    let g := p.geometry
    [padding g s out .negInfinity, .windowMax g.kernel g.stride]

def tableFits (s out : MapShape) : Operator → Bool
  | avg p =>
    let g := p.geometry
    p.divisorOverride.isSome || (fitsMemory (out.height * out.width) 4 &&
      g.rows.windowsFit s.height out.height && g.cols.windowsFit s.width out.width &&
      p.divisorsFit (g.rows.windows s.height out.height) (g.cols.windows s.width out.width))
  | max _ => true

def paddingFits (g : Geometry) (s out : MapShape) : Bool :=
  g.rows.trailingFits s.height out.height && g.cols.trailingFits s.width out.width

def lower (op : Operator) (s : Shape) : Except ConfigFault (List Primitive) := do
  op.check
  let plane ← MapShape.forOperator op.kind s
  let out ← op.geometry.output plane
  if !(paddingFits op.geometry plane out && op.tableFits plane out) then throw .tooLarge
  pure (op.primitives plane out)

def stage (op : Operator) (s : Shape) : Except ConfigFault Stage := do
  let primitives ← op.lower s
  let out ← op.outputShape s
  pure ⟨op.text, out, primitives⟩

/-- The stages for operators in a row, and the shape that the last one leaves. -/
def stages (s : Shape) : List Operator → Except ConfigFault (List Stage × Shape)
  | [] => .ok ([], s)
  | op :: rest => do
    let first ← op.stage s
    let (others, last) ← stages first.outputShape rest
    pure (first :: others, last)

end Operator

namespace Graph

def lower (g : Graph) (declared : Shape) (paramFile : String) : Except ConversionFault Module :=
  if g.version ≠ formatVersion then .error (.graphVersion g.version)
  else if g.inputShape ≠ declared then .error (.declaredShape declared g.inputShape)
  else do
    let (stages, out) ← (Operator.stages declared g.operators.operators).mapError .lowering
    pure ⟨formatVersion, g.name, declared, out, paramFile, stages⟩

end Graph

end PoolCheck
