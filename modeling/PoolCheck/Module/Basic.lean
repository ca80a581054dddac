import PoolCheck.Module.Primitive
import PoolCheck.Pool.Sequence

/-!
# Graphs and modules

A graph is what is handed to a converter: operators, and where their input is stored. A module is
what a converter hands back: stages of primitives, one for each operator, each with the shape it
should leave. A module is run on the tensor stored beside it.
-/

set_option autoImplicit false

namespace PoolCheck

structure Graph where
  version : Nat
  name : String
  inputShape : Shape
  inputFile : String
  operators : OperatorSequence
  deriving DecidableEq

structure Stage where
  source : String
  outputShape : Shape
  primitives : List Primitive
  deriving DecidableEq

structure Module where
  version : Nat
  source : String
  inputShape : Shape
  outputShape : Shape
  paramFile : String
  stages : List Stage
  deriving DecidableEq

structure LoadedModule where
  code : Module
  input : FeatureMap

namespace Stage

def run (index : Nat) (stage : Stage) (x : FeatureMap) : Except LoadFault FeatureMap := do
  let y ← Primitive.run stage.primitives x
  if y.shape.toShape = stage.outputShape then pure y
  else throw (.stageShape index stage.source y.shape.toShape stage.outputShape)

def runFrom (index : Nat) : List Stage → FeatureMap → Except LoadFault FeatureMap
  | [], x => .ok x
  | stage :: rest, x => do runFrom (index + 1) rest (← stage.run index x)

end Stage

namespace Module

/-- A module can be run on a tensor of rank four that has the declared shape. -/
def load (m : Module) (input : Tensor) : Except LoadFault LoadedModule :=
  if input.shape ≠ m.inputShape then .error (.embeddedShape input.shape m.inputShape)
  else
    match input.toFeatureMap? with
    | some x => .ok ⟨m, x⟩
    | none => .error (.notRankFour input.shape)

end Module

namespace LoadedModule

def infer (m : LoadedModule) : Except LoadFault Tensor :=
  (Stage.runFrom 0 m.code.stages m.input).map FeatureMap.toTensor

end LoadedModule

end PoolCheck
