import PoolCheck.Conversion.Action
import PoolCheck.Exchange.Module
import PoolCheck.Module.Lowering

/-!
# Converting a graph file

The module and its parameters are written beside the graph. All that can be wrong with the graph,
its input and the declared shape is found before the first of the two files is written.
-/

set_option autoImplicit false

namespace PoolCheck

structure Artifact where
  modulePath : Path
  paramPath : Path
  deriving DecidableEq

def convertedPaths (graph : Path) : Except ConversionFault Artifact :=
  match graph.fileStem? with
  | none => .error (.noFileName graph)
  | some stem =>
    let name := String.ofList stem ++ "_converted"
    .ok ⟨graph.parent.join (name ++ ".json"), graph.parent.join (name ++ ".npy")⟩

structure ConversionPlan where
  artifact : Artifact
  params : Tensor
  code : Module

def readGraph (fs : FileSystem) (graph : Path) : Except ConversionFault Graph :=
  match fs.readText? graph with
  | none => .error (.unreadableGraph graph)
  | some text =>
    match Graph.ofText text with
    | .ok g => .ok g
    | .error .malformed => .error .malformedGraph
    | .error (.refused cause) => .error (.refusedGraph cause)

/-- The name by which a module refers to its parameters. -/
def paramName (a : Artifact) : String := String.ofList (a.paramPath.fileName?.getD [])

def planConversion (graph : Path) (declared : Shape) (fs : FileSystem) :
    Except ConversionFault ConversionPlan := do
  let g ← readGraph fs graph
  let artifact ← convertedPaths graph
  let code ← g.lower declared (paramName artifact)
  let input ← (fs.readTensor (graph.parent.join g.inputFile)).mapError .unreadableInput
  if input.shape ≠ declared then .error (.storedShape input.shape declared)
  else pure ⟨artifact, input, code⟩

def convertGraphFile (graph : Path) (declared : Shape) : Action ConversionFault Artifact := do
  let plan ← Action.ask (planConversion graph declared)
  let a := plan.artifact
  Action.change (·.writeTensor? a.paramPath plan.params)
    (.unwritableParams (.unwritableFile a.paramPath))
  Action.change (·.writeText? a.modulePath plan.code.text) .unwritableModule
  pure a

end PoolCheck
