import PoolCheck.Conversion.Action
import PoolCheck.Exchange.Module

/-!
# Exporting

An operator sequence and its input are written as two files that a converter reads.
-/

set_option autoImplicit false

namespace PoolCheck

structure Exported where
  graphPath : Path
  inputPath : Path
  inputShape : Shape
  deriving DecidableEq

/-- A name can be used for files when it does not lead into another directory. -/
def isGraphName (name : String) : Bool :=
  name ≠ "" && name.toList.all fun c => c ≠ '/' && c ≠ '\\'

def exportedGraph (q : OperatorSequence) (shape : Shape) (name : String) : Graph :=
  ⟨formatVersion, name, shape, name ++ ".input.npy", q⟩

def exportGraph (q : OperatorSequence) (input : Tensor) (dir : Path) (name : String) :
    Action Fault Exported := do
  if !isGraphName name then throw (.configuration (.graphName name))
  let _ ← Action.ask fun _ => (q.inferShapes input.shape).mapError .configuration
  let graphPath := dir.join (name ++ ".json")
  let inputPath := dir.join (name ++ ".input.npy")
  Action.change (·.writeTensor? inputPath input)
    (.conversion (.unwritableInput (.unwritableFile inputPath)))
  Action.change (·.writeText? graphPath (exportedGraph q input.shape name).text)
    (.conversion .unwritableGraph)
  pure ⟨graphPath, inputPath, input.shape⟩

end PoolCheck
