import PoolCheck.Conversion.Argument
import PoolCheck.Conversion.GraphFile

/-!
# The converter's command line

One argument names a graph and one its shape. Arguments with an equals sign that are not a shape
are passed over, so a graph cannot have such a path.
-/

set_option autoImplicit false

namespace PoolCheck.ConvertCommand

structure Draft where
  graph : Option Path
  shape : Option Shape

def isShapeArgument (arg : String) : Bool :=
  (Text.stripFront? ShapeArgument.key arg.toList).isSome

def take (d : Draft) (arg : String) : Except ConversionFault Draft :=
  if isShapeArgument arg then (ShapeArgument.parse arg).map fun s => { d with shape := some s }
  else if '=' ∈ arg.toList then .ok d
  else
    match d.graph with
    | none => .ok { d with graph := some arg }
    | some _ => .error (.extraArgument arg)

def takeAll (d : Draft) : List String → Except ConversionFault Draft
  | [] => .ok d
  | arg :: rest => do takeAll (← take d arg) rest

def parse (args : List String) : Except ConversionFault (Path × Shape) := do
  let d ← takeAll ⟨none, none⟩ args
  match d.graph, d.shape with
  | none, _ => .error .noGraphArgument
  | some _, none => .error .noShapeArgument
  | some graph, some shape => .ok (graph, shape)

def run (args : List String) : Action ConversionFault Artifact := do
  let (graph, shape) ← Action.ask fun _ => parse args
  convertGraphFile graph shape

def status : Except ConversionFault Artifact → Nat
  | .ok _ => 0
  | .error fault => if fault.aborts then abortStatus else 1

end PoolCheck.ConvertCommand
