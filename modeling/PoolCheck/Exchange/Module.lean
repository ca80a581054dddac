import PoolCheck.Exchange.Pool
import PoolCheck.Module.Basic

/-!
# Graphs and modules in exchanged documents

A primitive is a tagged record, a stage, a graph and a module are records. Members with other
names are passed over.
-/

set_option autoImplicit false

namespace PoolCheck

namespace PadValue

def text : PadValue → String
  | zero => "zero"
  | negInfinity => "neg_infinity"

def ofText? (s : String) : Option PadValue :=
  if s = "zero" then some zero
  else if s = "neg_infinity" then some negInfinity
  else none

end PadValue

namespace Primitive

def toJson : Primitive → Json
  | pad top bottom left right value =>
    .record [("op", .string "Pad"), ("top", .ofNat top), ("bottom", .ofNat bottom),
      ("left", .ofNat left), ("right", .ofNat right), ("value", .string value.text)]
  | windowSum kernel stride =>
    .record [("op", .string "WindowSum"), ("kernel", kernel.toJson), ("stride", stride.toJson)]
  | windowMax kernel stride =>
    .record [("op", .string "WindowMax"), ("kernel", kernel.toJson), ("stride", stride.toJson)]
  | divideByMap height width divisors =>
    .record [("op", .string "DivideByMap"), ("height", .ofNat height), ("width", .ofNat width),
      ("divisors", .list (divisors.toList.map .ofFloat))]
  | divideByScalar divisor =>
    .record [("op", .string "DivideByScalar"), ("divisor", .ofFloat divisor)]

def fields (names : List String) (v : Json) : Except ReadFault Members := do
  let m ← Members.ofJson names names.length v
  if m.whole then pure m else .error .malformed

def ofJson : Decoder Primitive := fun v => do
  let (tag, body) ← v.tagged "op"
  if tag = "Pad" then
    let m ← fields ["top", "bottom", "left", "right", "value"] body
    pure (pad (← m.required "top" Decoder.word) (← m.required "bottom" Decoder.word)
      (← m.required "left" Decoder.word) (← m.required "right" Decoder.word)
      (← m.required "value" (Decoder.innerChoice PadValue.ofText?)))
  else if tag = "WindowSum" then
    let m ← fields ["kernel", "stride"] body
    pure (windowSum (← m.required "kernel" Pair.ofJson) (← m.required "stride" Pair.ofJson))
  else if tag = "WindowMax" then
    let m ← fields ["kernel", "stride"] body
    pure (windowMax (← m.required "kernel" Pair.ofJson) (← m.required "stride" Pair.ofJson))
  else if tag = "DivideByMap" then
    let m ← fields ["height", "width", "divisors"] body
    let divisors ← m.required "divisors" (Decoder.list Decoder.float)
    pure (divideByMap (← m.required "height" Decoder.word) (← m.required "width" Decoder.word)
      divisors.toArray)
  else if tag = "DivideByScalar" then
    let m ← fields ["divisor"] body
    pure (divideByScalar (← m.required "divisor" Decoder.float))
  else .error .malformed

end Primitive

namespace Stage

def toJson (s : Stage) : Json :=
  .record [("source_op", .string s.source), ("output_shape", .ofShape s.outputShape),
    ("ops", .list (s.primitives.map Primitive.toJson))]

def ofJson : Decoder Stage := fun v => do
  let m ← Primitive.fields ["source_op", "output_shape", "ops"] v
  pure ⟨← m.required "source_op" Decoder.string, ← m.required "output_shape" Decoder.shape,
    ← m.required "ops" (Decoder.list Primitive.ofJson)⟩

end Stage

namespace Module

def fieldNames : List String :=
  ["format_version", "source", "input_shape", "output_shape", "param_file", "stages"]

def toJson (m : Module) : Json :=
  .record [("format_version", .ofNat m.version), ("source", .string m.source),
    ("input_shape", .ofShape m.inputShape), ("output_shape", .ofShape m.outputShape),
    ("param_file", .string m.paramFile), ("stages", .list (m.stages.map Stage.toJson))]

def ofJson : Decoder Module := fun v => do
  let m ← Primitive.fields fieldNames v
  pure ⟨← m.required "format_version" Decoder.halfWord, ← m.required "source" Decoder.string,
    ← m.required "input_shape" Decoder.shape, ← m.required "output_shape" Decoder.shape,
    ← m.required "param_file" Decoder.string, ← m.required "stages" (Decoder.list Stage.ofJson)⟩

def text (m : Module) : String := m.toJson.pretty

def ofText : String → Except ReadFault Module := Decoder.text ofJson

end Module

structure GraphDraft where
  version : Option Nat
  name : Option String
  inputShape : Option Shape
  inputFile : Option String
  operators : Option OperatorSequence

namespace GraphDraft

def empty : GraphDraft := ⟨none, none, none, none, none⟩

def set (d : GraphDraft) (name : String) (v : Json) : Except ReadFault GraphDraft :=
  if name = "format_version" then do pure { d with version := some (← Decoder.halfWord v) }
  else if name = "name" then do pure { d with name := some (← Decoder.string v) }
  else if name = "input_shape" then do pure { d with inputShape := some (← Decoder.shape v) }
  else if name = "input_file" then do pure { d with inputFile := some (← Decoder.string v) }
  else if name = "operators" then do
    pure { d with operators := some (← OperatorSequence.ofJson v) }
  else pure d

def finish? (d : GraphDraft) : Option Graph := do
  some ⟨← d.version, ← d.name, ← d.inputShape, ← d.inputFile, ← d.operators⟩

end GraphDraft

namespace Graph

def fieldNames : List String :=
  ["format_version", "name", "input_shape", "input_file", "operators"]

def toJson (g : Graph) : Json :=
  .record [("format_version", .ofNat g.version), ("name", .string g.name),
    ("input_shape", .ofShape g.inputShape), ("input_file", .string g.inputFile),
    ("operators", g.operators.toJson)]

def ofJson : Decoder Graph := fun v => do
  let m ← Members.ofJson fieldNames fieldNames.length v
  let d ← Members.fold fieldNames GraphDraft.set [] .empty m.named
  match d.finish?, m.whole with
  | some g, true => pure g
  | _, _ => .error .malformed

def text (g : Graph) : String := g.toJson.pretty

def ofText : String → Except ReadFault Graph := Decoder.text ofJson

end Graph

end PoolCheck
