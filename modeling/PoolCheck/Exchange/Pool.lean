import PoolCheck.Exchange.Field
import PoolCheck.Pool.Family

/-!
# Operators in exchanged documents

A pair is written as an array of two numbers and read from one number as well. An operator is a
tagged record. Left-out parameters have the values that an operator made from its kernel alone
has, and an operator that does not pass its check is refused.
-/

set_option autoImplicit false

namespace PoolCheck

namespace Pair

def toJson (p : Pair) : Json := .list [.ofNat p.h, .ofNat p.w]

def ofJson : Decoder Pair
  | .array [h, w] true => do pure ⟨← Decoder.word h, ← Decoder.word w⟩
  | v => (Decoder.word v).map square

end Pair

namespace Geometry

def fieldNames : List String := ["kernel_size", "stride", "padding", "ceil_mode"]

def members (g : Geometry) : List (String × Json) :=
  [("kernel_size", g.kernel.toJson), ("stride", g.stride.toJson),
    ("padding", g.padding.toJson), ("ceil_mode", .bool g.ceilMode)]

def ofMembers (m : Members) : Except ReadFault Geometry := do
  let kernel ← m.required "kernel_size" Pair.ofJson
  let stride ← m.withDefault "stride" none (Decoder.optional Pair.ofJson)
  let padding ← m.withDefault "padding" none (Decoder.optional Pair.ofJson)
  let ceilMode ← m.withDefault "ceil_mode" false Decoder.bool
  pure ⟨kernel, stride.getD kernel, padding.getD (.square 0), ceilMode⟩

end Geometry

/-- In an array the stride has to be there. -/
def Members.ofParameters (names : List String) (v : Json) : Except ReadFault Members := do
  let m ← Members.ofJson names 2 v
  if m.whole then pure m else .error .malformed

namespace AvgPool

def fieldNames : List String := Geometry.fieldNames ++ ["count_include_pad", "divisor_override"]

def members (p : AvgPool) : List (String × Json) :=
  p.geometry.members ++ [("count_include_pad", .bool p.countIncludePad)] ++
    (p.divisorOverride.map fun d => ("divisor_override", Json.ofNat d)).toList

def ofJson (v : Json) : Except ReadFault AvgPool := do
  let m ← Members.ofParameters fieldNames v
  let geometry ← Geometry.ofMembers m
  let countIncludePad ← m.withDefault "count_include_pad" true Decoder.bool
  let divisor ← m.withDefault "divisor_override" none (Decoder.optional Decoder.halfWord)
  pure ⟨geometry, countIncludePad, divisor⟩

end AvgPool

namespace MaxPool

def ofJson (v : Json) : Except ReadFault MaxPool := do
  let m ← Members.ofParameters Geometry.fieldNames v
  pure ⟨← Geometry.ofMembers m⟩

end MaxPool

namespace Operator

def members : Operator → List (String × Json)
  | avg p => p.members
  | max p => p.geometry.members

def toJson (op : Operator) : Json := .record (("type", .string op.kind) :: op.members)

def parametersOfJson (v : Json) : Except ReadFault Operator := do
  let (tag, body) ← v.tagged "type"
  if tag = "AvgPool2d" then (AvgPool.ofJson body).map avg
  else if tag = "MaxPool2d" then (MaxPool.ofJson body).map max
  else .error .malformed

def ofJson : Decoder Operator := fun v => do
  let op ← parametersOfJson v
  op.check.mapError .refused
  pure op

end Operator

namespace OperatorSequence

def toJson (q : OperatorSequence) : Json := .list (q.operators.map Operator.toJson)

def ofJson : Decoder OperatorSequence := fun v => do
  (ofList (← Decoder.list Operator.ofJson v)).mapError .refused

end OperatorSequence

namespace Family

def toJson (f : Family) : Json := .string f.text

def ofJson : Decoder Family := Decoder.choice ofText?

end Family

end PoolCheck
