import PoolCheck.Tensor

/-!
# Tensors as text

Up to rank two every element is shown, one row a line; from rank three on the shape and the first
eight elements.
-/

set_option autoImplicit false

namespace PoolCheck.Tensor

def cell (x : Binary32) : String := padLeft 8 x.fixedText

def bracket (separator : String) (items : List String) : String :=
  "[" ++ String.intercalate separator items ++ "]"

def grid (x : Tensor) : String :=
  let element (k : Nat) := cell (x.data.getD k .zero)
  match x.shape with
  | [] => element 0
  | [n] => bracket ", \n " ((List.range n).map element)
  | n :: m :: _ => bracket ", \n " ((List.range n).map fun i =>
      bracket ", " ((List.range m).map fun j => element (i * m + j)))

def preview (x : Tensor) : String :=
  String.intercalate ", " ((x.data.toList.take 8).map Binary32.fixedText) ++
    if 8 < x.size then ", ..." else ""

def text (x : Tensor) : String :=
  let shape := shapeText x.shape
  if 2 < x.rank then
    let count := toString x.size
    s!"<形状：{shape}，共{count}个元素> [{x.preview}]\n"
  else s!"{x.grid}\n形状: {shape}\n"

end PoolCheck.Tensor
