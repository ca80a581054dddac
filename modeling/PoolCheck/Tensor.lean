import PoolCheck.Binary32.Literal
import PoolCheck.Word

/-!
# Dense tensors

A tensor is a shape and its elements in row-major order. Every tensor has as many elements as its
shape asks for. A shape whose extents other than zero multiply to more than a signed word holds
cannot be addressed, even when it has no element. Asking for a tensor that no memory can hold is
not an ordinary fault: it ends the program.
-/

set_option autoImplicit false

namespace PoolCheck

abbrev Shape := List Nat

def volume : Shape → Nat
  | [] => 1
  | d :: ds => d * volume ds

/-- Whether the products of the extents, multiplied from the front, are words. -/
def countable (s : Shape) : Bool :=
  (List.range s.length).all fun n => volume (s.take (n + 1)) < wordLimit

def addressable (s : Shape) : Bool := volume (s.filter (· ≠ 0)) < signLimit

def fitsMemory (n size : Nat) : Bool := n * size < signLimit

def holdable (s : Shape) : Bool := addressable s && fitsMemory (volume s) 4

def shapeText (s : Shape) : String :=
  "[" ++ String.intercalate ", " (s.map fun d => toString d) ++ "]"

/-- The multi-index of a row-major position, innermost axis first. An axis without extent gets
index zero and takes no part. -/
def unravelInner : Shape → Nat → List Nat
  | [], _ => []
  | d :: ds, k => if d = 0 then 0 :: unravelInner ds k else k % d :: unravelInner ds (k / d)

def unravel (s : Shape) (k : Nat) : List Nat := (unravelInner s.reverse k).reverse

def ravel : Shape → List Nat → Nat
  | [], _ => 0
  | _ :: _, [] => 0
  | _ :: ds, i :: is => i * volume ds + ravel ds is

def inRange : Shape → List Nat → Bool
  | [], [] => true
  | d :: ds, i :: is => i < d && inRange ds is
  | _, _ => false

structure Tensor where
  shape : Shape
  data : Array Binary32
  size_eq : data.size = volume shape

inductive TensorFault where
  | wrongLength (length : Nat) (shape : Shape)
  | unaddressable
  | tooLarge
  | unreadableFile (path : String)
  | unwritableFile (path : String)
  deriving DecidableEq

inductive IndexFault where
  | wrongRank (given rank : Nat)
  | outOfRange
  deriving DecidableEq

namespace Tensor

def ofData (data : Array Binary32) (shape : Shape) : Except TensorFault Tensor :=
  if !countable shape then .error .tooLarge
  else if h : data.size = volume shape then
    if addressable shape then .ok ⟨shape, data, h⟩ else .error .unaddressable
  else .error (.wrongLength data.size shape)

def zeros (shape : Shape) : Except TensorFault Tensor :=
  if holdable shape then .ok ⟨shape, Array.replicate (volume shape) .zero, by simp⟩
  else .error .tooLarge

def rank (x : Tensor) : Nat := x.shape.length

def size (x : Tensor) : Nat := x.data.size

def equal (x y : Tensor) : Bool :=
  x.shape == y.shape && (x.data.zip y.data).all fun p => p.1.equal p.2

def index (x : Tensor) (i : List Nat) : Except IndexFault Binary32 :=
  if i.length ≠ x.rank then .error (.wrongRank i.length x.rank)
  else if inRange x.shape i then .ok (x.data.getD (ravel x.shape i) .zero)
  else .error .outOfRange

end Tensor

end PoolCheck
