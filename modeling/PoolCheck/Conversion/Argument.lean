import PoolCheck.Fault
import PoolCheck.Text

/-!
# The shape argument

A converter is told the shape of its input as `inputshape=[d0,...,dn]`, with blanks allowed around
each number and the name of the element type behind it. No extent may be zero.
-/

set_option autoImplicit false

namespace PoolCheck.ShapeArgument

def key : List Char := "inputshape=".toList

def elementType : List Char := "f32".toList

def body? (cs : List Char) : Option (List Char) := do
  let rest ← Text.stripFront? key cs
  let rest := (Text.stripBack? elementType rest).getD rest
  Text.stripBack? [']'] (← Text.stripFront? ['['] rest)

def counts? : List (List Char) → Option (List Nat)
  | [] => some []
  | w :: ws => do some ((← Text.count? (Text.trim w)) :: (← counts? ws))

def numbers? (cs : List Char) : Option Shape := do
  let body ← body? cs
  if Text.trim body = [] then none else counts? (Text.split ',' body)

def parse (arg : String) : Except ConversionFault Shape :=
  match numbers? arg.toList with
  | none => .error (.shapeArgument arg)
  | some s => if 0 ∈ s then .error (.emptyExtent s) else .ok s

def format (s : Shape) : String :=
  String.ofList (key ++ '[' :: Text.join [','] (s.map (Nat.toDigits 10)) ++ [']'])

end PoolCheck.ShapeArgument
