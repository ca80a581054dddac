import PoolCheck.Exchange.Field

/-!
# Policies and diagnostics in exchanged documents
-/

set_option autoImplicit false

namespace PoolCheck

namespace Policy

def toJson : Policy → Json
  | exact => .record [("mode", .string "exact")]
  | tolerance abs rel =>
    .record [("mode", .string "tolerance"), ("abs", .ofFloat abs), ("rel", .ofFloat rel)]

/-- Beside the tag of the exact policy any members may stand, but no items. -/
def ofJson : Decoder Policy := fun v => do
  let (tag, body) ← v.tagged "mode"
  if tag = "exact" then
    match body with
    | .array (_ :: _) _ => .error .malformed
    | _ => pure exact
  else if tag = "tolerance" then
    let m ← Members.ofJson ["abs", "rel"] 2 body
    if m.whole then
      pure (tolerance (← m.required "abs" Decoder.float) (← m.required "rel" Decoder.float))
    else .error .malformed
  else .error .malformed

end Policy

def Diagnostic.toJson (d : Diagnostic) : Json :=
  .record [("max_abs_diff", .ofFloat d.maxAbsDiff), ("first_mismatch", .ofShape d.firstMismatch),
    ("mismatch_count", .ofNat d.mismatchCount), ("element_count", .ofNat d.elementCount)]

end PoolCheck
