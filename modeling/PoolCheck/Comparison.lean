import PoolCheck.Tensor

/-!
# Verdicts on two tensors

A policy says which pairs of elements are accepted. The verdict passes when every pair is. A
diagnostic is given as soon as one pair differs numerically, even if the policy accepts it.
-/

set_option autoImplicit false

namespace PoolCheck

inductive Policy where
  | exact
  | tolerance (abs rel : Binary32)
  deriving DecidableEq, Inhabited

structure Diagnostic where
  maxAbsDiff : Binary32
  firstMismatch : List Nat
  mismatchCount : Nat
  elementCount : Nat
  deriving DecidableEq

structure Verdict where
  passed : Bool
  diagnostic : Option Diagnostic
  deriving DecidableEq

namespace Policy

def text : Policy → String
  | exact => "exact"
  | tolerance abs rel =>
    s!"tolerance(abs={abs.text .scientific}, rel={rel.text .scientific})"

/-- Near in absolute terms, or relative to the larger of the two. Infinities accept nothing but
themselves. -/
def near (abs rel a b : Binary32) : Bool :=
  if a.equal b then true
  else if a.isInfinite || b.isInfinite then false
  else
    let gap := (a - b).abs
    if gap.lessOrEqual abs then true
    else gap.lessOrEqual ((if a.abs.less b.abs then b.abs else a.abs) * rel)

def accepts : Policy → Binary32 → Binary32 → Bool
  | exact, a, b => a.equal b
  | tolerance abs rel, a, b => near abs rel a b

end Policy

def Diagnostic.text (d : Diagnostic) : String :=
  s!"{d.mismatchCount}/{d.elementCount} 个元素不一致，最大绝对差 " ++
    s!"{d.maxAbsDiff.text .scientific}，首个差异位于 {shapeText d.firstMismatch}"

structure Scan where
  position : Nat
  maxAbsDiff : Binary32
  firstUnequal : Option Nat
  firstRejected : Option Nat
  rejected : Nat

namespace Scan

def start : Scan := ⟨0, .zero, none, none, 0⟩

/-- The larger difference so far; once a NaN was met it stays. -/
def widen (seen gap : Binary32) : Binary32 :=
  if gap.isNaN || seen.isNaN then .nan else seen.larger gap

def step (policy : Policy) (s : Scan) (a b : Binary32) : Scan :=
  if a.equal b then { s with position := s.position + 1 }
  else
    let ok := policy.accepts a b
    { position := s.position + 1
      maxAbsDiff := widen s.maxAbsDiff (a - b).abs
      firstUnequal := s.firstUnequal.or (some s.position)
      firstRejected := if ok then s.firstRejected else s.firstRejected.or (some s.position)
      rejected := if ok then s.rejected else s.rejected + 1 }

def run (policy : Policy) (s : Scan) : List (Binary32 × Binary32) → Scan
  | [] => s
  | (a, b) :: rest => run policy (step policy s a b) rest

def verdict (s : Scan) (shape : Shape) (count : Nat) : Verdict :=
  match s.firstUnequal with
  | none => ⟨true, none⟩
  | some k =>
    ⟨s.rejected = 0, some ⟨s.maxAbsDiff, unravel shape (s.firstRejected.getD k), s.rejected, count⟩⟩

end Scan

def Policy.judge (policy : Policy) (x y : Tensor) : Verdict :=
  (Scan.start.run policy (x.data.toList.zip y.data.toList)).verdict x.shape x.size

end PoolCheck
