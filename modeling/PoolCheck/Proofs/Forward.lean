import PoolCheck.Proofs.Comparison
import PoolCheck.Proofs.Sight
import PoolCheck.Proofs.Tensor.Random

/-!
# The trusted run on values that are not below zero

Each window sees at least one element and each divisor is a positive count, so pooling leads from
such values to such values, and the same holds of a whole run. Its result therefore has no NaN and
equals itself.
-/

set_option autoImplicit false

namespace PoolCheck

open Binary32

def FeatureMap.Unsigned (x : FeatureMap) : Prop := ∀ k, (x.data.getD k .zero).Unsigned

theorem FeatureMap.unsigned_ofFn {s : MapShape} {f : Nat → Nat → Nat → Nat → Binary32}
    (h : ∀ b c i j, i < s.height → j < s.width → (f b c i j).Unsigned) : (ofFn s f).Unsigned := by
  intro k
  simp only [ofFn, Array.getD_eq_getD_getElem?, Array.getElem?_ofFn]
  split_ifs with hk
  · obtain ⟨-, -, hi, hj⟩ := MapShape.place_split hk
    exact h _ _ _ _ hi hj
  · exact Unsigned.zero

/-! ## Windows -/

theorem unsigned_of_mem_patch {rows cols : Window} {plane : Nat → Nat → Binary32}
    (h : ∀ i j, (plane i j).Unsigned) {x : Binary32} (hx : x ∈ patch rows cols plane) :
    x.Unsigned := by
  obtain ⟨i, -, hx⟩ := List.mem_flatMap.1 hx
  obtain ⟨j, -, rfl⟩ := List.mem_map.1 hx
  exact h i j

theorem unsigned_foldl {f : Binary32 → Binary32 → Binary32}
    (hf : ∀ a x, a.Unsigned → x.Unsigned → (f a x).Unsigned) {xs : List Binary32} {a : Binary32}
    (ha : a.Unsigned) (h : ∀ x ∈ xs, x.Unsigned) : (xs.foldl f a).Unsigned := by
  induction xs generalizing a with
  | nil => exact ha
  | cons x xs ih =>
    rw [List.foldl_cons]
    exact ih (hf a x ha (h x List.mem_cons_self)) fun y hy => h y (List.mem_cons_of_mem _ hy)

theorem unsigned_sum {xs : List Binary32} (h : ∀ x ∈ xs, x.Unsigned) : (sum xs).Unsigned :=
  unsigned_foldl (fun _ _ ha hx => ha.add hx) Unsigned.zero h

theorem unsigned_maxStep {m x : Binary32} (hm : m.Unsigned) (hx : x.Unsigned) :
    (maxStep m x).Unsigned := by
  unfold maxStep
  split_ifs
  · exact hx
  · exact hm

theorem unsigned_maximum {xs : List Binary32} (hne : xs ≠ []) (h : ∀ x ∈ xs, x.Unsigned) :
    (maximum xs).Unsigned := by
  cases xs with
  | nil => exact absurd rfl hne
  | cons x xs =>
    have hx := h x List.mem_cons_self
    rw [maximum, List.foldl_cons, maxStep_negInfinity]
    exact unsigned_foldl (fun _ _ => unsigned_maxStep) hx fun y hy =>
      h y (List.mem_cons_of_mem _ hy)

/-! ## Runs -/

theorem Operator.Turns.unsigned_poolMap {op : Operator} {s out : MapShape} (h : op.Turns s out)
    {x : FeatureMap} (hs : x.shape = s) (hx : x.Unsigned) : (op.poolMap x out).Unsigned := by
  subst hs
  apply FeatureMap.unsigned_ofFn
  intro b c i j hi hj
  have hpatch : ∀ rows cols, ∀ v ∈ patch rows cols (x.entry b c), v.Unsigned := by
    intro rows cols v hv
    exact unsigned_of_mem_patch (fun i j => hx _) hv
  cases op with
  | avg p =>
    refine (congrArg Binary32.Unsigned (h.pool_eq hi hj (x.entry b c))).mpr ?_
    exact (unsigned_sum (hpatch _ _)).div_ofCount (h.divisor_pos hi hj)
      (h.held.divisor p rfl i hi j hj)
  | max p =>
    exact unsigned_maximum (patch_ne_nil (h.row_seen hi) (h.col_seen hj) _) (hpatch _ _)

theorem Operator.Chain.unsigned_forwardAll {s : Shape} {ops : List Operator} {shapes : List Shape}
    (h : Operator.Chain s ops shapes) {x y : Tensor} (hs : x.shape = s) (hx : x.Unsigned)
    (hy : OperatorSequence.forwardAll x ops = .ok y) : y.Unsigned := by
  induction h generalizing x with
  | nil s =>
    cases hy
    exact hx
  | @cons op rest plane out shapes turns _ ih =>
    obtain ⟨map, -, hm, rfl⟩ := Tensor.exists_toFeatureMap? hs
    rw [OperatorSequence.forwardAll, turns.forward hm] at hy
    have hmap : (op.poolMap map out).Unsigned := turns.unsigned_poolMap hm hx
    exact ih (x := (op.poolMap map out).toTensor) rfl hmap hy

theorem OperatorSequence.agree_of_run {q : OperatorSequence} {x y : Tensor} {shapes : List Shape}
    (hn : q.NoWrap x.shape) (hi : q.inferShapes x.shape = .ok shapes) (hx : x.Unsigned)
    (hy : q.run x = .ok y) : y.Agree Binary32.equal y := by
  rw [run_of_shapes hi] at hy
  have hu := (chain_of_shapes hn hi).unsigned_forwardAll rfl hx hy
  exact ⟨rfl, fun k _ => (hu k).equal_self⟩

end PoolCheck
