import PoolCheck.Proofs.Operator
import PoolCheck.Proofs.Outcome

/-!
# Operators that are accepted

What it takes for an operator to pass its check, to give a shape, to be lowered and to pool a
tensor. No number is assumed to be small.
-/

set_option autoImplicit false

namespace PoolCheck

/-! ## Parameters that pass the check -/

theorem Axis.check_eq_ok {op : String} {along : Dimension} {a : Axis} :
    a.check op along = .ok () ↔ a.Sound := by
  refine ⟨sound_of_check, fun h => ?_⟩
  have hk := h.kernel_pos
  have hs := h.stride_pos
  have hp := h.padding_le
  rw [check, if_neg (by omega), if_neg (by omega), if_neg (by omega)]

theorem Geometry.check_eq_ok {op : String} {g : Geometry} :
    g.check op = .ok () ↔ g.rows.Sound ∧ g.cols.Sound := by
  rw [check, Except.check_bind_eq_ok, Axis.check_eq_ok, Axis.check_eq_ok]

namespace Operator

/-- Kernels and strides are positive, the padding is at most half the kernel along each dimension,
and a divisor that is given is not zero. -/
structure Sound (op : Operator) : Prop where
  rows : op.geometry.rows.Sound
  cols : op.geometry.cols.Sound
  divisor : ∀ p, op = .avg p → p.divisorOverride ≠ some 0

variable {op : Operator} {shape : Shape}

theorem check_eq_ok : op.check = .ok () ↔ op.Sound := by
  cases op with
  | max p =>
    rw [check, Geometry.check_eq_ok]
    refine ⟨fun h => ⟨h.1, h.2, fun p' hp => ?_⟩, fun h => ⟨h.rows, h.cols⟩⟩
    cases hp
  | avg p =>
    rw [check, Except.check_bind_eq_ok, Geometry.check_eq_ok]
    split_ifs with hd
    · refine iff_of_false (fun h => ?_) fun h => h.divisor p rfl hd
      cases h.2
    · refine ⟨fun h => ⟨h.1.1, h.1.2, fun p' hp => ?_⟩, fun h => ⟨⟨h.rows, h.cols⟩, rfl⟩⟩
      cases hp
      exact hd

end Operator

/-! ## Shapes and tensors that are accepted -/

theorem Geometry.output_eq_ok {g : Geometry} {s out : MapShape} : g.output s = .ok out ↔ ∃ h w,
    g.rows.extent g.ceilMode s.height = .ok h ∧ g.cols.extent g.ceilMode s.width = .ok w ∧
      out = s.resize h w := by
  unfold output
  simp only [Except.bind_eq_ok, Except.pure_eq_ok]
  constructor
  · rintro ⟨h, hh, w, hw, rfl⟩
    exact ⟨h, w, hh, hw, rfl⟩
  · rintro ⟨h, w, hh, hw, rfl⟩
    exact ⟨h, hh, w, hw, rfl⟩

namespace Operator

variable {op : Operator} {shape t : Shape}

theorem outputShape_eq_ok : op.outputShape shape = .ok t ↔ ∃ s out,
    MapShape.forOperator op.kind shape = .ok s ∧ op.geometry.output s = .ok out ∧
      t = out.toShape := by
  unfold outputShape
  simp only [Except.bind_eq_ok, Except.pure_eq_ok, eq_comm (a := t), exists_and_left]

theorem lower_eq_ok {ps : List Primitive} : op.lower shape = .ok ps ↔
    op.check = .ok () ∧ ∃ s out, MapShape.forOperator op.kind shape = .ok s ∧
      op.geometry.output s = .ok out ∧ paddingFits op.geometry s out = true ∧
      op.tableFits s out = true ∧ ps = op.primitives s out := by
  unfold lower
  simp only [Except.bind_eq_ok]
  constructor
  · rintro ⟨_, hc, s, hs, out, ho, h⟩
    cases hf : paddingFits op.geometry s out && op.tableFits s out
    · rw [hf] at h
      cases h
    · rw [hf] at h
      cases h
      obtain ⟨hp, ht⟩ := Bool.and_eq_true_iff.1 hf
      exact ⟨hc, s, out, hs, ho, hp, ht, rfl⟩
  · rintro ⟨hc, s, out, hs, ho, hp, ht, rfl⟩
    refine ⟨(), hc, s, hs, out, ho, ?_⟩
    rw [hp, ht]
    rfl

theorem stage_eq_ok {stage : Stage} : op.stage shape = .ok stage ↔ ∃ ps t,
    op.lower shape = .ok ps ∧ op.outputShape shape = .ok t ∧ stage = ⟨op.text, t, ps⟩ := by
  unfold Operator.stage
  simp only [Except.bind_eq_ok, Except.pure_eq_ok, eq_comm (a := stage), exists_and_left]

theorem forward_eq_ok {x y : Tensor} : op.forward x = .ok y ↔
    op.check = .ok () ∧ ∃ map out, x = map.toTensor ∧
      MapShape.forOperator op.kind x.shape = .ok map.shape ∧
      op.geometry.output map.shape = .ok out ∧ windowsFit op.geometry map.shape out = true ∧
      op.divisorsFit map.shape out = true ∧ addressable out.toShape = true ∧
      y = (op.poolMap map out).toTensor := by
  unfold forward
  simp only [Except.bind_eq_ok, mapError_eq_ok]
  constructor
  · rintro ⟨_, hc, plane, hs, out, ho, h⟩
    obtain ⟨map, hm, rfl, rfl⟩ := Tensor.exists_toFeatureMap? (MapShape.forOperator_eq_ok.1 hs).1
    cases hf : windowsFit op.geometry map.shape out && op.divisorsFit map.shape out
    · rw [hf] at h
      cases h
    cases ha : addressable out.toShape
    · rw [hf, ha] at h
      cases h
    rw [hf, ha] at h
    cases h
    obtain ⟨hw, hd⟩ := Bool.and_eq_true_iff.1 hf
    exact ⟨hc, map, out, rfl, hs, ho, hw, hd, ha, rfl⟩
  · rintro ⟨hc, map, out, rfl, hs, ho, hw, hd, ha, rfl⟩
    refine ⟨(), hc, map.shape, hs, out, ho, ?_⟩
    rw [hw, hd, ha]
    rfl

theorem outputShape_of_forward {x y : Tensor} (h : op.forward x = .ok y) :
    op.outputShape x.shape = .ok y.shape := by
  obtain ⟨-, map, out, -, hs, ho, -, -, -, rfl⟩ := forward_eq_ok.1 h
  exact outputShape_eq_ok.2 ⟨map.shape, out, hs, ho, rfl⟩

end Operator

end PoolCheck
