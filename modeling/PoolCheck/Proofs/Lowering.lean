import PoolCheck.Proofs.Acceptance
import PoolCheck.Proofs.Padding
import PoolCheck.Proofs.Primitive
import PoolCheck.Proofs.Shape

/-!
# Lowering preserves meaning

Each operator and its stage are compared on one feature map: explicit padding and whole windows
against cut windows, a stored divisor against a computed one. A run through the stages then follows
the trusted run operator by operator, and both end with the same words.
-/

set_option autoImplicit false

namespace PoolCheck

/-! ## The table of divisors -/

theorem getElem?_flatMap_range {α : Type} (f : Nat → Nat → α) (h w : Nat) {i j : Nat} (hi : i < h)
    (hj : j < w) :
    ((List.range h).flatMap fun i => (List.range w).map (f i))[i * w + j]? = some (f i j) := by
  have hlen : ∀ n, ((List.range n).flatMap fun i => (List.range w).map (f i)).length = n * w := by
    intro n
    simp
  induction h with
  | zero => omega
  | succ h ih =>
    rw [List.range_succ, List.flatMap_append]
    by_cases hlt : i < h
    · have hk : i * w + j < h * w := row_major_lt hlt hj
      rw [List.getElem?_append_left (by rw [hlen]; exact hk), ih hlt]
    · have he : i = h := by omega
      subst he
      rw [List.getElem?_append_right (by rw [hlen]; omega), hlen, Nat.add_sub_cancel_left]
      simp [hj]

theorem AvgPool.divisorTable_size (p : AvgPool) (s out : MapShape) :
    (p.divisorTable s out).size = out.height * out.width := by
  simp [divisorTable]

theorem AvgPool.divisorTable_getD (p : AvgPool) (s out : MapShape) {i j : Nat} (hi : i < out.height)
    (hj : j < out.width) : (p.divisorTable s out).getD (i * out.width + j) .zero =
      .ofCount
        (p.divisor (p.geometry.rows.window s.height i) (p.geometry.cols.window s.width j)) := by
  rw [divisorTable, Array.getD_eq_getD_getElem?, List.getElem?_toArray,
    getElem?_flatMap_range _ _ _ hi hj, Option.getD_some]

namespace Operator.Turns

variable {op : Operator} {p : AvgPool} {s out : MapShape} {x : FeatureMap}

theorem divisor_pos (h : (Operator.avg p).Turns s out) {i j : Nat} (hi : i < out.height)
    (hj : j < out.width) :
    0 < p.divisor (p.geometry.rows.window s.height i) (p.geometry.cols.window s.width j) := by
  have hpr := Axis.window_length_le h.noWrap.rows h.rows h.rows_le (h.height_eq ▸ hi)
  have hpc := Axis.window_length_le h.noWrap.cols h.cols h.cols_le (h.width_eq ▸ hj)
  exact AvgPool.divisor_pos ((check_eq_ok.1 h.checked).divisor p rfl) (h.row_seen hi)
    (h.col_seen hj) hpr hpc

theorem ofCount_divisor_equal_zero (h : (Operator.avg p).Turns s out) {i j : Nat}
    (hi : i < out.height) (hj : j < out.width) :
    (Binary32.ofCount (p.divisor (p.geometry.rows.window s.height i)
      (p.geometry.cols.window s.width j))).equal .zero = false :=
  Binary32.ofCount_equal_zero (h.divisor_pos hi hj) (h.held.divisor p rfl i hi j hj)

theorem pool_eq (h : (Operator.avg p).Turns s out) {i j : Nat} (hi : i < out.height)
    (hj : j < out.width) (plane : Nat → Nat → Binary32) :
    p.pool (p.geometry.rows.window s.height i) (p.geometry.cols.window s.width j) plane =
      sum (patch (p.geometry.rows.window s.height i) (p.geometry.cols.window s.width j) plane) /
        .ofCount (p.divisor (p.geometry.rows.window s.height i)
          (p.geometry.cols.window s.width j)) :=
  AvgPool.pool_of_seen (h.row_seen hi) (h.col_seen hj) plane

def sums (p : AvgPool) (x : FeatureMap) (out : MapShape) : FeatureMap :=
  .ofFn out fun b c i j => sum (patch (p.geometry.rows.window x.shape.height i)
    (p.geometry.cols.window x.shape.width j) (x.entry b c))

theorem poolMap_avg (p : AvgPool) (x : FeatureMap) (out : MapShape) :
    (Operator.avg p).poolMap x out = .ofFn out fun b c i j =>
      p.pool (p.geometry.rows.window x.shape.height i) (p.geometry.cols.window x.shape.width j)
        (x.entry b c) := rfl

@[simp] theorem sums_shape (p : AvgPool) (x : FeatureMap) (out : MapShape) :
    (sums p x out).shape = out := rfl

theorem sums_entry (p : AvgPool) (x : FeatureMap) {b c i j : Nat} (hb : b < out.batch)
    (hc : c < out.channels) (hi : i < out.height) (hj : j < out.width) :
    (sums p x out).entry b c i j = sum (patch (p.geometry.rows.window x.shape.height i)
      (p.geometry.cols.window x.shape.width j) (x.entry b c)) :=
  FeatureMap.entry_ofFn _ hb hc hi hj

theorem divideByScalar_sums (h : (Operator.avg p).Turns x.shape out) {d : Nat}
    (ho : p.divisorOverride = some d) :
    (sums p x out).divideByScalar (.ofCount d) = .ok ((Operator.avg p).poolMap x out) := by
  have hd : ∀ r c, p.divisor r c = d := fun r c => by simp only [AvgPool.divisor, ho]
  have hz := h.ofCount_divisor_equal_zero h.out_height_pos h.out_width_pos
  rw [hd] at hz
  simp only [FeatureMap.divideByScalar, sums_shape, hz, Bool.false_eq_true, if_false]
  rw [poolMap_avg]
  congr 1
  apply FeatureMap.ofFn_congr
  intro b c i j hb hc hi hj
  rw [sums_entry p x hb hc hi hj, h.pool_eq hi hj, hd]

theorem divideByMap_sums (h : (Operator.avg p).Turns x.shape out) :
    (sums p x out).divideByMap out.height out.width (p.divisorTable x.shape out) =
      .ok ((Operator.avg p).poolMap x out) := by
  simp only [FeatureMap.divideByMap, sums_shape]
  rw [if_pos ⟨trivial, trivial, p.divisorTable_size x.shape out⟩, poolMap_avg]
  congr 1
  apply FeatureMap.ofFn_congr
  intro b c i j hb hc hi hj
  rw [p.divisorTable_getD x.shape out hi hj, h.ofCount_divisor_equal_zero hi hj,
    sums_entry p x hb hc hi hj, h.pool_eq hi hj, if_neg (by simp)]

/-- The primitives of an operator compute what the operator means. -/
theorem primitives_run (h : op.Turns s out) (hp : op.Padded s) (hx : x.shape = s) :
    Primitive.run (op.primitives s out) x = .ok (op.poolMap x out) := by
  cases op with
  | max p =>
    have hpad : (padding p.geometry s out .negInfinity).step x =
        .ok (bordered p.geometry x out .negInfinity) := h.pad_eq hp hx .negInfinity
    have hslide : (Primitive.windowMax p.geometry.kernel p.geometry.stride).step
        (bordered p.geometry x out .negInfinity) = .ok ((Operator.max p).poolMap x out) := by
      subst hx
      exact h.slide_eq rfl maxStep_neutral
    simp only [primitives, Primitive.run, hpad, hslide, bind, Except.bind]
  | avg p =>
    have hpad : (padding p.geometry s out .zero).step x =
        .ok (bordered p.geometry x out .zero) := h.pad_eq hp hx .zero
    subst hx
    have hslide : (Primitive.windowSum p.geometry.kernel p.geometry.stride).step
        (bordered p.geometry x out .zero) = .ok (sums p x out) := h.slide_eq rfl sum_neutral
    cases ho : p.divisorOverride with
    | some d =>
      have hdiv : (Primitive.divideByScalar (.ofCount d)).step (sums p x out) =
          .ok ((Operator.avg p).poolMap x out) := h.divideByScalar_sums ho
      simp only [primitives, Primitive.run, ho, hpad, hslide, hdiv, bind, Except.bind]
    | none =>
      have hdiv : (Primitive.divideByMap out.height out.width (p.divisorTable x.shape out)).step
          (sums p x out) = .ok ((Operator.avg p).poolMap x out) := h.divideByMap_sums
      simp only [primitives, Primitive.run, ho, hpad, hslide, hdiv, bind, Except.bind]

theorem stage_run (h : op.Turns s out) (hp : op.Padded s) (hx : x.shape = s) (index : Nat) :
    Stage.run index ⟨op.text, out.toShape, op.primitives s out⟩ x = .ok (op.poolMap x out) := by
  have hshape : (op.poolMap x out).shape.toShape = out.toShape := rfl
  simp only [Stage.run, h.primitives_run hp hx, bind, Except.bind, hshape, if_true, pure,
    Except.pure]

end Operator.Turns

/-! ## Runs -/

theorem Operator.Chain.runFrom_stages {s : Shape} {ops : List Operator} {shapes : List Shape}
    (h : Operator.Chain s ops shapes) (hp : Operator.Along Operator.Padded ops s)
    {x : FeatureMap} (hx : x.shape.toShape = s) (index : Nat) :
    ∃ lowered y, Operator.stages s ops = .ok (lowered, shapes.getLastD s) ∧
      OperatorSequence.forwardAll x.toTensor ops = .ok y.toTensor ∧
      Stage.runFrom index lowered x = .ok y ∧ y.shape.toShape = shapes.getLastD s := by
  induction h generalizing x index with
  | nil s => exact ⟨[], x, rfl, rfl, rfl, hx⟩
  | @cons op rest plane out shapes turns _ ih =>
    have hplane : x.shape = plane := MapShape.toShape_injective hx
    have hpad := hp.1 plane turns.forOperator
    obtain ⟨lowered, y, hs, hf, hr, hy⟩ :=
      ih (hp.2 _ turns.outputShape) (x := op.poolMap x out) rfl (index + 1)
    refine ⟨⟨op.text, out.toShape, op.primitives plane out⟩ :: lowered, y, ?_, ?_, ?_, ?_⟩
    · rw [Operator.stages, turns.stage, List.getLastD_cons]
      simp only [hs, bind, Except.bind, pure, Except.pure]
    · rw [OperatorSequence.forwardAll, turns.forward hplane]
      exact hf
    · rw [Stage.runFrom, turns.stage_run hpad hplane]
      exact hr
    · rw [hy, List.getLastD_cons]

namespace OperatorSequence

/-- The padded planes that the stages of the sequence make can be held. -/
def Padded (q : OperatorSequence) (s : Shape) : Prop := Operator.Along Operator.Padded q.operators s

theorem chain_of_shapes {q : OperatorSequence} {s : Shape} {shapes : List Shape}
    (hn : q.NoWrap s) (h : q.inferShapes s = .ok shapes) :
    Operator.Chain s q.operators shapes := by
  rcases Operator.chain_or_stop q.valid hn 0 with ⟨shapes', chain⟩ | ⟨k, op, t, cause, -, -, hi, -⟩
  · have he := chain.shapesFrom 0
    rw [inferShapes] at h
    rw [h] at he
    cases he
    exact chain
  · rw [inferShapes, hi] at h
    cases h

theorem exists_lowered {q : OperatorSequence} {x : Tensor} {shapes : List Shape}
    (hi : q.inferShapes x.shape = .ok shapes) (hn : q.NoWrap x.shape) (hp : q.Padded x.shape) :
    ∃ lowered map y, Operator.stages x.shape q.operators = .ok (lowered, y.shape) ∧
      x.toFeatureMap? = some map ∧ q.run x = .ok y ∧
      (Stage.runFrom 0 lowered map).map FeatureMap.toTensor = .ok y ∧
      q.outputShape x.shape = .ok y.shape := by
  have chain := chain_of_shapes hn hi
  obtain ⟨plane, hplane⟩ := exists_plane hi
  obtain ⟨map, hmap, hms, hmx⟩ := Tensor.exists_toFeatureMap? hplane
  obtain ⟨lowered, y, hst, hf, hr, hy⟩ := chain.runFrom_stages hp (x := map)
    (by rw [hms, hplane]) 0
  have hys : y.toTensor.shape = shapes.getLastD x.shape := hy
  refine ⟨lowered, map, y.toTensor, by rw [hst, hys], hmap, ?_, by rw [hr]; rfl, ?_⟩
  · rw [run_of_shapes hi, ← hmx]
    exact hf
  · rw [outputShape, hi, hys]
    rfl

end OperatorSequence

/-- Lowering a sequence for a tensor whose shapes can be inferred succeeds, the module runs on that
tensor, and it gives the words of the trusted run in the inferred shape. -/
theorem lowering_preserves (g : Graph) (x : Tensor) (paramFile : String)
    (hv : g.version = formatVersion) (hs : g.inputShape = x.shape) {shapes : List Shape}
    (hi : g.operators.inferShapes x.shape = .ok shapes) (hn : g.operators.NoWrap x.shape)
    (hp : g.operators.Padded x.shape) :
    ∃ m l y, g.lower x.shape paramFile = .ok m ∧ m.load x = .ok l ∧ l.infer = .ok y ∧
      g.operators.run x = .ok y ∧ g.operators.outputShape x.shape = .ok y.shape := by
  obtain ⟨lowered, map, y, hst, hmap, hrun, hinfer, hout⟩ :=
    OperatorSequence.exists_lowered hi hn hp
  have hm := Graph.lower_eq hv hs paramFile
  rw [hst] at hm
  refine ⟨_, _, y, hm, Module.load_of_toFeatureMap? hmap rfl, ?_, hrun, hout⟩
  exact hinfer

theorem sampleSequence_padded : sampleSequence.Padded [1, 2, 5, 4] := by
  refine ⟨fun plane h => ?_, fun out h => ?_⟩
  · cases h
    intro out h
    cases h
    decide
  cases h
  refine ⟨fun plane h => ?_, fun out h => ?_⟩
  · cases h
    intro out h
    cases h
    decide
  cases h
  trivial

theorem lowering_preserves_sample :
    ∃ m l y, sampleGraph.lower sampleTensor.shape "sample_converted_params.npy" = .ok m ∧
      m.load sampleTensor = .ok l ∧ l.infer = .ok y ∧ sampleSequence.run sampleTensor = .ok y ∧
      sampleSequence.outputShape sampleTensor.shape = .ok y.shape :=
  lowering_preserves sampleGraph sampleTensor "sample_converted_params.npy" rfl rfl
    sampleSequence_shapes sampleSequence_noWrap sampleSequence_padded

end PoolCheck
