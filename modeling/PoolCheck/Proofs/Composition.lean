import PoolCheck.Proofs.Acceptance
import PoolCheck.Proofs.Exchange
import PoolCheck.Proofs.Extent
import PoolCheck.Proofs.Primitive
import PoolCheck.Proofs.Shape

/-!
# Sequences in a row

A sequence that is followed by another is a sequence. Its trusted run, its shapes, its stages and
the inference of its module are each those of the first sequence followed by those of the second on
what the first leaves. No number is assumed to be small, and nothing is assumed to succeed.
-/

set_option autoImplicit false

namespace PoolCheck

/-! ## Shapes that stages leave -/

theorem Axis.windows_of_extent {a : Axis} {ceilMode : Bool} {input out : Nat} (h : a.Sound)
    (he : a.extent ceilMode input = .ok out) (hf : a.trailingFits input out = true)
    (hl : a.lined input out < signLimit) (hk : a.kernel ≤ a.lined input out) :
    (a.lined input out - a.kernel) / a.stride + 1 = out := by
  have hs := h.stride_pos
  have hkernel := h.kernel_pos
  have hpad := h.padding_le
  have hout : out ≠ 0 := by
    simp only [trailingFits, Bool.and_eq_true, decide_eq_true_eq] at hf
    exact hf.1.1
  rw [lined_eq] at hl hk ⊢
  by_cases hend : input + a.padding ≤ (out - 1) * a.stride + a.kernel
  · rw [Nat.max_eq_right hend, Nat.add_sub_cancel, Nat.mul_div_cancel _ hs]
    omega
  rw [Nat.max_eq_left (by omega)] at hl hk ⊢
  by_cases hstride : a.stride < signLimit
  · -- The last window ends on the line, so all numbers are small enough to be read as they are.
    have hi : 0 < input := by omega
    have hspan : a.spanFits input = true := by
      unfold extent at he
      split_ifs at he with h1 h2 h3
      all_goals simpa using h3
    have hr := readable_of_spanFits h (by omega) hstride (by omega) hspan
    have hfit : a.kernel ≤ a.padded input := by
      unfold padded
      omega
    rw [extent_of_readable hr hs hi, if_neg (by omega)] at he
    split_ifs at he
    cases he
    have hw := @windows_lined a ceilMode input h hfit hi
    rwa [lined_eq, Nat.max_eq_left (by omega)] at hw
  · -- A stride that long takes the second window off the line.
    have hone : out - 1 = 0 := by
      by_contra hne
      have hle : a.stride ≤ (out - 1) * a.stride := Nat.le_mul_of_pos_left _ (by omega)
      omega
    rw [Nat.div_eq_of_lt (by omega)]
    omega

namespace Operator

variable {op : Operator} {s : Shape}

theorem shape_of_padded {g : Geometry} {plane out : MapShape} {v : PadValue}
    {combine : List Binary32 → Binary32} {x y z : FeatureMap} (hr : g.rows.Sound)
    (hc : g.cols.Sound) (ho : g.output plane = .ok out) (hf : paddingFits g plane out = true)
    (hx : x.shape = plane) (hy : (padding g plane out v).step x = .ok y)
    (hz : y.slide g.kernel g.stride combine = .ok z) : z.shape = out := by
  subst hx
  obtain ⟨h, w, hh, hw, rfl⟩ := Geometry.output_eq_ok.1 ho
  obtain ⟨hfh, hfw⟩ := Bool.and_eq_true_iff.1 hf
  obtain ⟨hys, hheld⟩ := FeatureMap.shape_of_pad hy
  obtain ⟨-, ⟨hkh, hkw⟩, hzs⟩ := FeatureMap.shape_of_slide hz
  have hyh : y.shape.height = g.rows.lined x.shape.height h := by
    rw [hys]
    rfl
  have hyw : y.shape.width = g.cols.lined x.shape.width w := by
    rw [hys]
    rfl
  have hlh := MapShape.height_lt hheld
  have hlw := MapShape.width_lt hheld
  rw [hyh] at hkh hlh
  rw [hyw] at hkw hlw
  have eh := Axis.windows_of_extent hr hh hfh hlh hkh
  have ew := Axis.windows_of_extent hc hw hfw hlw hkw
  have hresize : y.shape.resize h w = x.shape.resize h w := by
    rw [hys, MapShape.resize_resize]
  rw [hzs, hyh, hyw, ← hresize]
  congr 1

theorem shape_of_primitives {stage : Stage} (hs : op.stage s = .ok stage) {x y : FeatureMap}
    (hx : x.shape.toShape = s) (h : Primitive.run stage.primitives x = .ok y) :
    y.shape.toShape = stage.outputShape := by
  obtain ⟨ps, t, hl, ht, rfl⟩ := stage_eq_ok.1 hs
  obtain ⟨hc, plane, out, hp, ho, hf, -, rfl⟩ := lower_eq_ok.1 hl
  obtain ⟨plane', out', hp', ho', rfl⟩ := outputShape_eq_ok.1 ht
  cases hp.symm.trans hp'
  cases ho.symm.trans ho'
  have hsound := check_eq_ok.1 hc
  have hplane : x.shape = plane :=
    MapShape.toShape_injective (hx.trans (MapShape.forOperator_eq_ok.1 hp).1)
  cases op with
  | max p =>
    obtain ⟨padded, hpad, h⟩ := Except.bind_eq_ok.1 h
    obtain ⟨z, hslide, h⟩ := Except.bind_eq_ok.1 h
    cases h
    rw [shape_of_padded hsound.rows hsound.cols ho hf hplane hpad hslide]
  | avg p =>
    obtain ⟨padded, hpad, h⟩ := Except.bind_eq_ok.1 h
    obtain ⟨sums, hslide, h⟩ := Except.bind_eq_ok.1 h
    obtain ⟨z, hdivide, h⟩ := Except.bind_eq_ok.1 h
    cases h
    -- Either division keeps the shape that the windows leave.
    have hkept : y.shape = sums.shape := by
      cases hd : p.divisorOverride with
      | some d =>
        rw [hd] at hdivide
        exact FeatureMap.shape_of_divideByScalar hdivide
      | none =>
        rw [hd] at hdivide
        exact FeatureMap.shape_of_divideByMap hdivide
    rw [hkept, shape_of_padded hsound.rows hsound.cols ho hf hplane hpad hslide]

/-- The comparison of shapes at the end of a stage that was lowered never fails. -/
theorem run_stage {stage : Stage} (hs : op.stage s = .ok stage) {x : FeatureMap}
    (hx : x.shape.toShape = s) (index : Nat) :
    stage.run index x = Primitive.run stage.primitives x := by
  rw [Stage.run]
  cases hy : Primitive.run stage.primitives x with
  | error fault => rfl
  | ok y => exact if_pos (shape_of_primitives hs hx hy)

/-! ## Operators in a row -/

theorem stages_append (s : Shape) (ops others : List Operator) :
    stages s (ops ++ others) = (do
      let (first, middle) ← stages s ops
      let (second, last) ← stages middle others
      pure (first ++ second, last)) := by
  induction ops generalizing s with
  | nil =>
    show _ = stages s others >>= fun r => pure ([] ++ r.1, r.2)
    exact (bind_pure _).symm
  | cons op rest ih =>
    rw [List.cons_append, stages, stages]
    cases op.stage s with
    | error cause => rfl
    | ok stage =>
      show stages stage.outputShape (rest ++ others) >>= (fun r => pure (stage :: r.1, r.2)) = _
      rw [ih]
      show _ = stages stage.outputShape rest >>= _ >>= _
      cases stages stage.outputShape rest with
      | error cause => rfl
      | ok first =>
        show stages first.2 others >>= _ >>= _ = stages first.2 others >>= _
        cases stages first.2 others <;> rfl

theorem runFrom_stages {ops : List Operator} {s last : Shape} {lowered : List Stage}
    (hs : stages s ops = .ok (lowered, last)) {x : FeatureMap} (hx : x.shape.toShape = s)
    (i j : Nat) : Stage.runFrom i lowered x = Stage.runFrom j lowered x ∧
      ∀ y, Stage.runFrom i lowered x = .ok y → y.shape.toShape = last := by
  -- The number of a stage is only read when its shape is wrong, and no shape is.
  induction ops generalizing s lowered x i j with
  | nil =>
    cases hs
    refine ⟨rfl, fun y hy => ?_⟩
    cases hy
    exact hx
  | cons op rest ih =>
    obtain ⟨stage, hst, h⟩ := Except.bind_eq_ok.1 hs
    obtain ⟨⟨others, last'⟩, hrest, h⟩ := Except.bind_eq_ok.1 h
    cases h
    rw [Stage.runFrom, Stage.runFrom, run_stage hst hx, run_stage hst hx]
    cases hy : Primitive.run stage.primitives x with
    | error fault =>
      refine ⟨rfl, fun y hy => ?_⟩
      cases hy
    | ok y => exact ih hrest (shape_of_primitives hst hx hy) (i + 1) (j + 1)

end Operator

/-- The same cause that many steps later. -/
def ConfigFault.later (k : Nat) : ConfigFault → ConfigFault
  | atShape step op shape cause => atShape (k + step) op shape cause
  | cause => cause

namespace OperatorSequence

theorem shapesFrom_add (k step : Nat) (s : Shape) (ops : List Operator) :
    shapesFrom (k + step) s ops = (shapesFrom step s ops).mapError (.later k) := by
  induction ops generalizing s step with
  | nil => rfl
  | cons op rest ih =>
    rw [shapesFrom, shapesFrom]
    cases op.outputShape s with
    | error cause => rfl
    | ok out =>
      simp only [Nat.add_assoc, ih]
      cases shapesFrom (step + 1) out rest <;> rfl

theorem shapesFrom_append (step : Nat) (s : Shape) (ops others : List Operator) :
    shapesFrom step s (ops ++ others) = (do
      let first ← shapesFrom step s ops
      let second ← shapesFrom (step + ops.length) (first.getLastD s) others
      pure (first ++ second)) := by
  -- The step counts the operators before, and the running shape is the last of the list so far.
  induction ops generalizing s step with
  | nil => exact (bind_pure _).symm
  | cons op rest ih =>
    rw [List.cons_append, shapesFrom, shapesFrom]
    cases op.outputShape s with
    | error cause => rfl
    | ok out =>
      simp only [ih, List.length_cons]
      rw [Nat.add_assoc, Nat.add_comm 1]
      cases shapesFrom (step + 1) out rest with
      | error cause => rfl
      | ok shapes =>
        show (shapesFrom _ (shapes.getLastD out) others >>= _).map (out :: ·) =
          shapesFrom _ ((out :: shapes).getLastD s) others >>= _
        rw [List.getLastD_cons]
        cases shapesFrom (step + (rest.length + 1)) (shapes.getLastD out) others <;> rfl

theorem shapesFrom_cons_eq_ok {step : Nat} {s : Shape} {op : Operator} {rest : List Operator}
    {shapes : List Shape} : shapesFrom step s (op :: rest) = .ok shapes ↔ ∃ out others,
      op.outputShape s = .ok out ∧ shapesFrom (step + 1) out rest = .ok others ∧
        shapes = out :: others := by
  rw [shapesFrom]
  cases op.outputShape s with
  | error cause => simp
  | ok out => cases h : shapesFrom (step + 1) out rest <;> simp [Except.map, h, eq_comm]

theorem length_shapesFrom {step : Nat} {s : Shape} {ops : List Operator} {shapes : List Shape}
    (h : shapesFrom step s ops = .ok shapes) : shapes.length = ops.length := by
  induction ops generalizing s step shapes with
  | nil =>
    cases h
    rfl
  | cons op rest ih =>
    obtain ⟨out, others, -, hr, rfl⟩ := shapesFrom_cons_eq_ok.1 h
    rw [List.length_cons, List.length_cons, ih hr]

theorem forwardAll_eq_foldlM (x : Tensor) (ops : List Operator) :
    forwardAll x ops = ops.foldlM (fun y op => op.forward y) x := by
  induction ops generalizing x with
  | nil => rfl
  | cons op rest ih =>
    rw [forwardAll, List.foldlM_cons]
    exact congrArg _ (funext ih)

theorem forwardAll_append (x : Tensor) (ops others : List Operator) :
    forwardAll x (ops ++ others) = forwardAll x ops >>= fun y => forwardAll y others := by
  simp only [forwardAll_eq_foldlM, List.foldlM_append]

theorem shapesFrom_of_forwardAll {x y : Tensor} {ops : List Operator}
    (h : forwardAll x ops = .ok y) (step : Nat) :
    ∃ shapes, shapesFrom step x.shape ops = .ok shapes ∧ shapes.getLastD x.shape = y.shape := by
  induction ops generalizing x step with
  | nil =>
    cases h
    exact ⟨[], rfl, rfl⟩
  | cons op rest ih =>
    obtain ⟨z, hz, h⟩ := Except.bind_eq_ok.1 h
    obtain ⟨shapes, hs, hl⟩ := ih h (step + 1)
    refine ⟨z.shape :: shapes, ?_, by rw [List.getLastD_cons, hl]⟩
    exact shapesFrom_cons_eq_ok.2 ⟨_, _, Operator.outputShape_of_forward hz, hs, rfl⟩

theorem shapesFrom_of_stages {s last : Shape} {ops : List Operator} {lowered : List Stage}
    (h : Operator.stages s ops = .ok (lowered, last)) (step : Nat) :
    shapesFrom step s ops = .ok (lowered.map Stage.outputShape) ∧
      (lowered.map Stage.outputShape).getLastD s = last := by
  induction ops generalizing s lowered step with
  | nil =>
    cases h
    exact ⟨rfl, rfl⟩
  | cons op rest ih =>
    obtain ⟨stage, hst, h⟩ := Except.bind_eq_ok.1 h
    obtain ⟨⟨others, last'⟩, hrest, h⟩ := Except.bind_eq_ok.1 h
    cases h
    obtain ⟨hs, hl⟩ := ih hrest (step + 1)
    obtain ⟨ps, t, -, ht, rfl⟩ := Operator.stage_eq_ok.1 hst
    rw [List.map_cons, List.getLastD_cons]
    exact ⟨shapesFrom_cons_eq_ok.2 ⟨_, _, ht, hs, rfl⟩, hl⟩

theorem run_eq_ok {q : OperatorSequence} {x y : Tensor} :
    q.run x = .ok y ↔ forwardAll x q.operators = .ok y := by
  rw [run, Except.bind_eq_ok]
  constructor
  · rintro ⟨-, -, h⟩
    exact h
  · intro h
    obtain ⟨shapes, hs, -⟩ := shapesFrom_of_forwardAll h 0
    exact ⟨shapes, mapError_eq_ok.2 hs, h⟩

instance : Append OperatorSequence where
  append q r :=
    { operators := q.operators ++ r.operators
      nonempty := List.append_ne_nil_of_left_ne_nil q.nonempty _
      valid := fun op h => (List.mem_append.1 h).elim (q.valid op) (r.valid op) }

@[simp] theorem operators_append (q r : OperatorSequence) :
    (q ++ r).operators = q.operators ++ r.operators := rfl

theorem inferShapes_append (q r : OperatorSequence) (s : Shape) :
    (q ++ r).inferShapes s = (do
      let first ← q.inferShapes s
      let middle ← q.outputShape s
      let second ← (r.inferShapes middle).mapError (.later q.length)
      pure (first ++ second)) := by
  rw [inferShapes, operators_append, shapesFrom_append, outputShape, inferShapes]
  cases shapesFrom 0 s q.operators with
  | error cause => rfl
  | ok shapes =>
    show shapesFrom (0 + q.length) _ r.operators >>= _ = _
    rw [Nat.add_comm, shapesFrom_add]
    rfl

end OperatorSequence

/-! ## Modules in a row -/

namespace Module

def append (m n : Module) : Module :=
  { m with outputShape := n.outputShape, stages := m.stages ++ n.stages }

def apply (m : Module) (x : Tensor) : Except LoadFault Tensor := do (← m.load x).infer

variable {m n : Module} {x : Tensor}

theorem apply_of_shape (map : FeatureMap) (h : map.shape.toShape = m.inputShape) :
    m.apply map.toTensor = (Stage.runFrom 0 m.stages map).map FeatureMap.toTensor := by
  rw [apply, load_of_toFeatureMap? map.toFeatureMap?_toTensor h.symm]
  rfl

theorem apply_of_other_shape (h : x.shape ≠ m.inputShape) :
    m.apply x = .error (.embeddedShape x.shape m.inputShape) := by
  rw [apply, load, if_pos h]
  rfl

theorem apply_of_other_rank (h : x.shape = m.inputShape) (hx : x.toFeatureMap? = none) :
    m.apply x = .error (.notRankFour x.shape) := by
  rw [apply, load, if_neg (not_not.2 h), hx]
  rfl

theorem apply_append {ops others : List Operator}
    (hm : Operator.stages m.inputShape ops = .ok (m.stages, m.outputShape))
    (hn : Operator.stages n.inputShape others = .ok (n.stages, n.outputShape))
    (hs : n.inputShape = m.outputShape) (x : Tensor) :
    (m.append n).apply x = m.apply x >>= n.apply := by
  by_cases hx : x.shape = m.inputShape
  · cases hmap : x.toFeatureMap? with
    | none =>
      rw [apply_of_other_rank hx hmap, apply_of_other_rank (m := m.append n) hx hmap]
      rfl
    | some map =>
      cases Tensor.toTensor_toFeatureMap hmap
      have hy := (Operator.runFrom_stages hm hx 0 0).2
      rw [apply_of_shape map hx, apply_of_shape (m := m.append n) map hx, append,
        Stage.runFrom_append]
      cases hr : Stage.runFrom 0 m.stages map with
      | error fault => rfl
      | ok y =>
        have hshape : y.shape.toShape = n.inputShape := (hy y hr).trans hs.symm
        show (Stage.runFrom (0 + m.stages.length) n.stages y).map _ = n.apply y.toTensor
        rw [apply_of_shape y hshape, (Operator.runFrom_stages hn hshape _ 0).1]
  · rw [apply_of_other_shape hx, apply_of_other_shape (m := m.append n) hx]
    rfl

end Module

namespace Graph

variable {g : Graph} {s : Shape} {paramFile : String} {m : Module}

theorem stages_of_lower (h : g.lower s paramFile = .ok m) :
    m.inputShape = s ∧ Operator.stages s g.operators.operators = .ok (m.stages, m.outputShape) := by
  unfold lower at h
  split_ifs at h
  obtain ⟨⟨stages, out⟩, hs, h⟩ := Except.bind_eq_ok.1 h
  cases h
  exact ⟨rfl, mapError_eq_ok.1 hs⟩

theorem lower_append (g : Graph) (q r : OperatorSequence) (s : Shape) (paramFile : String) :
    { g with operators := q ++ r }.lower s paramFile = (do
      let first ← { g with operators := q }.lower s paramFile
      let rest := { g with inputShape := first.outputShape, operators := r }
      let second ← rest.lower first.outputShape paramFile
      pure (first.append second)) := by
  by_cases hv : g.version = formatVersion
  · by_cases hs : g.inputShape = s
    · rw [@lower_eq { g with operators := q ++ r } s hv hs,
        @lower_eq { g with operators := q } s hv hs,
        OperatorSequence.operators_append, Operator.stages_append]
      cases Operator.stages s q.operators with
      | error cause => rfl
      | ok first =>
        show ((Operator.stages first.2 r.operators >>= _).mapError _).map _ =
          lower _ first.2 paramFile >>= _
        rw [@lower_eq { g with inputShape := first.2, operators := r } first.2 hv rfl]
        cases Operator.stages first.2 r.operators <;> rfl
    · rw [lower, lower, if_neg (not_not.2 hv), if_pos hs, if_neg (not_not.2 hv), if_pos hs]
      rfl
  · rw [lower, lower, if_pos hv, if_pos hv]
    rfl

end Graph

/-- A sequence followed by another is a sequence. A run is the pooling of each operator in turn:
going through the operators together with their shapes misses none. So the run of both succeeds as
the runs one after the other do. Shapes, stages and modules are those of the first sequence followed
by those of the second on the shape that the first leaves, and a fault is the one of the part it is
in, which for the inference of shapes counts the steps before it. The module of both infers from
each tensor what the second module infers from the result of the first. -/
theorem sequences_compose (q r : OperatorSequence) :
    OperatorSequence.ofList (q.operators ++ r.operators) = .ok (q ++ r) ∧
    (∀ s shapes, q.inferShapes s = .ok shapes →
      (q.operators.zip shapes).map Prod.fst = q.operators) ∧
    (∀ x z, q.run x = .ok z ↔ q.operators.foldlM (fun y op => op.forward y) x = .ok z) ∧
    (∀ x z, (q ++ r).run x = .ok z ↔ ∃ y, q.run x = .ok y ∧ r.run y = .ok z) ∧
    (∀ s, (q ++ r).inferShapes s = (do
      let first ← q.inferShapes s
      let middle ← q.outputShape s
      let second ← (r.inferShapes middle).mapError (.later q.length)
      pure (first ++ second))) ∧
    ∀ (g : Graph) (s : Shape) (paramFile : String),
      { g with operators := q ++ r }.lower s paramFile = (do
        let first ← { g with operators := q }.lower s paramFile
        let rest := { g with inputShape := first.outputShape, operators := r }
        let second ← rest.lower first.outputShape paramFile
        pure (first.append second)) ∧
      ∀ first second, { g with operators := q }.lower s paramFile = .ok first →
        { g with inputShape := first.outputShape, operators := r }.lower first.outputShape
          paramFile = .ok second →
        q.outputShape s = .ok first.outputShape ∧
        ∀ x, (first.append second).apply x = first.apply x >>= second.apply := by
  refine ⟨OperatorSequence.ofList_operators (q ++ r), ?_, ?_, ?_, q.inferShapes_append r, ?_⟩
  · intro s shapes hs
    exact List.map_fst_zip (Nat.le_of_eq (OperatorSequence.length_shapesFrom hs).symm)
  · intro x z
    rw [OperatorSequence.run_eq_ok, OperatorSequence.forwardAll_eq_foldlM]
  · intro x z
    simp only [OperatorSequence.run_eq_ok, OperatorSequence.operators_append,
      OperatorSequence.forwardAll_append, Except.bind_eq_ok]
  · intro g s paramFile
    refine ⟨g.lower_append q r s paramFile, fun first second hf hs => ?_⟩
    obtain ⟨hi, hm⟩ := Graph.stages_of_lower hf
    obtain ⟨hi', hn⟩ := Graph.stages_of_lower hs
    obtain ⟨hshapes, hlast⟩ := OperatorSequence.shapesFrom_of_stages hm 0
    constructor
    · rw [OperatorSequence.outputShape, OperatorSequence.inferShapes, hshapes, Except.map, hlast]
    · exact Module.apply_append (hi.symm ▸ hm) (hi'.symm ▸ hn) hi'

def sampleAverage : OperatorSequence where
  operators := [.avg ⟨⟨⟨3, 2⟩, ⟨2, 2⟩, ⟨1, 0⟩, true⟩, false, none⟩]
  nonempty := by simp
  valid := OperatorSequence.check_of_checkFrom (show OperatorSequence.checkFrom 0 _ = _ from rfl)

def sampleMaximum : OperatorSequence where
  operators := [.max (.ofKernel (.square 2))]
  nonempty := by simp
  valid := OperatorSequence.check_of_checkFrom (show OperatorSequence.checkFrom 0 _ = _ from rfl)

theorem sequences_compose_sample :
    sampleAverage ++ sampleMaximum = sampleSequence ∧
      sampleAverage.outputShape sampleTensor.shape = .ok [1, 2, 3, 2] ∧
      ∃ first second, { sampleGraph with operators := sampleAverage }.lower sampleTensor.shape
          "params.npy" = .ok first ∧ first.stages.length = 1 ∧ second.stages.length = 1 ∧
        sampleGraph.lower sampleTensor.shape "params.npy" = .ok (first.append second) ∧
        (first.append second).apply sampleTensor = first.apply sampleTensor >>= second.apply := by
  have h := (sequences_compose sampleAverage sampleMaximum).2.2.2.2.2 sampleGraph
    sampleTensor.shape "params.npy"
  obtain ⟨hout, happly⟩ := h.2 _ _ rfl rfl
  exact ⟨rfl, hout, _, _, rfl, rfl, rfl, h.1, happly sampleTensor⟩

end PoolCheck
