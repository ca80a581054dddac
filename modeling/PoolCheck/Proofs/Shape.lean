import PoolCheck.Proofs.Operator
import PoolCheck.Module.Basic

/-!
# Shapes along a sequence

Three walks over a sequence of operators meet the same shapes: the inference, which computes nothing
else, the trusted run, and the lowering. They stop at the same step for the same cause, and where
none of them stops, every tensor that is built has the shape that was predicted for it.
-/

set_option autoImplicit false

namespace PoolCheck

namespace Operator

def Along (P : Operator → MapShape → Prop) : List Operator → Shape → Prop
  | [], _ => True
  | op :: rest, s => (∀ plane, MapShape.forOperator op.kind s = .ok plane → P op plane) ∧
      ∀ out, op.outputShape s = .ok out → Along P rest out

/-- Each operator turns the shape before it into the next one of the list. -/
inductive Chain : Shape → List Operator → List Shape → Prop
  | nil (s : Shape) : Chain s [] []
  | cons {op : Operator} {rest : List Operator} {plane out : MapShape} {shapes : List Shape}
      (turns : op.Turns plane out) (others : Chain out.toShape rest shapes) :
      Chain plane.toShape (op :: rest) (out.toShape :: shapes)

namespace Chain

variable {s : Shape} {ops : List Operator} {shapes : List Shape}

theorem length_eq (h : Chain s ops shapes) : shapes.length = ops.length := by
  induction h with
  | nil s => rfl
  | cons _ _ ih => rw [List.length_cons, List.length_cons, ih]

theorem take (h : Chain s ops shapes) (k : Nat) : Chain s (ops.take k) (shapes.take k) := by
  induction h generalizing k with
  | nil s => simpa using Chain.nil s
  | cons turns _ ih =>
    cases k with
    | zero => exact .nil _
    | succ k => exact .cons turns (ih k)

theorem shapesFrom (h : Chain s ops shapes) (step : Nat) :
    OperatorSequence.shapesFrom step s ops = .ok shapes := by
  induction h generalizing step with
  | nil s => rfl
  | cons turns _ ih => simp [OperatorSequence.shapesFrom, turns.outputShape, ih, Except.map]

theorem stages (h : Chain s ops shapes) : ∃ lowered, Operator.stages s ops =
    .ok (lowered, shapes.getLastD s) ∧ lowered.map Stage.outputShape = shapes := by
  induction h with
  | nil s => exact ⟨[], rfl, rfl⟩
  | @cons op rest plane out shapes turns _ ih =>
    obtain ⟨lowered, he, hm⟩ := ih
    refine ⟨⟨op.text, out.toShape, op.primitives plane out⟩ :: lowered, ?_, ?_⟩
    · rw [Operator.stages, turns.stage, List.getLastD_cons]
      simp only [he, bind, Except.bind, pure, Except.pure]
    · rw [List.map_cons, hm]

theorem forwardAll (h : Chain s ops shapes) {x : Tensor} (hx : x.shape = s) :
    ∃ y, OperatorSequence.forwardAll x ops = .ok y ∧ y.shape = shapes.getLastD s := by
  induction h generalizing x with
  | nil s => exact ⟨x, rfl, hx⟩
  | @cons op rest plane out shapes turns _ ih =>
    obtain ⟨map, -, hm, rfl⟩ := Tensor.exists_toFeatureMap? hx
    obtain ⟨y, hy, hs⟩ := ih (x := (op.poolMap map out).toTensor) rfl
    refine ⟨y, ?_, by rw [hs, List.getLastD_cons]⟩
    rw [OperatorSequence.forwardAll, turns.forward hm]
    exact hy

theorem mem (h : Chain s ops shapes) {t : Shape} (ht : t ∈ shapes) :
    ∃ a b : MapShape, s = a.toShape ∧ t = b.toShape ∧ b.batch = a.batch ∧
      b.channels = a.channels ∧ 0 < b.height ∧ 0 < b.width := by
  induction h with
  | nil s => cases ht
  | @cons op rest plane out shapes turns _ ih =>
    have hb : out.batch = plane.batch := by rw [turns.out_eq, MapShape.resize_batch]
    have hc : out.channels = plane.channels := by rw [turns.out_eq, MapShape.resize_channels]
    rcases List.mem_cons.1 ht with rfl | ht
    · exact ⟨plane, out, rfl, rfl, hb, hc, turns.out_height_pos, turns.out_width_pos⟩
    · obtain ⟨a, b, ha, he, h1, h2, h3, h4⟩ := ih ht
      have ha' := MapShape.toShape_injective ha
      subst ha'
      exact ⟨plane, b, rfl, he, h1.trans hb, h2.trans hc, h3, h4⟩

theorem at_step (h : Chain s ops shapes) {x : Tensor} (hx : x.shape = s) {lowered : List Stage}
    (hl : lowered.map Stage.outputShape = shapes) {k : Nat} (hk : k < ops.length) :
    ∃ z stage n c h w h' w', OperatorSequence.forwardAll x (ops.take (k + 1)) = .ok z ∧
      lowered[k]? = some stage ∧ shapes[k]? = some z.shape ∧ stage.outputShape = z.shape ∧
      x.shape = [n, c, h, w] ∧ z.shape = [n, c, h', w'] ∧ 1 ≤ h' ∧ 1 ≤ w' := by
  have hks : k < shapes.length := by rw [h.length_eq]; exact hk
  have hkl : k < lowered.length := by rw [← hl, List.length_map] at hks; exact hks
  obtain ⟨z, hz, hzs⟩ := (h.take (k + 1)).forwardAll hx
  have hzk : z.shape = shapes[k] := by
    rw [hzs, List.getLastD_eq_getLast?, List.take_succ_eq_append_getElem hks, List.getLast?_concat,
      Option.getD_some]
  have hst : lowered[k].outputShape = shapes[k] := by simp only [← hl, List.getElem_map]
  obtain ⟨a, b, ha, hb, hbn, hbc, hbh, hbw⟩ := h.mem (List.getElem_mem hks)
  refine ⟨z, lowered[k], a.batch, a.channels, a.height, a.width, b.height, b.width, hz,
    List.getElem?_eq_getElem hkl, by rw [List.getElem?_eq_getElem hks, hzk], by rw [hst, hzk],
    hx.trans ha, ?_, hbh, hbw⟩
  rw [hzk, hb, MapShape.toShape, hbn, hbc]

end Chain

/-- The walks go to the end together, or they stop at one operator for one cause. -/
theorem chain_or_stop {ops : List Operator} (hc : ∀ op ∈ ops, op.check = .ok ()) {s : Shape}
    (hn : Along NoWrap ops s) (step : Nat) :
    (∃ shapes, Chain s ops shapes) ∨
      ∃ k op t cause, ops[k]? = some op ∧ cause.aborts = false ∧
        OperatorSequence.shapesFrom step s ops = .error (.atShape (step + k) op t cause) ∧
        stages s ops = .error cause := by
  induction ops generalizing s step with
  | nil => exact .inl ⟨[], .nil s⟩
  | cons op rest ih =>
    rcases outputShape_cases (hc op List.mem_cons_self) hn.1 with ⟨cause, ho, ha, hs⟩ |
      ⟨plane, out, rfl, turns⟩
    · refine .inr ⟨0, op, s, cause, rfl, ha, ?_, ?_⟩
      · simp only [OperatorSequence.shapesFrom, ho, Nat.add_zero]
      · rw [stages, hs]
        rfl
    · have ho := turns.outputShape
      rcases ih (fun o h => hc o (List.mem_cons_of_mem _ h)) (hn.2 _ ho) (step + 1) with
        ⟨shapes, chain⟩ | ⟨k, o, t, cause, hk, ha, hi, hl⟩
      · exact .inl ⟨_, .cons turns chain⟩
      · refine .inr ⟨k + 1, o, t, cause, hk, ha, ?_, ?_⟩
        · rw [OperatorSequence.shapesFrom, ho]
          simp only [hi, Except.map]
          rw [Nat.add_assoc, Nat.add_comm 1 k]
        · rw [stages, turns.stage]
          simp only [hl, bind, Except.bind]

end Operator

namespace OperatorSequence

/-- No machine number wraps while the sequence works on tensors of one shape. -/
def NoWrap (q : OperatorSequence) (s : Shape) : Prop := Operator.Along Operator.NoWrap q.operators s

variable {q : OperatorSequence} {x : Tensor}

theorem exists_plane {s : Shape} {shapes : List Shape} (h : q.inferShapes s = .ok shapes) :
    ∃ plane : MapShape, s = plane.toShape := by
  have hne := q.nonempty
  rw [inferShapes] at h
  generalize q.operators = ops at h hne
  cases ops with
  | nil => exact absurd rfl hne
  | cons op rest =>
    cases hp : MapShape.forOperator op.kind s with
    | error cause =>
      rw [shapesFrom, Operator.outputShape, hp] at h
      cases h
    | ok plane => exact ⟨plane, (MapShape.forOperator_eq_ok.1 hp).1⟩

theorem run_of_shapes {shapes : List Shape} (h : q.inferShapes x.shape = .ok shapes) :
    q.run x = forwardAll x q.operators := by
  rw [run, h]
  rfl

theorem run_of_fault {f : ConfigFault} (h : q.inferShapes x.shape = .error f) :
    q.run x = .error (.configuration f) := by
  rw [run, h]
  rfl

end OperatorSequence

theorem Graph.lower_eq {g : Graph} {s : Shape} (hv : g.version = formatVersion)
    (hs : g.inputShape = s) (paramFile : String) :
    g.lower s paramFile = ((Operator.stages s g.operators.operators).mapError .lowering).map
      fun r => ⟨formatVersion, g.name, s, r.2, paramFile, r.1⟩ := by
  rw [lower, if_neg (by simp [hv]), if_neg (by simp [hs])]
  cases Operator.stages s g.operators.operators <;> rfl

open Operator in
/-- Inference, the trusted run and lowering succeed on the same inputs. Then there is one shape for
each operator, which the tensor after that step and the stage for it have, and the result and the
module have the last one. Otherwise the run gives the fault of the inference, and the lowering stops
for the same cause. -/
theorem shapes_agree (g : Graph) (x : Tensor) (paramFile : String)
    (hv : g.version = formatVersion) (hs : g.inputShape = x.shape)
    (hn : g.operators.NoWrap x.shape) :
    ((g.operators.inferShapes x.shape).isOk = (g.operators.run x).isOk ∧
      (g.operators.inferShapes x.shape).isOk = (g.lower x.shape paramFile).isOk) ∧
    (∀ shapes, g.operators.inferShapes x.shape = .ok shapes → ∃ y m,
      g.operators.run x = .ok y ∧ g.lower x.shape paramFile = .ok m ∧
      shapes.length = g.operators.length ∧ m.stages.length = g.operators.length ∧
      shapes.getLast? = some y.shape ∧ m.outputShape = y.shape ∧
      ∀ k < g.operators.length, ∃ z stage n c h w h' w',
        OperatorSequence.forwardAll x (g.operators.operators.take (k + 1)) = .ok z ∧
        m.stages[k]? = some stage ∧ shapes[k]? = some z.shape ∧ stage.outputShape = z.shape ∧
        x.shape = [n, c, h, w] ∧ z.shape = [n, c, h', w'] ∧ 1 ≤ h' ∧ 1 ≤ w') ∧
    (∀ f, g.operators.inferShapes x.shape = .error f →
      g.operators.run x = .error (.configuration f) ∧ f.aborts = false ∧
      ∃ k op t cause, g.operators.operators[k]? = some op ∧ f = .atShape k op t cause ∧
        g.lower x.shape paramFile = .error (.lowering cause)) := by
  have hm := Graph.lower_eq hv hs paramFile
  rcases chain_or_stop g.operators.valid hn 0 with ⟨shapes, chain⟩ |
    ⟨k, op, t, cause, hk, ha, hi, hl⟩
  · obtain ⟨lowered, hst, hmap⟩ := chain.stages
    obtain ⟨y, hy, hys⟩ := chain.forwardAll rfl
    have hi : g.operators.inferShapes x.shape = .ok shapes := chain.shapesFrom 0
    have hr : g.operators.run x = .ok y := (OperatorSequence.run_of_shapes hi).trans hy
    have hlen : shapes.length = g.operators.length := chain.length_eq
    have hne : shapes ≠ [] := by
      intro hnil
      rw [hnil] at hlen
      exact g.operators.nonempty (List.length_eq_zero_iff.1 hlen.symm)
    rw [hst] at hm
    refine ⟨by rw [hi, hr, hm]; exact ⟨rfl, rfl⟩, ?_, fun _ hf => nomatch hi.symm.trans hf⟩
    intro shapes' hs'
    rw [hi] at hs'
    cases hs'
    refine ⟨y, _, hr, hm, hlen, by rw [← hlen, ← hmap, List.length_map], ?_, hys.symm,
      fun k hk => chain.at_step rfl hmap hk⟩
    rw [hys, List.getLastD_eq_getLast?, List.getLast?_eq_some_getLast hne, Option.getD_some]
  · have hi : g.operators.inferShapes x.shape = .error (.atShape k op t cause) := by
      rw [OperatorSequence.inferShapes, hi, Nat.zero_add]
    have hr := OperatorSequence.run_of_fault hi
    rw [hl] at hm
    refine ⟨by rw [hi, hr, hm]; exact ⟨rfl, rfl⟩, fun _ hf => (nomatch hi.symm.trans hf), ?_⟩
    intro f hf
    rw [hi] at hf
    cases hf
    exact ⟨hr, ha, k, op, t, cause, hk, rfl, hm⟩

def sampleSequence : OperatorSequence where
  operators := [.avg ⟨⟨⟨3, 2⟩, ⟨2, 2⟩, ⟨1, 0⟩, true⟩, false, none⟩, .max (.ofKernel (.square 2))]
  nonempty := by simp
  valid := OperatorSequence.check_of_checkFrom (show OperatorSequence.checkFrom 0 _ = _ from rfl)

theorem sampleSequence_noWrap : sampleSequence.NoWrap [1, 2, 5, 4] := by
  have hc := sampleSequence.valid
  refine ⟨fun plane h => ?_, fun out h => ?_⟩
  · cases h
    exact Operator.noWrap_of_lt (hc _ (by simp [sampleSequence])) (by decide) (by decide)
      (fun p d h hd => by cases h; cases hd)
  cases h
  refine ⟨fun plane h => ?_, fun out h => ?_⟩
  · cases h
    exact Operator.noWrap_of_lt (hc _ (by simp [sampleSequence])) (by decide) (by decide)
      (fun p d h hd => by cases h)
  cases h
  trivial

def sampleTensor : Tensor :=
  ⟨[1, 2, 5, 4], Array.ofFn fun k : Fin 40 => ⟨UInt32.ofNat (k * 0x7ffffff)⟩, by simp [volume]⟩

def sampleGraph : Graph :=
  ⟨formatVersion, "sample", [1, 2, 5, 4], "sample_input.npy", sampleSequence⟩

theorem sampleSequence_shapes :
    sampleSequence.inferShapes sampleTensor.shape = .ok [[1, 2, 3, 2], [1, 2, 1, 1]] := rfl

theorem shapes_agree_sample :
    ∃ y m, sampleSequence.run sampleTensor = .ok y ∧ y.shape = [1, 2, 1, 1] ∧
      sampleGraph.lower sampleTensor.shape "sample_converted_params.npy" = .ok m ∧
      m.stages.length = 2 := by
  have h := shapes_agree sampleGraph sampleTensor "sample_converted_params.npy" rfl rfl
    sampleSequence_noWrap
  obtain ⟨y, m, hy, hm, -, hl, hs, -, -⟩ := h.2.1 _ sampleSequence_shapes
  exact ⟨y, m, hy, by simpa using hs.symm, hm, hl⟩

end PoolCheck
