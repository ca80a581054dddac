import PoolCheck.Module.Basic
import PoolCheck.Proofs.FeatureMap
import PoolCheck.Proofs.Outcome
import PoolCheck.Proofs.Tensor.Size

/-!
# Shapes that primitives leave

When a primitive gives a map, it has passed its own checks, and the shape of the map follows from
that of the one before. A run of stages ends with the shape that the last of them declares. A map
that can be held has planes that can be counted, and leaves room for every map with smaller planes.
-/

set_option autoImplicit false

namespace PoolCheck

/-! ## Maps that can be held -/

namespace MapShape

variable {s : MapShape}

theorem holdable_iff : holdable s.toShape = true ↔
    max s.batch 1 * (max s.channels 1 * (max s.height 1 * max s.width 1)) < signLimit ∧
      s.batch * s.channels * s.height * s.width * 4 < signLimit := by
  rw [holdable, Bool.and_eq_true, addressable, fitsMemory, decide_eq_true_eq, decide_eq_true_eq,
    volume_toShape]
  simp only [toShape, volume_filter_cons, List.filter_nil, volume, Nat.mul_one]

theorem holdable_resize (hs : holdable s.toShape = true) {height width : Nat}
    (hh : height ≤ s.height) (hw : width ≤ s.width) :
    holdable (s.resize height width).toShape = true := by
  rw [holdable_iff] at hs ⊢
  simp only [resize_batch, resize_channels, resize_height, resize_width]
  constructor
  · refine Nat.lt_of_le_of_lt ?_ hs.1
    gcongr
  · refine Nat.lt_of_le_of_lt ?_ hs.2
    gcongr

theorem height_lt (hs : holdable s.toShape = true) : s.height < signLimit :=
  Nat.lt_of_le_of_lt (le_volume_filter (by simp [toShape]))
    (of_decide_eq_true (Bool.and_eq_true_iff.1 hs).1)

theorem width_lt (hs : holdable s.toShape = true) : s.width < signLimit :=
  Nat.lt_of_le_of_lt (le_volume_filter (by simp [toShape]))
    (of_decide_eq_true (Bool.and_eq_true_iff.1 hs).1)

theorem plane_lt (hs : holdable s.toShape = true) : s.height * s.width < signLimit := by
  refine Nat.lt_of_le_of_lt ?_ (holdable_iff.1 hs).1
  have hb : 0 < max s.batch 1 := by omega
  have hc : 0 < max s.channels 1 := by omega
  calc s.height * s.width
      ≤ max s.height 1 * max s.width 1 := Nat.mul_le_mul (Nat.le_max_left _ _) (Nat.le_max_left _ _)
    _ ≤ max s.channels 1 * (max s.height 1 * max s.width 1) := Nat.le_mul_of_pos_left _ hc
    _ ≤ _ := Nat.le_mul_of_pos_left _ hb

end MapShape

/-! ## Primitives and stages -/

namespace FeatureMap

variable {x y : FeatureMap}

theorem shape_of_pad {top bottom left right : Nat} {v : Binary32}
    (h : x.pad top bottom left right v = .ok y) :
    y.shape = x.shape.resize (top + x.shape.height + bottom) (left + x.shape.width + right) ∧
      holdable y.shape.toShape = true := by
  dsimp only [pad] at h
  split_ifs at h with hh
  cases h
  exact ⟨rfl, hh⟩

theorem shape_of_slide {kernel stride : Pair} {combine : List Binary32 → Binary32}
    (h : x.slide kernel stride combine = .ok y) :
    (0 < kernel.h ∧ 0 < kernel.w) ∧ (kernel.h ≤ x.shape.height ∧ kernel.w ≤ x.shape.width) ∧
      y.shape = x.shape.resize ((x.shape.height - kernel.h) / stride.h + 1)
        ((x.shape.width - kernel.w) / stride.w + 1) := by
  dsimp only [slide] at h
  split_ifs at h with hz hl
  cases h
  exact ⟨by omega, by omega, rfl⟩

theorem shape_of_divideByMap {height width : Nat} {divisors : Array Binary32}
    (h : x.divideByMap height width divisors = .ok y) : y.shape = x.shape := by
  unfold divideByMap at h
  split_ifs at h
  cases h
  rfl

theorem shape_of_divideByScalar {d : Binary32} (h : x.divideByScalar d = .ok y) :
    y.shape = x.shape := by
  unfold divideByScalar at h
  split_ifs at h
  cases h
  rfl

end FeatureMap

namespace Stage

variable {stage : Stage} {x y : FeatureMap} {index : Nat}

theorem run_eq_ok : stage.run index x = .ok y ↔
    Primitive.run stage.primitives x = .ok y ∧ y.shape.toShape = stage.outputShape := by
  rw [run, Except.bind_eq_ok]
  constructor
  · rintro ⟨z, hz, h⟩
    split_ifs at h with hs
    cases h
    exact ⟨hz, hs⟩
  · rintro ⟨hp, hs⟩
    exact ⟨y, hp, if_pos hs⟩

theorem runFrom_append (index : Nat) (stages others : List Stage) (x : FeatureMap) :
    runFrom index (stages ++ others) x =
      runFrom index stages x >>= runFrom (index + stages.length) others := by
  induction stages generalizing index x with
  | nil => rfl
  | cons stage rest ih =>
    rw [List.cons_append, runFrom, runFrom]
    cases stage.run index x with
    | error fault => rfl
    | ok y =>
      show runFrom (index + 1) (rest ++ others) y = runFrom (index + 1) rest y >>= _
      rw [ih, List.length_cons, Nat.add_assoc, Nat.add_comm 1]

theorem shape_of_runFrom {stages : List Stage} (h : runFrom index stages x = .ok y) {n : Nat}
    (hn : stages[n]? = some stage) :
    ∃ z, runFrom index (stages.take (n + 1)) x = .ok z ∧ z.shape.toShape = stage.outputShape := by
  induction stages generalizing n index x with
  | nil => cases hn
  | cons first rest ih =>
    obtain ⟨z, hz, h⟩ := Except.bind_eq_ok.1 h
    rw [List.take_succ_cons, runFrom, hz]
    cases n with
    | zero =>
      cases hn
      exact ⟨z, rfl, (run_eq_ok.1 hz).2⟩
    | succ n => exact ih h hn

end Stage

theorem Module.load_of_toFeatureMap? {m : Module} {x : Tensor} {map : FeatureMap}
    (hx : x.toFeatureMap? = some map) (hs : m.inputShape = x.shape) : m.load x = .ok ⟨m, map⟩ := by
  simp only [load, hx, hs, ne_eq, not_true_eq_false, if_false]

end PoolCheck
