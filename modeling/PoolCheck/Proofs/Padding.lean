import Mathlib.Data.List.Basic
import PoolCheck.Module.Primitive
import PoolCheck.Proofs.Binary32.Arithmetic
import PoolCheck.Proofs.Operator

/-!
# Explicit padding

A cut window and a whole window over a padded plane are combined to the same value when the padding
is neutral: it changes no accumulator that the combination can reach. The elements that are left
after the padding are the same ones in the same order.
-/

set_option autoImplicit false

namespace PoolCheck

/-- A value that leaves the accumulators of a fold as they are. -/
structure Neutral {α : Type} (f : α → α → α) (start v : α) (Reached : α → Prop) : Prop where
  start : Reached start
  step : ∀ a x, Reached a → Reached (f a x)
  neutral : ∀ a, Reached a → f a v = a

namespace Neutral

variable {α β γ : Type} {f : α → α → α} {start v : α} {Reached : α → Prop}

theorem foldl_reached (h : Neutral f start v Reached) (xs : List α) {a : α} (ha : Reached a) :
    Reached (xs.foldl f a) := by
  induction xs generalizing a with
  | nil => exact ha
  | cons x xs ih => exact ih (h.step a x ha)

theorem foldl_neutral (h : Neutral f start v Reached) (xs : List β) {a : α} (ha : Reached a) :
    (xs.map fun _ => v).foldl f a = a := by
  induction xs with
  | nil => rfl
  | cons x xs ih => rw [List.map_cons, List.foldl_cons, h.neutral a ha, ih]

theorem foldl_row (h : Neutral f start v Reached) (p : β → Bool) (e : β → α) (xs : List β) {a : α}
    (ha : Reached a) :
    (xs.map fun x => if p x then e x else v).foldl f a = ((xs.filter p).map e).foldl f a := by
  induction xs generalizing a with
  | nil => rfl
  | cons x xs ih =>
    rw [List.map_cons, List.foldl_cons, List.filter_cons]
    by_cases hp : p x = true
    · rw [if_pos hp, if_pos hp, List.map_cons, List.foldl_cons]
      exact ih (h.step a _ ha)
    · rw [if_neg hp, if_neg hp, h.neutral a ha]
      exact ih ha

theorem foldl_rows (h : Neutral f start v Reached) (p : β → Bool) (q : γ → Bool) (e : β → γ → α)
    (rows : List β) (cols : List γ) {a : α} (ha : Reached a) :
    (rows.flatMap fun r => cols.map fun c => if p r && q c then e r c else v).foldl f a =
      ((rows.filter p).flatMap fun r => (cols.filter q).map (e r)).foldl f a := by
  induction rows generalizing a with
  | nil => rfl
  | cons r rows ih =>
    rw [List.flatMap_cons, List.foldl_append, List.filter_cons]
    by_cases hp : p r = true
    · simp only [hp, Bool.true_and, if_true]
      rw [h.foldl_row q (e r) cols ha, List.flatMap_cons, List.foldl_append]
      exact ih (h.foldl_reached _ ha)
    · have hf : p r = false := by simpa using hp
      simp only [hf, Bool.false_and, Bool.false_eq_true, if_false]
      rw [h.foldl_neutral cols ha]
      exact ih ha

end Neutral

theorem sum_neutral : Neutral (· + ·) Binary32.zero Binary32.zero Binary32.Settled :=
  ⟨.zero, fun _ x h => h.add x, fun _ h => h.add_zero⟩

theorem maxStep_neutral :
    Neutral maxStep Binary32.negInfinity Binary32.negInfinity (fun _ => True) := by
  refine ⟨trivial, fun _ _ _ => trivial, fun a _ => ?_⟩
  have hn : Binary32.negInfinity.isNaN = false := by
    rw [Binary32.isNaN_eq, Binary32.view_negInfinity]
    rfl
  rw [maxStep, Binary32.less_negInfinity, hn]
  rfl

/-! ## Planes with a border -/

def Axis.whole (a : Axis) (o : Nat) : Window := ⟨o * a.stride, o * a.stride + a.kernel, a.kernel⟩

@[simp] theorem Axis.length_whole (a : Axis) (o : Nat) : (a.whole o).length = a.kernel :=
  Nat.add_sub_cancel_left _ _

theorem Axis.positions_whole (a : Axis) (o : Nat) :
    (a.whole o).positions = List.range' (o * a.stride) a.kernel := by
  rw [Window.positions, length_whole]
  rfl

def framed (rows cols : Axis) (height width : Nat) (v : Binary32) (plane : Nat → Nat → Binary32)
    (p q : Nat) : Binary32 :=
  if rows.padding ≤ p ∧ p < rows.padding + height ∧ cols.padding ≤ q ∧ q < cols.padding + width then
    plane (p - rows.padding) (q - cols.padding)
  else v

/-- Whole windows on a plane with a border see what the cut windows see on the plane. -/
theorem Neutral.fold_framed {f : Binary32 → Binary32 → Binary32} {start v : Binary32}
    {Reached : Binary32 → Prop} (hn : Neutral f start v Reached) {rows cols : Axis}
    {height width i j : Nat}
    (hrows : (List.range' (i * rows.stride) rows.kernel).filter
      (fun p => rows.padding ≤ p ∧ p < rows.padding + height) =
        (rows.window height i).positions.map (rows.padding + ·))
    (hcols : (List.range' (j * cols.stride) cols.kernel).filter
      (fun q => cols.padding ≤ q ∧ q < cols.padding + width) =
        (cols.window width j).positions.map (cols.padding + ·))
    {plane whole : Nat → Nat → Binary32}
    (hwhole : ∀ p < i * rows.stride + rows.kernel, ∀ q < j * cols.stride + cols.kernel,
      whole p q = framed rows cols height width v plane p q) :
    (patch (rows.whole i) (cols.whole j) whole).foldl f start =
      (patch (rows.window height i) (cols.window width j) plane).foldl f start := by
  have hpatch : patch (rows.whole i) (cols.whole j) whole =
      (List.range' (i * rows.stride) rows.kernel).flatMap fun p =>
        (List.range' (j * cols.stride) cols.kernel).map fun q =>
          if decide (rows.padding ≤ p ∧ p < rows.padding + height) &&
            decide (cols.padding ≤ q ∧ q < cols.padding + width)
          then plane (p - rows.padding) (q - cols.padding) else v := by
    rw [patch, Axis.positions_whole, Axis.positions_whole]
    apply List.flatMap_congr
    intro p hp
    apply List.map_congr_left
    intro q hq
    rw [List.mem_range'_1] at hp hq
    simp only [hwhole p hp.2 q hq.2, framed, Bool.and_eq_true, decide_eq_true_eq, and_assoc]
  rw [hpatch, hn.foldl_rows _ _ (fun p q => plane (p - rows.padding) (q - cols.padding)) _ _
    hn.start, hrows, hcols, patch, List.flatMap_map]
  simp [Function.comp_def]

namespace Operator

variable {op : Operator} {s out : MapShape}

def lined (g : Geometry) (s out : MapShape) : MapShape :=
  s.resize (g.rows.lined s.height out.height) (g.cols.lined s.width out.width)

def Padded (op : Operator) (s : MapShape) : Prop :=
  ∀ out, op.geometry.output s = .ok out → holdable (lined op.geometry s out).toShape = true

end Operator

namespace Operator.Turns

variable {op : Operator} {s out : MapShape} {x : FeatureMap}

/-- A plane with a border of one value. -/
def bordered (g : Geometry) (x : FeatureMap) (out : MapShape) (v : Binary32) : FeatureMap :=
  .ofFn (lined g x.shape out) fun b c i j =>
    if g.padding.h ≤ i ∧ i < g.padding.h + x.shape.height ∧ g.padding.w ≤ j ∧
      j < g.padding.w + x.shape.width then x.entry b c (i - g.padding.h) (j - g.padding.w)
    else v

theorem pad_eq (h : op.Turns s out) (hp : op.Padded s) (hx : x.shape = s) (v : PadValue) :
    (padding op.geometry s out v).step x = .ok (bordered op.geometry x out v.value) := by
  subst hx
  have hh := hp out h.output
  simp only [padding, Primitive.step, FeatureMap.pad, bordered]
  exact if_pos hh

theorem fold_bordered (h : op.Turns s out) (hx : x.shape = s) {f : Binary32 → Binary32 → Binary32}
    {start v : Binary32} {Reached : Binary32 → Prop} (hn : Neutral f start v Reached)
    {b c i j : Nat} (hb : b < s.batch) (hc : c < s.channels) (hi : i < out.height)
    (hj : j < out.width) :
    (patch ⟨i * op.geometry.stride.h, i * op.geometry.stride.h + op.geometry.kernel.h,
        op.geometry.kernel.h⟩
      ⟨j * op.geometry.stride.w, j * op.geometry.stride.w + op.geometry.kernel.w,
        op.geometry.kernel.w⟩ ((bordered op.geometry x out v).entry b c)).foldl f start =
    (patch (op.geometry.rows.window s.height i) (op.geometry.cols.window s.width j)
      (x.entry b c)).foldl f start := by
  subst hx
  have hrows := Axis.window_positions h.noWrap.rows h.rows h.rows_le (h.height_eq ▸ hi)
  have hcols := Axis.window_positions h.noWrap.cols h.cols h.cols_le (h.width_eq ▸ hj)
  exact hn.fold_framed hrows hcols fun p hp q hq => FeatureMap.entry_ofFn
    (s := lined op.geometry x.shape out) _ hb hc
    (hp.trans_le (Axis.end_le_lined op.geometry.rows x.shape.height hi))
    (hq.trans_le (Axis.end_le_lined op.geometry.cols x.shape.width hj))

theorem slide_eq (h : op.Turns s out) (hx : x.shape = s) {f : Binary32 → Binary32 → Binary32}
    {start v : Binary32} {Reached : Binary32 → Prop} (hn : Neutral f start v Reached) :
    (bordered op.geometry x out v).slide op.geometry.kernel op.geometry.stride
        (fun xs => xs.foldl f start) =
      .ok (.ofFn out fun b c i j => (patch (op.geometry.rows.window s.height i)
        (op.geometry.cols.window s.width j) (x.entry b c)).foldl f start) := by
  have hkh : 0 < op.geometry.kernel.h := h.rows.kernel_pos
  have hkw : 0 < op.geometry.kernel.w := h.cols.kernel_pos
  have hsh : 0 < op.geometry.stride.h := h.rows.stride_pos
  have hsw : 0 < op.geometry.stride.w := h.cols.stride_pos
  have hlh : op.geometry.kernel.h ≤ op.geometry.rows.lined s.height out.height :=
    (Nat.le_add_left _ _).trans (Axis.end_le_lined op.geometry.rows s.height h.out_height_pos)
  have hlw : op.geometry.kernel.w ≤ op.geometry.cols.lined s.width out.width :=
    (Nat.le_add_left _ _).trans (Axis.end_le_lined op.geometry.cols s.width h.out_width_pos)
  have hch : (op.geometry.rows.lined s.height out.height - op.geometry.kernel.h) /
      op.geometry.stride.h + 1 = out.height := by
    rw [h.height_eq]
    exact Axis.windows_lined h.rows h.rows_le h.height_pos
  have hcw : (op.geometry.cols.lined s.width out.width - op.geometry.kernel.w) /
      op.geometry.stride.w + 1 = out.width := by
    rw [h.width_eq]
    exact Axis.windows_lined h.cols h.cols_le h.width_pos
  have hshape : (bordered op.geometry x out v).shape = lined op.geometry s out := by rw [← hx]; rfl
  simp only [FeatureMap.slide, hshape, lined, MapShape.resize_height, MapShape.resize_width,
    MapShape.resize_resize, hch, hcw]
  rw [if_neg (by omega), if_neg (by omega)]
  have hout : s.resize out.height out.width = out := by rw [h.out_eq]; rfl
  rw [hout]
  refine congrArg Except.ok ?_
  apply FeatureMap.ofFn_congr
  intro b c i j hb hc hi hj
  have hb' : b < s.batch := by rw [h.out_eq] at hb; exact hb
  have hc' : c < s.channels := by rw [h.out_eq] at hc; exact hc
  exact h.fold_bordered hx hn hb' hc' hi hj

end Operator.Turns

end PoolCheck
